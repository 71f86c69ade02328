import Glassbeetle.ContextAccounting
import Glassbeetle.MemberTurns

set_option autoImplicit false

/-!
# Transcripts

Of the messages of a chat a prompt depends on what was said only: not on the
identifiers of the rows, their times or their token counts.
-/
namespace Glassbeetle.Transcripts
open JsText SuffixFitting ContextConstruction ContextAccounting Database ExecutionChain Inference
  MemberTurns

section Prompts

def spoken (input : BuildContextInput) : List AdapterMessage :=
  (eligible input).map fun msg => (candidate input msg).adapterMessage

def promptTokens (prompt : Option JsString) : ℕ :=
  match prompt with
  | some prompt => 4 + estimateTokens (some prompt)
  | none => 0

/-- The outcome of the check of the window under the strategy `refuse`. -/
def withinWindow (prompt : Option JsString) (window : Option ℕ) (messages : List AdapterMessage) :
    Except ContextLengthExceededError Unit :=
  let tokens := promptTokens prompt + (messages.map estimateMessageTokens).sum
  match window with
  | none => .ok ()
  | some window =>
    if window < tokens then
      .error ⟨js "Context length exceeded: prompt contains approximately " ++ decimal tokens ++
        js " tokens, which exceeds the model limit of " ++ decimal window ++ js " tokens."⟩
    else .ok ()

def promptOf (input : BuildContextInput) : Except ContextLengthExceededError Prompt :=
  (buildContextPure input).map fun context => (context.systemPrompt, context.messages)

theorem promptOf_refuse (input : BuildContextInput)
    (hrefuse : input.fittingStrategy.getD .refuse = .refuse) :
    promptOf input = (withinWindow (systemPrompt input) (contextWindow input) (spoken input)).map
      fun _ => (systemPrompt input, spoken input) := by
  have htokens : systemTokens input = promptTokens (systemPrompt input) := rfl
  have htotal : total (systemTokens input) Candidate.estimatedTokens
      ((eligible input).map (candidate input)) =
      promptTokens (systemPrompt input) + ((spoken input).map estimateMessageTokens).sum := by
    rw [total, htokens, spoken, List.map_map, List.map_map]
    rfl
  have hmessages : ((eligible input).map (candidate input)).map Candidate.adapterMessage =
      spoken input := by
    rw [List.map_map]
    rfl
  have hfit : fitWindow (input.fittingStrategy.getD .refuse) (systemTokens input)
      (contextWindow input) ((eligible input).map (candidate input)) =
      (withinWindow (systemPrompt input) (contextWindow input) (spoken input)).map
        fun _ => ((eligible input).map (candidate input), []) := by
    rw [hrefuse]
    unfold fitWindow withinWindow
    cases contextWindow input with
    | none => rfl
    | some window =>
      dsimp only
      rw [htotal]
      split_ifs
      · rfl
      · rfl
  unfold promptOf buildContextPure
  have hsift : sift input (rawMessages input) = ((eligible input).map (candidate input),
      (sift input (rawMessages input)).2) := by
    rw [← candidates_eq]
  rw [hsift]
  dsimp only
  rw [hfit]
  cases withinWindow (systemPrompt input) (contextWindow input) (spoken input) with
  | error e => rfl
  | ok u =>
    change Except.ok (systemPrompt input, _) = Except.ok (systemPrompt input, _)
    rw [← hmessages]
    rfl

end Prompts

structure Said where
  sequence : ℤ
  role : JsString
  agentId : Option JsString
  content : JsString
  status : MessageStatus
  deriving DecidableEq

def said (row : MessageRow) : Said :=
  ⟨row.sequence, row.role, row.agentId, row.content, row.status⟩

variable {ν : Type}

def transcript (db : Tables ν) (chatId : JsString) : List Said :=
  ((db.messages.filter (·.chatId = chatId)).map said).insertionSort fun a b => a.sequence ≤ b.sequence

def heard (compactedBeforeSequence maxSequence : Option ℤ) (s : Said) : Bool :=
  s.status.text = complete ∧ trim s.content ≠ [] ∧
    before compactedBeforeSequence s.sequence = none ∧ after maxSequence s.sequence = none

def speak (db : Tables ν) (teamId currentAgentId : Option JsString) (s : Said) : AdapterMessage where
  role := validRole s.role
  content :=
    if teamId.isSome ∧ validRole s.role = js "assistant" then
      if (truthy currentAgentId).isSome ∧ s.agentId = currentAgentId then s.content
      else if (truthy s.agentId).isSome then
        let name : Option JsString := do return (← db.agent (← s.agentId)).name
        let role : Option JsString := do memberRole db (← teamId) (← s.agentId)
        js "[Team Member: " ++ (truthy name).getD (js "Team Member") ++
          (match truthy role with
            | some role => js " (" ++ role ++ js ")"
            | none => []) ++ js "]:\n" ++ s.content
      else js "[Team Member: Former Agent]:\n" ++ s.content
    else s.content
  name := none

theorem transcript_history (db : Tables ν) (chat : ChatRow) :
    transcript db chat.id = (history db chat).map said := by
  unfold transcript history
  exact (List.map_insertionSort (fun a b : MessageRow => a.sequence ≤ b.sequence)
    (fun a b : Said => a.sequence ≤ b.sequence) said _ fun _ _ _ _ => Iff.rfl).symm

theorem rawMessages_history (db : Tables ν) (chat : ChatRow) (agent : AgentRow ν)
    (model : ModelRow ν) (maxSequence : Option ℤ) :
    rawMessages (contextInput db chat agent model maxSequence) =
      (history db chat).map (inputMessage db chat) := by
  have hsorted : ((history db chat).map (inputMessage db chat)).Pairwise
      fun a b => a.sequence ≤ b.sequence := by
    rw [List.pairwise_map]
    exact List.pairwise_insertionSort (fun a b : MessageRow => a.sequence ≤ b.sequence) _
  exact hsorted.insertionSort_eq

theorem speak_candidate (db : Tables ν) (chat : ChatRow) (agent : AgentRow ν) (model : ModelRow ν)
    (maxSequence : Option ℤ) (row : MessageRow) :
    (candidate (contextInput db chat agent model maxSequence) (inputMessage db chat row)).adapterMessage
      = speak db chat.teamId (some agent.id) (said row) := by
  obtain ⟨id, agentId, teamId, summary, compacted, updated⟩ := chat
  cases teamId with
  | none => rfl
  | some teamId => rfl

theorem heard_eligible (db : Tables ν) (chat : ChatRow) (agent : AgentRow ν) (model : ModelRow ν)
    (maxSequence : Option ℤ) (row : MessageRow) :
    decide (Eligible (contextInput db chat agent model maxSequence) (inputMessage db chat row)) =
      heard chat.compactedBeforeSequence maxSequence (said row) :=
  decide_eq_decide.mpr (eligible_iff _ _)

theorem spoken_transcript (db : Tables ν) (chat : ChatRow) (agent : AgentRow ν)
    (model : ModelRow ν) (maxSequence : Option ℤ) :
    spoken (contextInput db chat agent model maxSequence) =
      ((transcript db chat.id).filter (heard chat.compactedBeforeSequence maxSequence)).map
        (speak db chat.teamId (some agent.id)) := by
  have hheard : (fun msg => decide (Eligible (contextInput db chat agent model maxSequence) msg)) ∘
      inputMessage db chat = heard chat.compactedBeforeSequence maxSequence ∘ said :=
    funext (heard_eligible db chat agent model maxSequence)
  rw [spoken, eligible, rawMessages_history, transcript_history]
  rw [List.filter_map, List.map_map, hheard, List.filter_map, List.map_map]
  exact List.map_congr_left fun row _ => speak_candidate db chat agent model maxSequence row

theorem orderedInsert_concat {α : Type} (r : α → α → Prop) [DecidableRel r] (a last : α)
    (l : List α) (h : r a last) :
    (l ++ [last]).orderedInsert r a = l.orderedInsert r a ++ [last] := by
  induction l with
  | nil => exact if_pos h
  | cons b rest ih =>
    by_cases hb : r a b
    · rw [List.cons_append, List.orderedInsert_cons, List.orderedInsert_cons, if_pos hb, if_pos hb]
      rfl
    · rw [List.cons_append, List.orderedInsert_cons, List.orderedInsert_cons, if_neg hb, if_neg hb,
        ih]
      rfl

theorem insertionSort_concat {α : Type} (r : α → α → Prop) [DecidableRel r] (last : α)
    (l : List α) (h : ∀ a ∈ l, r a last) :
    (l ++ [last]).insertionSort r = l.insertionSort r ++ [last] := by
  induction l with
  | nil => rfl
  | cons a rest ih =>
    change ((rest ++ [last]).insertionSort r).orderedInsert r a = _
    rw [ih fun b hb => h b (List.mem_cons_of_mem _ hb),
      orderedInsert_concat r a last _ (h a List.mem_cons_self)]
    rfl

structure SameSetting (db db' : Tables ν) : Prop where
  agents : db'.agents = db.agents
  models : db'.models = db.models
  providers : db'.providers = db.providers
  credentials : db'.credentials = db.credentials
  systemPrompts : db'.systemPrompts = db.systemPrompts
  teams : db'.teams = db.teams
  teamMembers : db'.teamMembers = db.teamMembers

theorem sameSetting_refl (db : Tables ν) : SameSetting db db := ⟨rfl, rfl, rfl, rfl, rfl, rfl, rfl⟩

theorem sameSetting_trans (a b c : Tables ν) (hab : SameSetting a b) (hbc : SameSetting b c) :
    SameSetting a c :=
  ⟨hbc.agents.trans hab.agents, hbc.models.trans hab.models, hbc.providers.trans hab.providers,
    hbc.credentials.trans hab.credentials, hbc.systemPrompts.trans hab.systemPrompts,
    hbc.teams.trans hab.teams, hbc.teamMembers.trans hab.teamMembers⟩

theorem buildContext_eq (db : Tables ν) (chat : ChatRow) (agent : AgentRow ν) (model : ModelRow ν)
    (maxSequence : Option ℤ) :
    buildContext db chat agent model maxSequence =
      match promptOf (contextInput db chat agent model maxSequence) with
      | .ok prompt => .ok prompt
      | .error e => .error (.adapter (AdapterTypes.contextLengthExceededError e.message none)) := by
  unfold buildContext promptOf buildForChat
  cases buildContextPure (contextInput db chat agent model maxSequence) with
  | error e => rfl
  | ok context => rfl

/-- Two databases with the same setting give the same prompt if the same was heard in both. -/
theorem buildContext_congr (db db' : Tables ν) (chat : ChatRow) (agent : AgentRow ν)
    (model : ModelRow ν) (bound bound' : Option ℤ) (hset : SameSetting db db')
    (hheard : (transcript db' chat.id).filter (heard chat.compactedBeforeSequence bound') =
      (transcript db chat.id).filter (heard chat.compactedBeforeSequence bound)) :
    buildContext db' chat agent model bound' = buildContext db chat agent model bound := by
  have hspoken : spoken (contextInput db' chat agent model bound') =
      spoken (contextInput db chat agent model bound) := by
    rw [spoken_transcript, spoken_transcript, hheard]
    have hspeak : speak db' chat.teamId (some agent.id) = speak db chat.teamId (some agent.id) := by
      unfold speak Tables.agent memberRole
      rw [hset.agents, hset.teamMembers]
    rw [hspeak]
  have hprompt : systemPrompt (contextInput db' chat agent model bound') =
      systemPrompt (contextInput db chat agent model bound) := by
    unfold systemPrompt contextInput systemPromptTemplate instructionsFor memberRole Tables.team
    rw [hset.systemPrompts, hset.teamMembers, hset.teams]
  have hwindow : contextWindow (contextInput db' chat agent model bound') =
      contextWindow (contextInput db chat agent model bound) := rfl
  rw [buildContext_eq, buildContext_eq, promptOf_refuse _ rfl, promptOf_refuse _ rfl, hspoken,
    hprompt, hwindow]

theorem resolveAgentExecution_congr (db db' : Tables ν) (agent : AgentRow ν)
    (overrideModelId : Option JsString) (hset : SameSetting db db') :
    resolveAgentExecution db' agent overrideModelId =
      resolveAgentExecution db agent overrideModelId := by
  unfold resolveAgentExecution resolveModel Tables.model Tables.provider
  rw [hset.models, hset.providers, hset.credentials]

theorem prepareTurn_congr (runtime : JsValue.Runtime ν) (db db' : Tables ν) (chat : ChatRow)
    (dto : CreateCompletionDto ν) (turn : Turn) (hset : SameSetting db db')
    (hheard : (transcript db' chat.id).filter (heard chat.compactedBeforeSequence turn.maxSequence) =
      (transcript db chat.id).filter (heard chat.compactedBeforeSequence turn.maxSequence)) :
    prepareTurn runtime db' chat dto turn = prepareTurn runtime db chat dto turn := by
  have hagent : db'.agent turn.member.agentId = db.agent turn.member.agentId := by
    unfold Tables.agent
    rw [hset.agents]
  have hmodel : ∀ id, resolveModel db' id = resolveModel db id := by
    intro id
    unfold resolveModel Tables.model Tables.provider
    rw [hset.models, hset.providers, hset.credentials]
  unfold prepareTurn
  rw [hagent]
  cases db.agent turn.member.agentId with
  | none => simp only [hmodel]
  | some agent =>
    simp only [resolveAgentExecution_congr db db' agent dto.modelId hset,
      buildContext_congr db db' chat _ _ _ _ hset hheard]

end Glassbeetle.Transcripts
