import Glassbeetle.Completions
import Glassbeetle.Transcripts

set_option autoImplicit false

namespace Glassbeetle.ContextInspection
open JsText JsValue ContextConstruction AdapterTypes Database ExecutionChain AsyncGenerator Inference
  MemberTurns TeamChat SingleAgentChat Completions Transcripts

variable {ν : Type}

section Source

/-- `buildForChat` without options, for a model that may be missing. -/
def inspectedInput (db : Tables ν) (chat : ChatRow) (agent : AgentRow ν)
    (model : Option (ModelRow ν)) : BuildContextInput where
  sources := {
    systemPromptTemplate := systemPromptTemplate db agent
    personality := agent.personality
    instructions := instructionsFor db chat agent
    contextSummary := chat.contextSummary }
  messages := (history db chat).map (inputMessage db chat)
  contextWindow := model.bind (·.contextWindow)
  fittingStrategy := some .refuse
  compactedBeforeSequence := chat.compactedBeforeSequence
  memorySeam := none
  isTeamChat := chat.teamId.isSome
  currentAgentId := some agent.id
  maxSequence := none

def inspectAgent (db : Tables ν) (chat : ChatRow) (agent : AgentRow ν) :
    Except Failure AssembledContext :=
  match buildContextPure (inspectedInput db chat agent ((truthy agent.modelId).bind db.model)) with
  | .ok context => .ok context
  | .error e => .error (.adapter (contextLengthExceededError e.message none))

/-- `buildByChatId`, which `inspectContext` calls without options. -/
def inspectContext (db : Tables ν) (chatId : JsString) : Except Failure AssembledContext := do
  let some chat := db.chat chatId | throw (chatNotFound chatId)
  match chat.teamId with
  | some teamId =>
    match getActiveTeamMembers db teamId with
    | [] => throw teamHasNoMembers
    | targetMember :: _ =>
      let some agent := db.agent targetMember.agentId
        | throw (.http 404 (js "AGENT_NOT_FOUND")
            (js "Agent \"" ++ targetMember.agentId ++ js "\" was not found"))
      inspectAgent db chat agent
  | none =>
    let some agentId := truthy chat.agentId
      | throw (unprocessable "CHAT_HAS_NO_AGENT"
          (js "Chat has no assigned agent to execute completions"))
    let some agent := db.agent agentId
      | throw (.http 404 (js "AGENT_NOT_FOUND") (js "Agent \"" ++ agentId ++
          js "\" assigned to chat \"" ++ chatId ++ js "\" not found"))
    inspectAgent db chat agent

end Source

def noOverrides : CreateCompletionDto ν := ⟨none, none, none, none, none⟩

def firstRequest (env : Environment ν) (db : Tables ν) (chatId : JsString) :
    Option (JsString × CompletionRequest ν) :=
  (completeChat env chatId noOverrides (World.start db)).final.requests.head?

def Shown (db : Tables ν) (chatId : JsString) (request : CompletionRequest ν) : Prop :=
  ∃ context, inspectContext db chatId = .ok context ∧
    request.systemPrompt = context.systemPrompt ∧ request.messages = context.messages

section FirstRequest

variable {α β : Type} (p : JsString × CompletionRequest ν → Prop)

/-- The first request has been sent and is as `p` says. -/
def Sent (w : World ν) : Prop := ∃ first ∈ w.requests.head?, p first

def Adds (g : Run ν α) : Prop :=
  Triple (Sent p) g (fun _ _ => True) (fun _ => Sent p) fun _ => Sent p

variable {p}

theorem adds_pure (a : α) : Adds p (pure a : Run ν α) := triple_pure a fun _ h => h

theorem adds_fail (failure : Failure) : Adds p (Gen.fail failure : Run ν α) :=
  triple_fail failure fun _ h => h

theorem adds_lift (r : Except Failure α) : Adds p (Gen.lift r : Run ν α) :=
  triple_lift r (fun _ _ _ h => h) fun _ _ _ h => h

theorem adds_bind (g : Run ν α) (f : α → Run ν β) (hg : Adds p g) (hf : ∀ a, Adds p (f a)) :
    Adds p (g >>= f) := triple_bind g f hg hf

theorem adds_read : Adds p (Gen.read : Run ν (World ν)) := triple_read fun _ h => h

theorem adds_modify (f : World ν → World ν) (hf : ∀ w, (f w).requests = w.requests) :
    Adds p (Gen.modify f : Run ν Unit) :=
  triple_modify f fun w ⟨first, hfirst, hp⟩ => ⟨first, by rwa [hf], hp⟩

theorem adds_attempt (g : Run ν α) (hg : Adds p g) : Adds p (Gen.attempt g) :=
  triple_attempt g hg (fun _ _ h => h) fun _ _ h => h

variable (env : Environment ν) (chat : ChatRow) (dto : CreateCompletionDto ν)

theorem adds_aborted : Adds p (isAborted env) := adds_bind _ _ adds_read fun _ => adds_pure _

theorem adds_newId : Adds p (newId env) :=
  adds_bind _ _ adds_read fun _ => adds_bind _ _ (adds_modify _ fun _ => rfl) fun _ => adds_pure _

theorem adds_persist (agent : AgentRow ν) (execution : Execution ν)
    (response : CompletionResponse) : Adds p (persistAssistantReply env chat agent execution response) := by
  refine adds_bind _ _ (adds_newId env) fun _ => adds_bind _ _ (adds_newId env) fun _ =>
    adds_bind _ _ adds_read fun w => ?_
  dsimp only
  split_ifs
  · exact adds_fail _
  · split
    · exact adds_fail _
    · exact adds_bind _ _ (adds_modify _ fun _ => rfl) fun _ => adds_pure _

theorem sent_call (agentId : JsString) (execution : Execution ν) (request : CompletionRequest ν) :
    Triple (fun w => w.requests = [] ∧ p (agentId, request) ∨ Sent p w)
      (callComplete env agentId execution request) (fun _ _ => True) (fun _ => Sent p)
      fun _ => Sent p := by
  refine triple_bind_read _ fun s hs => ?_
  refine triple_bind_modify _ _ (Sent p) (fun w hw => ?_) (adds_bind _ _ (adds_modify _ fun _ => rfl)
    fun _ => adds_lift _)
  obtain rfl := hw
  rcases hs with ⟨hnil, hp⟩ | ⟨first, hfirst, hp⟩
  · exact ⟨(agentId, request), by simp [hnil], hp⟩
  · exact ⟨first, by
      rw [Option.mem_def] at hfirst ⊢
      simp [List.head?_append, hfirst], hp⟩

theorem adds_call (agentId : JsString) (execution : Execution ν) (request : CompletionRequest ν) :
    Adds p (callComplete env agentId execution request) :=
  triple_conseq _ (sent_call env agentId execution request) (fun _ h => .inr h) (fun _ _ h => h)
    fun _ _ h => h

theorem adds_turn (turn : Turn) : Adds p (executeMemberTurn env chat dto turn) :=
  adds_bind _ _ adds_read fun _ => adds_bind _ _ (adds_lift _) fun _ =>
    adds_bind _ _ (adds_lift _) fun _ => adds_bind _ _ (adds_call env _ _ _) fun _ =>
      adds_persist env chat _ _ _

theorem adds_errorRow (agentId : JsString) : Adds p (recordTurnErrorRow env chat agentId) := by
  refine adds_bind _ _ (adds_newId env) fun _ => adds_bind _ _ adds_read fun w => ?_
  dsimp only
  split_ifs
  · exact adds_pure _
  · split
    · exact adds_pure _
    · exact adds_modify _ fun _ => rfl

theorem adds_guarded (turn : Turn) (completed : List CompletionResponseDto) :
    Adds p (guardedTurn env chat dto turn completed) := by
  refine adds_bind _ _ (adds_attempt _ (adds_turn env chat dto turn)) fun outcome => ?_
  cases outcome with
  | ok reply => exact adds_pure _
  | error failure =>
    dsimp only
    split_ifs
    · exact adds_bind _ _ (adds_errorRow env chat _) fun _ => adds_fail _
    · exact adds_fail _

theorem adds_pipeline (finish : JsString → Bool) (maxSequence : Option ℤ)
    (members : List TeamMember) (completed : List CompletionResponseDto) :
    Adds p (completePipeline env chat dto finish maxSequence members completed) := by
  induction members generalizing completed with
  | nil => exact adds_pure _
  | cons member rest ih =>
    refine adds_bind _ _ (adds_aborted env) fun aborted => ?_
    split_ifs
    · exact adds_fail _
    · exact adds_pure _
    · refine adds_bind _ _ (adds_guarded env chat dto _ _) fun reply => ?_
      split_ifs
      · exact adds_pure _
      · exact ih _

theorem adds_handoffs (team : Option TeamRow) (members : List TeamMember) (left : ℕ)
    (current : TeamMember) (completed : List CompletionResponseDto) :
    Adds p (completeHandoffs env chat dto team members left current completed) := by
  induction left generalizing current completed with
  | zero => exact adds_pure _
  | succ left ih =>
    refine adds_bind _ _ (adds_aborted env) fun aborted => ?_
    split_ifs
    · exact adds_fail _
    · exact adds_pure _
    · refine adds_bind _ _ (adds_guarded env chat dto _ _) fun reply => ?_
      dsimp only
      split_ifs
      · exact adds_pure _
      · split
        · exact adds_pure _
        · exact ih _ _

variable (p)

/-- Nothing has been sent, or the first request is as `p` says. -/
def MaybeSent (w : World ν) : Prop := w.requests = [] ∨ Sent p w

def Starts (s : World ν) (g : Run ν α) : Prop :=
  Triple (· = s) g (fun _ _ => True) (fun _ => MaybeSent p) fun _ => MaybeSent p

/-- From `s`, nothing has been sent when it throws before its request. -/
def Opens (s : World ν) (g : Run ν α) : Prop :=
  Triple (· = s) g (fun _ _ => True) (fun _ => Sent p) fun _ => MaybeSent p

variable {p}

theorem opens_then (s : World ν) (g : Run ν α) (f : α → Run ν β) (hg : Opens p s g)
    (hf : ∀ a, Adds p (f a)) : Starts p s (g >>= f) :=
  triple_bind g f
    (triple_conseq g hg (fun _ h => h) (fun _ _ h => h) fun _ _ h => h)
    fun a => triple_conseq _ (hf a) (fun _ h => h) (fun _ _ h => .inr h) fun _ _ h => .inr h

theorem opens_turn (s : World ν) (hs : s.requests = []) (turn : Turn)
    (hp : ∀ prepared, prepareTurn env.toRuntime s.db chat dto turn = .ok prepared →
      p (prepared.agent.id, prepared.request)) :
    Opens p s (executeMemberTurn env chat dto turn) := by
  refine triple_bind_read _ fun w hw => ?_
  obtain rfl := hw
  refine triple_bind_lift _ _ (fun prepared hprepared => ?_) fun _ _ w hw => .inl (hw ▸ hs)
  refine triple_bind_lift _ _ (fun _ _ => ?_) fun _ _ w hw => .inl (hw ▸ hs)
  refine triple_bind _ _ (triple_conseq _ (sent_call env _ _ _)
    (fun w hw => .inl ⟨hw ▸ hs, hp prepared hprepared⟩) (fun _ _ h => h) fun _ _ h => .inr h)
    fun _ => triple_conseq _ (adds_persist env chat _ _ _) (fun _ h => h) (fun _ _ h => h)
      fun _ _ h => .inr h

theorem opens_guarded (s : World ν) (turn : Turn)
    (hturn : Opens p s (executeMemberTurn env chat dto turn)) :
    Opens p s (guardedTurn env chat dto turn []) := by
  have hattempt : Triple (· = s) (Gen.attempt (executeMemberTurn env chat dto turn))
      (fun _ _ => True) (outcome (fun _ => Sent p) fun _ => MaybeSent p) fun _ => MaybeSent p :=
    triple_attempt _ hturn (fun _ _ h => h) fun _ _ h => h
  refine triple_bind _ _ hattempt fun outcome => ?_
  cases outcome with
  | ok reply => exact triple_pure _ fun _ h => h
  | error failure => exact triple_fail _ fun _ h => h

theorem starts_aborted (s : World ν) (f : Bool → Run ν α)
    (hf : ∀ aborted, Starts p s (f aborted)) : Starts p s (isAborted env >>= f) := by
  have haborted : Triple (· = s) (isAborted env) (fun _ _ => True) (fun _ w => w = s)
      fun _ => MaybeSent p :=
    triple_bind_read _ fun w hw => triple_pure _ fun _ h => h.trans hw
  exact triple_bind _ _ haborted hf

theorem starts_fail (s : World ν) (hs : s.requests = []) (failure : Failure) :
    Starts p s (Gen.fail failure : Run ν α) := triple_fail _ fun _ h => .inl (h ▸ hs)

theorem starts_pipeline (s : World ν) (hs : s.requests = []) (finish : JsString → Bool)
    (maxSequence : Option ℤ) (first : TeamMember) (rest : List TeamMember)
    (hp : ∀ prepared, prepareTurn env.toRuntime s.db chat dto ⟨first, maxSequence, none⟩ =
      .ok prepared → p (prepared.agent.id, prepared.request)) :
    Starts p s (completePipeline env chat dto finish maxSequence (first :: rest) []) := by
  refine starts_aborted env s _ fun aborted => ?_
  cases aborted with
  | true => exact starts_fail s hs abortedBeforeReply
  | false =>
    refine opens_then s _ _ (opens_guarded env chat dto s _
      (opens_turn env chat dto s hs _ hp)) fun reply => ?_
    split_ifs
    · exact adds_pure _
    · exact adds_pipeline env chat dto _ _ _ _

theorem starts_handoffs (s : World ν) (hs : s.requests = []) (team : Option TeamRow)
    (members : List TeamMember) (left : ℕ) (current : TeamMember)
    (hp : ∀ prepared, prepareTurn env.toRuntime s.db chat dto
      ⟨current, none, autonomousDirective team (others members current)⟩ = .ok prepared →
        p (prepared.agent.id, prepared.request)) :
    Starts p s (completeHandoffs env chat dto team members (left + 1) current []) := by
  refine starts_aborted env s _ fun aborted => ?_
  cases aborted with
  | true => exact starts_fail s hs abortedBeforeReply
  | false =>
    refine opens_then s _ _ (opens_guarded env chat dto s _
      (opens_turn env chat dto s hs _ hp)) fun reply => ?_
    dsimp only
    split_ifs
    · exact adds_pure _
    · split
      · exact adds_pure _
      · exact adds_handoffs env chat dto _ _ _ _ _

theorem starts_coordinator (s : World ν) (hs : s.requests = []) (team : Option TeamRow)
    (first : TeamMember) (rest : List TeamMember) (bound : ℕ)
    (hp : ∀ prepared, prepareTurn env.toRuntime s.db chat dto
      ⟨leadMember env.toLowerCase first rest, none, coordinatorDirective team
        (others (first :: rest) (leadMember env.toLowerCase first rest))⟩ = .ok prepared →
        p (prepared.agent.id, prepared.request)) :
    Starts p s (completeCoordinatorTeamChat env chat dto team first rest bound) := by
  refine opens_then s _ _ (opens_turn env chat dto s hs _ hp) fun reply => ?_
  split_ifs
  · split
    · exact adds_pure _
    · exact adds_bind _ _ (adds_guarded env chat dto _ _) fun _ => adds_pure _
  · exact adds_pure _

def openingTurn (toLowerCase : JsString → JsString) (db : Tables ν) (chat : ChatRow)
    (dto : CreateCompletionDto ν) (team : Option TeamRow) (first : TeamMember)
    (rest : List TeamMember) : Turn :=
  let lead := leadMember toLowerCase first rest
  match effectiveStrategy dto team with
  | .sequential => ⟨first, none, none⟩
  | .broadcast => ⟨first, some (db.maxSequence chat.id), none⟩
  | .coordinator => ⟨lead, none, coordinatorDirective team (others (first :: rest) lead)⟩
  | .autonomous => ⟨lead, none, autonomousDirective team (others (first :: rest) lead)⟩

theorem starts_team (s : World ν) (hs : s.requests = []) (teamId : JsString)
    (hp : ∀ first rest prepared, getActiveTeamMembers s.db teamId = first :: rest →
      preValidateTeamMembers env s.clock s.db dto.modelId false (first :: rest) = .ok () →
      prepareTurn env.toRuntime s.db chat dto (openingTurn env.toLowerCase s.db chat dto
        (s.db.team teamId) first rest) = .ok prepared → p (prepared.agent.id, prepared.request)) :
    Starts p s (completeTeamChat env chat dto teamId) := by
  refine triple_bind_read _ fun w hw => ?_
  obtain rfl := hw
  dsimp only
  cases hmembers : getActiveTeamMembers w.db teamId with
  | nil => exact starts_fail w hs _
  | cons first rest =>
    refine triple_bind_lift _ _ (fun _ hvalid => ?_) fun _ _ w hw => .inl (hw ▸ hs)
    have hopening := fun prepared => hp first rest prepared hmembers hvalid
    unfold openingTurn at hopening
    have hbound := boundedMaxTurns_pos dto (w.db.team teamId)
    obtain ⟨n, hn⟩ : ∃ n, boundedMaxTurns dto (w.db.team teamId) = n + 1 :=
      Nat.exists_eq_add_one.mpr hbound
    dsimp only at hopening ⊢
    rw [hn]
    cases hstrategy : effectiveStrategy dto (w.db.team teamId) with
    | coordinator =>
      rw [hstrategy] at hopening
      exact starts_coordinator env chat dto w hs _ _ _ _ hopening
    | autonomous =>
      rw [hstrategy] at hopening
      exact starts_handoffs env chat dto w hs _ _ _ _ hopening
    | sequential =>
      rw [hstrategy] at hopening
      exact starts_pipeline env chat dto w hs _ _ _ _ hopening
    | broadcast =>
      rw [hstrategy] at hopening
      refine triple_bind_read _ fun w' hw' => ?_
      obtain rfl := hw'
      exact starts_pipeline env chat dto w' hs _ _ _ _ hopening

theorem starts_agent (s : World ν) (hs : s.requests = [])
    (hp : ∀ agent execution prompt, resolveExecutionChain s.db chat dto.modelId =
      .ok (agent, execution) → buildContext s.db chat agent execution.model none = .ok prompt →
        p (agent.id, completionRequest env.toRuntime dto agent execution.model prompt)) :
    Opens p s (completeAgentChat env chat dto) := by
  refine triple_bind_read _ fun w hw => ?_
  obtain rfl := hw
  refine triple_bind_lift _ _ (fun chain hchain => ?_) fun _ _ w hw => .inl (hw ▸ hs)
  refine triple_bind_lift _ _ (fun prompt hprompt => ?_) fun _ _ w hw => .inl (hw ▸ hs)
  refine triple_bind_lift _ _ (fun _ _ => ?_) fun _ _ w hw => .inl (hw ▸ hs)
  refine triple_bind _ _ (triple_conseq _ (sent_call env _ _ _)
    (fun w hw => .inl ⟨hw ▸ hs, hp chain.1 chain.2 prompt hchain hprompt⟩) (fun _ _ h => h)
      fun _ _ h => .inr h)
    fun _ => triple_conseq _ (adds_persist env chat _ _ _) (fun _ h => h) (fun _ _ h => h)
      fun _ _ h => .inr h

end FirstRequest

def Opening (env : Environment ν) (db : Tables ν) (chatId : JsString)
    (request : CompletionRequest ν) : Prop :=
  ∃ chat, db.chat chatId = some chat ∧ match chat.teamId with
    | none => ∃ agent execution prompt, resolveExecutionChain db chat none = .ok (agent, execution) ∧
        buildContext db chat agent execution.model none = .ok prompt ∧
        request = completionRequest env.toRuntime noOverrides agent execution.model prompt
    | some teamId => ∃ first rest prepared, getActiveTeamMembers db teamId = first :: rest ∧
        preValidateTeamMembers env 0 db none false (first :: rest) = .ok () ∧
        prepareTurn env.toRuntime db chat noOverrides (openingTurn env.toLowerCase db chat
          noOverrides (db.team teamId) first rest) = .ok prepared ∧ request = prepared.request

theorem firstRequest_opening (env : Environment ν) (db : Tables ν) (chatId : JsString)
    (first : JsString × CompletionRequest ν) (h : firstRequest env db chatId = some first) :
    Opening env db chatId first.2 := by
  have hstarts : Starts (fun first => Opening env db chatId first.2) (World.start db)
      (completeChat env chatId noOverrides) := by
    refine triple_bind_read _ fun w hw => ?_
    obtain rfl := hw
    cases hchat : (World.start db).db.chat chatId with
    | none => exact starts_fail _ rfl _
    | some chat =>
      dsimp only
      split
      · rename_i teamId hteam
        refine starts_team env chat noOverrides (World.start db) rfl teamId
          fun first rest prepared hmembers hvalid hprepared => ⟨chat, hchat, ?_⟩
        rw [hteam]
        exact ⟨first, rest, prepared, hmembers, hvalid, hprepared, rfl⟩
      · rename_i hteam
        refine opens_then _ _ _ (starts_agent env chat noOverrides (World.start db) rfl
          fun agent execution prompt hchain hprompt => ⟨chat, hchat, ?_⟩) fun _ => adds_pure _
        rw [hteam]
        exact ⟨agent, execution, prompt, hchain, hprompt, rfl⟩
  have hend : MaybeSent (fun first => Opening env db chatId first.2)
      (completeChat env chatId noOverrides (World.start db)).final := by
    have hresult := (hstarts (World.start db) rfl).2
    cases hr : (completeChat env chatId noOverrides (World.start db)).result with
    | ok replies => rwa [hr] at hresult
    | error failure => rwa [hr] at hresult
  rcases hend with hnil | ⟨sent, hsent, hp⟩
  · rw [firstRequest, hnil] at h
    cases h
  · obtain rfl : sent = first := Option.some.inj (hsent.symm.trans h)
    exact hp

end Glassbeetle.ContextInspection
