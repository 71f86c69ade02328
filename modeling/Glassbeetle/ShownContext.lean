import Glassbeetle.ContextInspection

set_option autoImplicit false

namespace Glassbeetle.ShownContext
open JsText ContextConstruction Database ExecutionChain Inference MemberTurns TeamChat Completions
  Transcripts ContextInspection

section Ink

def ink (s : JsString) : ℕ := s.countP fun c => !isSpace c

def inkOf (value : Option JsString) : ℕ := ink (value.getD [])

theorem ink_append (s t : JsString) : ink (s ++ t) = ink s + ink t := List.countP_append

theorem ink_dropWhile (s : JsString) : ink (s.dropWhile isSpace) = ink s := by
  induction s with
  | nil => rfl
  | cons c rest ih =>
    by_cases hc : isSpace c = true
    · rw [List.dropWhile_cons_of_pos hc, ih]
      exact (List.countP_cons_of_neg (by simp [hc])).symm
    · rw [List.dropWhile_cons_of_neg hc]

theorem ink_trim (s : JsString) : ink (trim s) = ink s := by
  have hreverse : ∀ t : JsString, ink t.reverse = ink t := fun t => List.countP_reverse
  calc ink (trim s)
      = ink (trimStart s) := by rw [trim, trimEnd, hreverse, ink_dropWhile, hreverse]
    _ = ink s := by rw [trimStart, ink_dropWhile]

theorem inkOf_trimmed (value : Option JsString) : inkOf (trimmed value) = inkOf value := by
  cases value with
  | none => rfl
  | some text =>
    have htext : inkOf (some text) = ink (trim text) := (ink_trim text).symm
    rw [htext, trimmed, Option.bind_some]
    split_ifs with h
    · rw [h]
      rfl
    · rfl

theorem inkOf_truthy (value : Option JsString) : inkOf (truthy value) = inkOf value := by
  cases value with
  | none => rfl
  | some text =>
    cases text with
    | nil => rfl
    | cons c rest => rfl

theorem ink_join (separator : JsString) (parts : List JsString) (hblank : ink separator = 0) :
    ink (join separator parts) = (parts.map ink).sum := by
  induction parts with
  | nil => rfl
  | cons part rest ih =>
    cases rest with
    | nil => simp [join]
    | cons next rest =>
      have hj : join separator (part :: next :: rest) =
          part ++ (separator ++ join separator (next :: rest)) := by
        simp [join, List.intercalate, List.intersperse]
      rw [hj, ink_append, ink_append, hblank, ih, Nat.zero_add]
      rfl

theorem ink_sections (values : List (Option JsString)) :
    ((values.filterMap id).map ink).sum = (values.map inkOf).sum := by
  induction values with
  | nil => rfl
  | cons value rest ih =>
    cases value with
    | none =>
      change _ = 0 + (rest.map inkOf).sum
      rw [Nat.zero_add]
      exact ih
    | some text =>
      change ink text + ((rest.filterMap id).map ink).sum = ink text + (rest.map inkOf).sum
      rw [ih]

theorem ink_prompt (sources : ContextSourceData) (memory : Option JsString) :
    inkOf (assembleSystemPrompt sources memory).1 =
      inkOf sources.systemPromptTemplate + inkOf sources.personality + inkOf sources.instructions +
        inkOf memory + inkOf ((trimmed sources.contextSummary).map (js "Context summary:\n" ++ ·)) := by
  have hsections : ∀ values : List (Option JsString),
      inkOf (if (values.filterMap id).length > 0 then
        some (join (js "\n\n") (values.filterMap id)) else none) = (values.map inkOf).sum := by
    intro values
    rw [← ink_sections]
    split_ifs with h
    · exact ink_join _ _ (by decide)
    · rw [List.length_eq_zero_iff.mp (Nat.eq_zero_of_not_pos h)]
      rfl
  have hprompt := hsections [trimmed sources.systemPromptTemplate, trimmed sources.personality,
    trimmed sources.instructions, trimmed memory,
    (trimmed sources.contextSummary).map (js "Context summary:\n" ++ ·)]
  simp only [List.map_cons, List.map_nil, List.sum_cons, List.sum_nil, inkOf_trimmed] at hprompt
  refine Eq.trans hprompt ?_
  omega

end Ink

variable {ν : Type}

section Persona

def persona (db : Tables ν) (chat : ChatRow) (agent : AgentRow ν) : Option JsString :=
  (assembleSystemPrompt {
    systemPromptTemplate := systemPromptTemplate db agent
    personality := agent.personality
    instructions := instructionsFor db chat agent
    contextSummary := chat.contextSummary } none).1

def reading (db : Tables ν) (chat : ChatRow) (agentId : JsString) (maxSequence : Option ℤ) :
    List AdapterMessage :=
  ((transcript db chat.id).filter (heard chat.compactedBeforeSequence maxSequence)).map
    (speak db chat.teamId (some agentId))

def modelWindow (model : ModelRow ν) : Option ℕ := (model.contextWindow.filter (0 < ·)).map Int.toNat

theorem inkOf_appended (base : Option JsString) (extra : JsString) :
    inkOf (match truthy base with
      | some text => some (text ++ js "\n\n" ++ extra)
      | none => some extra) = inkOf base + ink extra := by
  rw [← inkOf_truthy base]
  cases truthy base with
  | none => exact (Nat.zero_add _).symm
  | some text =>
    have hseparator : ink (js "\n\n") = 0 := by decide
    change ink (text ++ js "\n\n" ++ extra) = ink text + ink extra
    rw [ink_append, ink_append, hseparator, Nat.add_zero]

theorem inkOf_instructionsFor (db : Tables ν) (chat : ChatRow) (agent : AgentRow ν) :
    inkOf (instructionsFor db chat agent) = inkOf agent.instructions +
      inkOf (instructionsFor db chat { agent with instructions := none }) := by
  unfold instructionsFor
  cases chat.teamId with
  | none => rfl
  | some teamId =>
    dsimp only
    cases trimmed (memberRole db teamId agent.id) with
    | none => rfl
    | some role => exact inkOf_appended _ _

theorem inkOf_effectiveAgent (agent : AgentRow ν) (extra : Option JsString) :
    inkOf (effectiveAgent agent extra).instructions = inkOf agent.instructions + inkOf extra := by
  rw [← inkOf_truthy extra]
  unfold effectiveAgent
  cases truthy extra with
  | none => rfl
  | some text => exact inkOf_appended _ _

theorem effectiveAgent_eq (agent : AgentRow ν) (extra : Option JsString) :
    ∃ instructions, effectiveAgent agent extra = { agent with instructions := instructions } := by
  unfold effectiveAgent
  cases truthy extra with
  | none => exact ⟨agent.instructions, rfl⟩
  | some text => exact ⟨_, rfl⟩

theorem effectiveAgent_none (agent : AgentRow ν) : effectiveAgent agent none = agent := rfl

def written (db : Tables ν) (chat : ChatRow) (agent : AgentRow ν) : ℕ :=
  inkOf (systemPromptTemplate db agent) + inkOf agent.personality +
    inkOf (instructionsFor db chat agent)

theorem written_effectiveAgent (db : Tables ν) (chat : ChatRow) (agent : AgentRow ν)
    (extra : Option JsString) :
    written db chat (effectiveAgent agent extra) = written db chat agent + inkOf extra := by
  have hadded := inkOf_effectiveAgent agent extra
  obtain ⟨instructions, heq⟩ := effectiveAgent_eq agent extra
  rw [heq] at hadded ⊢
  have hinstructions :
      inkOf (instructionsFor db chat { agent with instructions := instructions }) =
        inkOf (instructionsFor db chat agent) + inkOf extra := by
    rw [inkOf_instructionsFor, inkOf_instructionsFor db chat agent, hadded]
    dsimp only
    omega
  have htemplate : systemPromptTemplate db { agent with instructions := instructions } =
      systemPromptTemplate db agent := rfl
  unfold written
  rw [hinstructions, htemplate]
  exact (Nat.add_assoc _ _ _).symm

theorem written_of_persona (db : Tables ν) (chat : ChatRow) (agent other : AgentRow ν)
    (h : persona db chat agent = persona db chat other) :
    written db chat agent = written db chat other := by
  have hink := congrArg inkOf h
  unfold persona at hink
  rw [ink_prompt, ink_prompt] at hink
  dsimp only at hink
  unfold written
  omega

end Persona

section Shown

variable (db : Tables ν) (chat : ChatRow)

def Fits (model : ModelRow ν) (agent : AgentRow ν) (maxSequence : Option ℤ) : Prop :=
  withinWindow (persona db chat agent) (modelWindow model) (reading db chat agent.id maxSequence) =
    .ok ()

theorem promptOf_ok_iff (agent : AgentRow ν) (model : ModelRow ν) (maxSequence : Option ℤ)
    (prompt : Prompt) :
    promptOf (contextInput db chat agent model maxSequence) = .ok prompt ↔
      Fits db chat model agent maxSequence ∧
        prompt = (persona db chat agent, reading db chat agent.id maxSequence) := by
  have hspoken := spoken_transcript db chat agent model maxSequence
  have hpersona : systemPrompt (contextInput db chat agent model maxSequence) =
      persona db chat agent := rfl
  have hwindow : contextWindow (contextInput db chat agent model maxSequence) =
      modelWindow model := rfl
  rw [promptOf_refuse _ rfl, hspoken, hpersona, hwindow]
  unfold Fits reading
  cases withinWindow (persona db chat agent) (modelWindow model) _ with
  | error e =>
    refine iff_of_false (fun h => ?_) fun h => ?_
    · cases h
    · cases h.1
  | ok u =>
    constructor
    · intro h
      cases h
      exact ⟨rfl, rfl⟩
    · rintro ⟨-, rfl⟩
      rfl

theorem buildContext_ok_iff (agent : AgentRow ν) (model : ModelRow ν) (maxSequence : Option ℤ)
    (prompt : Prompt) :
    buildContext db chat agent model maxSequence = .ok prompt ↔
      Fits db chat model agent maxSequence ∧
        prompt = (persona db chat agent, reading db chat agent.id maxSequence) := by
  rw [← promptOf_ok_iff, buildContext_eq]
  cases promptOf (contextInput db chat agent model maxSequence) with
  | error e =>
    refine iff_of_false (fun h => ?_) fun h => ?_
    · cases h
    · cases h
  | ok found =>
    constructor
    · intro h
      cases h
      rfl
    · intro h
      cases h
      rfl

theorem inspectAgent_iff (agent : AgentRow ν) (model : ModelRow ν) (prompt : Prompt)
    (hmodel : (truthy agent.modelId).bind db.model = some model) :
    (∃ context, inspectAgent db chat agent = .ok context ∧ prompt.1 = context.systemPrompt ∧
        prompt.2 = context.messages) ↔
      Fits db chat model agent none ∧
        prompt = (persona db chat agent, reading db chat agent.id none) := by
  have hinput : inspectedInput db chat agent (some model) =
      contextInput db chat agent model none := rfl
  rw [← promptOf_ok_iff]
  unfold inspectAgent promptOf
  rw [hmodel, hinput]
  cases buildContextPure (contextInput db chat agent model none) with
  | error e =>
    refine iff_of_false (fun ⟨_, h, _⟩ => ?_) fun h => ?_
    · cases h
    · cases h
  | ok context =>
    constructor
    · rintro ⟨_, h, hp, hm⟩
      cases h
      exact congrArg Except.ok (Prod.ext hp.symm hm.symm)
    · intro h
      cases h
      exact ⟨context, rfl, rfl, rfl⟩

variable {db}

theorem resolveAgentExecution_model (agent : AgentRow ν) (execution : Execution ν)
    (h : resolveAgentExecution db agent none = .ok execution) :
    (truthy agent.modelId).bind db.model = some execution.model := by
  unfold resolveAgentExecution at h
  rw [Option.none_or] at h
  cases hid : truthy agent.modelId with
  | none => rw [hid] at h; cases h
  | some id =>
    rw [hid] at h
    exact (resolveModel_found db id execution h).1

theorem preValidate_member (env : Environment ν) (moment : ℕ) (modelIdOverride : Option JsString)
    (streaming : Bool) (members : List TeamMember) (member : TeamMember) (hmem : member ∈ members)
    (h : preValidateTeamMembers env moment db modelIdOverride streaming members = .ok ()) :
    ∃ agent execution, db.agent member.agentId = some agent ∧
      resolveAgentExecution db agent modelIdOverride = .ok execution := by
  induction members with
  | nil => cases hmem
  | cons first rest ih =>
    unfold preValidateTeamMembers at h
    cases hagent : db.agent first.agentId with
    | none => rw [hagent] at h; cases h
    | some agent =>
      simp only [hagent] at h
      obtain ⟨execution, hexecution, h⟩ := ok_of_bind _ _ _ h
      obtain rfl | hrest := List.mem_cons.mp hmem
      · exact ⟨agent, execution, hagent, hexecution⟩
      · split_ifs at h
        · obtain ⟨_, -, h⟩ := ok_of_bind _ _ _ h
          exact ih hrest (ok_of_guard _ _ _ _ h)
        · exact ih hrest h

variable (db) {chat}

theorem inspectContext_agent (chatId agentId : JsString) (agent : AgentRow ν)
    (hchat : db.chat chatId = some chat) (hteam : chat.teamId = none)
    (hid : truthy chat.agentId = some agentId) (hagent : db.agent agentId = some agent) :
    inspectContext db chatId = inspectAgent db chat agent := by
  unfold inspectContext
  rw [hchat]
  dsimp only
  rw [hteam]
  dsimp only
  rw [hid]
  dsimp only
  rw [hagent]

theorem inspectContext_team (chatId teamId : JsString) (first : TeamMember)
    (rest : List TeamMember) (agent : AgentRow ν) (hchat : db.chat chatId = some chat)
    (hteam : chat.teamId = some teamId)
    (hmembers : getActiveTeamMembers db teamId = first :: rest)
    (hagent : db.agent first.agentId = some agent) :
    inspectContext db chatId = inspectAgent db chat agent := by
  unfold inspectContext
  rw [hchat]
  dsimp only
  rw [hteam]
  dsimp only
  rw [hmembers]
  dsimp only
  rw [hagent]

theorem shown_iff (chatId : JsString) (agent : AgentRow ν) (model : ModelRow ν)
    (request : CompletionRequest ν)
    (hinspect : inspectContext db chatId = inspectAgent db chat agent)
    (hmodel : (truthy agent.modelId).bind db.model = some model) :
    Shown db chatId request ↔ Fits db chat model agent none ∧
      (request.systemPrompt, request.messages) =
        (persona db chat agent, reading db chat agent.id none) := by
  unfold Shown
  rw [hinspect]
  exact inspectAgent_iff db chat agent model (request.systemPrompt, request.messages) hmodel

end Shown

section Readers

variable (db : Tables ν) (chat : ChatRow)

/-- Nothing that either agent said is heard. -/
def Silent (agentId otherId : JsString) : Prop :=
  ∀ s ∈ transcript db chat.id, heard chat.compactedBeforeSequence none s = true →
    validRole s.role = js "assistant" →
      truthy s.agentId ≠ some agentId ∧ truthy s.agentId ≠ some otherId

theorem speak_own (teamId agentId : JsString) (s : Said)
    (hrole : validRole s.role = js "assistant") (hown : truthy s.agentId = some agentId) :
    speak db (some teamId) (some agentId) s = ⟨js "assistant", s.content, none⟩ := by
  obtain ⟨hid, hne⟩ := Option.filter_eq_some_iff.mp hown
  have htruthy : truthy (some agentId) = some agentId := Option.filter_eq_some_iff.mpr ⟨rfl, hne⟩
  unfold speak
  simp [hrole, htruthy, hid]

theorem speak_other (teamId agentId speaker : JsString) (s : Said)
    (hrole : validRole s.role = js "assistant") (hspeaker : truthy s.agentId = some speaker)
    (hother : speaker ≠ agentId) :
    (speak db (some teamId) (some agentId) s).content ≠ s.content := by
  have hid : s.agentId = some speaker := (Option.filter_eq_some_iff.mp hspeaker).1
  have hforeign : s.agentId ≠ some agentId := by
    rw [hid]
    exact fun h => hother (Option.some.inj h)
  unfold speak
  simp only [hrole, Option.isSome_some, and_self, if_true, hforeign, and_false, if_false,
    hspeaker, ne_eq]
  intro h
  have hlength := congrArg List.length h
  simp only [List.length_append] at hlength
  have hbanner : (js "[Team Member: ").length = 14 := by decide
  omega

theorem speak_stranger (teamId agentId otherId : JsString) (s : Said)
    (hsilent : validRole s.role = js "assistant" →
      truthy s.agentId ≠ some agentId ∧ truthy s.agentId ≠ some otherId) :
    speak db (some teamId) (some agentId) s = speak db (some teamId) (some otherId) s := by
  have hforeign : ∀ id, truthy s.agentId ≠ some id →
      ¬((truthy (some id)).isSome ∧ s.agentId = some id) := by
    rintro id hne ⟨hsome, hid⟩
    obtain ⟨found, hfound⟩ := Option.isSome_iff_exists.mp hsome
    obtain ⟨rfl, -⟩ := Option.filter_eq_some_iff.mp hfound |>.imp_left Option.some.inj
    exact hne (hid ▸ hfound)
  unfold speak
  by_cases hrole : validRole s.role = js "assistant"
  · obtain ⟨hagent, hother⟩ := hsilent hrole
    rw [if_neg (hforeign agentId hagent), if_neg (hforeign otherId hother)]
  · have hnot : ¬((some teamId).isSome ∧ validRole s.role = js "assistant") := fun h => hrole h.2
    rw [if_neg hnot, if_neg hnot]

theorem reading_alike (teamId agentId otherId : JsString) (hteam : chat.teamId = some teamId)
    (hne : agentId ≠ otherId) :
    reading db chat agentId none = reading db chat otherId none ↔ Silent db chat agentId otherId := by
  unfold reading Silent
  rw [hteam, List.map_inj_left]
  constructor
  · intro h s hs hheard hrole
    have hsame := h s (List.mem_filter.mpr ⟨hs, hheard⟩)
    refine ⟨fun hown => ?_, fun hown => ?_⟩
    · refine speak_other db teamId otherId agentId s hrole hown hne ?_
      rw [← hsame, speak_own db teamId agentId s hrole hown]
    · refine speak_other db teamId agentId otherId s hrole hown hne.symm ?_
      rw [hsame, speak_own db teamId otherId s hrole hown]
  · intro h s hs
    obtain ⟨hmem, hheard⟩ := List.mem_filter.mp hs
    exact speak_stranger db teamId agentId otherId s (h s hmem hheard)

end Readers

/-- All that could make the first member pass for a lead that is told about the others: it is another
agent, as much is written for it as for the lead and in the directive, and neither has been heard. -/
structure Alike (db : Tables ν) (chat : ChatRow) (first lead : TeamMember)
    (directive : Option JsString) (agent leadAgent : AgentRow ν) : Prop where
  agent_found : db.agent first.agentId = some agent
  lead_found : db.agent lead.agentId = some leadAgent
  other : first.agentId ≠ lead.agentId
  ink : written db chat agent = written db chat leadAgent + inkOf directive
  silent : Silent db chat first.agentId lead.agentId

def led (strategy : TeamStrategy) : Bool := strategy = .coordinator ∨ strategy = .autonomous

/-- Where the chat is a team's and the team has a lead, no active member has another agent than the
first. -/
def Undirected (db : Tables ν) (chatId : JsString) : Prop :=
  ∀ chat, db.chat chatId = some chat → ∀ teamId, chat.teamId = some teamId →
    led (effectiveStrategy (noOverrides : CreateCompletionDto ν) (db.team teamId)) = true →
      ∀ first rest, getActiveTeamMembers db teamId = first :: rest →
        ∀ member ∈ rest, member.agentId = first.agentId

def Coincidence (toLowerCase : JsString → JsString) (db : Tables ν) (chatId : JsString) : Prop :=
  ∃ chat teamId first rest agent leadAgent, db.chat chatId = some chat ∧
    chat.teamId = some teamId ∧ getActiveTeamMembers db teamId = first :: rest ∧
      let turn := openingTurn toLowerCase db chat noOverrides (db.team teamId) first rest
      Alike db chat first turn.member turn.extraInstructions agent leadAgent

section OpeningTurn

variable (toLowerCase : JsString → JsString) (db : Tables ν) (chat : ChatRow)
  (dto : CreateCompletionDto ν) (team : Option TeamRow) (first : TeamMember)
  (rest : List TeamMember)

theorem openingTurn_first (hled : led (effectiveStrategy dto team) = false) :
    (openingTurn toLowerCase db chat dto team first rest).member = first ∧
      (openingTurn toLowerCase db chat dto team first rest).extraInstructions = none := by
  unfold openingTurn
  cases h : effectiveStrategy dto team with
  | sequential => exact ⟨rfl, rfl⟩
  | broadcast => exact ⟨rfl, rfl⟩
  | coordinator => rw [h] at hled; cases hled
  | autonomous => rw [h] at hled; cases hled

theorem coordinatorDirective_ink (specialists : List TeamMember) (h : specialists ≠ []) :
    0 < inkOf (coordinatorDirective team specialists) := by
  have hlength : specialists.length > 0 := List.length_pos_iff.mpr h
  have hopening : 0 < ink (js "You are the designated Coordinator for team \"") := by decide
  unfold coordinatorDirective
  rw [if_pos hlength, inkOf, Option.getD_some]
  simp only [ink_append]
  omega

theorem autonomousDirective_ink (colleagues : List TeamMember) (h : colleagues ≠ []) :
    0 < inkOf (autonomousDirective team colleagues) := by
  have hlength : colleagues.length > 0 := List.length_pos_iff.mpr h
  have hopening : 0 < ink (js "Available colleagues:\n") := by decide
  unfold autonomousDirective
  rw [if_pos hlength, inkOf, Option.getD_some]
  simp only [ink_append]
  omega

theorem openingTurn_lead (hled : led (effectiveStrategy dto team) = true) :
    let turn := openingTurn toLowerCase db chat dto team first rest
    (others (first :: rest) turn.member = [] → turn.extraInstructions = none) ∧
      (others (first :: rest) turn.member ≠ [] → 0 < inkOf turn.extraInstructions) := by
  unfold openingTurn
  cases h : effectiveStrategy dto team with
  | sequential => rw [h] at hled; cases hled
  | broadcast => rw [h] at hled; cases hled
  | coordinator =>
    refine ⟨fun hnone => ?_, coordinatorDirective_ink team _⟩
    dsimp only at hnone ⊢
    rw [hnone]
    rfl
  | autonomous =>
    refine ⟨fun hnone => ?_, autonomousDirective_ink team _⟩
    dsimp only at hnone ⊢
    rw [hnone]
    rfl

theorem openingTurn_mem :
    (openingTurn toLowerCase db chat dto team first rest).member ∈ first :: rest := by
  unfold openingTurn
  cases effectiveStrategy dto team with
  | sequential => exact List.mem_cons_self
  | broadcast => exact List.mem_cons_self
  | coordinator => exact leadMember_mem toLowerCase first rest
  | autonomous => exact leadMember_mem toLowerCase first rest

theorem others_nil (members : List TeamMember) (member : TeamMember)
    (h : others members member = []) : ∀ other ∈ members, other.agentId = member.agentId := by
  intro other hother
  simpa using List.filter_eq_nil_iff.mp h other hother

theorem reading_bounded (agentId : JsString) :
    reading db chat agentId (some (db.maxSequence chat.id)) = reading db chat agentId none := by
  unfold reading transcript
  refine congrArg (List.map _) (List.filter_congr fun s hs => ?_)
  obtain ⟨row, hrow, rfl⟩ := List.mem_map.mp ((List.mem_insertionSort _).mp hs)
  obtain ⟨hmem, hchat⟩ := List.mem_filter.mp hrow
  have hle := le_maxSequence db chat.id row hmem (of_decide_eq_true hchat)
  have hafter : after (some (db.maxSequence chat.id)) (said row).sequence = none :=
    Option.filter_eq_none_iff.mpr fun bound hbound hlt => by
      cases hbound
      exact absurd (of_decide_eq_true hlt) (Int.not_lt.mpr hle)
  unfold heard
  rw [hafter]
  rfl

theorem openingTurn_reading (agentId : JsString) :
    reading db chat agentId (openingTurn toLowerCase db chat dto team first rest).maxSequence =
      reading db chat agentId none := by
  unfold openingTurn
  cases effectiveStrategy dto team with
  | sequential => rfl
  | broadcast => exact reading_bounded db chat agentId
  | coordinator => rfl
  | autonomous => rfl

end OpeningTurn

theorem effectiveAgent_id (agent : AgentRow ν) (extra : Option JsString) :
    (effectiveAgent agent extra).id = agent.id := by
  obtain ⟨_, h⟩ := effectiveAgent_eq agent extra
  rw [h]

section Comparison

variable (env : Environment ν) (db : Tables ν) (chatId : JsString) {chat : ChatRow}

theorem agent_shown (request : CompletionRequest ν) (agent : AgentRow ν) (execution : Execution ν)
    (prompt : Prompt) (hchat : db.chat chatId = some chat) (hteam : chat.teamId = none)
    (hchain : resolveExecutionChain db chat none = .ok (agent, execution))
    (hprompt : buildContext db chat agent execution.model none = .ok prompt)
    (hrequest : request = completionRequest env.toRuntime noOverrides agent execution.model prompt) :
    Shown db chatId request := by
  obtain ⟨agentId, hid, hagent, hexecution⟩ := resolveExecutionChain_ok db chat none _ _ hchain
  obtain ⟨hfits, rfl⟩ := (buildContext_ok_iff _ _ _ _ _ _).mp hprompt
  have hinspect := inspectContext_agent db chatId agentId agent hchat hteam hid hagent
  have hmodel := resolveAgentExecution_model agent execution hexecution
  rw [shown_iff db chatId agent execution.model request hinspect hmodel, hrequest]
  exact ⟨hfits, rfl⟩

theorem alike_of_shown (teamId : JsString) (hteam : chat.teamId = some teamId)
    (first lead : TeamMember) (agent leadAgent : AgentRow ν) (extra : Option JsString)
    (hagent : db.agent first.agentId = some agent) (hlead : db.agent lead.agentId = some leadAgent)
    (hpos : 0 < inkOf extra)
    (htexts : persona db chat agent = persona db chat (effectiveAgent leadAgent extra))
    (hreading : reading db chat agent.id none = reading db chat leadAgent.id none) :
    Alike db chat first lead extra agent leadAgent := by
  have hink : written db chat agent = written db chat leadAgent + inkOf extra := by
    rw [← written_effectiveAgent]
    exact written_of_persona db chat agent _ htexts
  have hother : first.agentId ≠ lead.agentId := by
    intro hsame
    rw [← hsame, hagent] at hlead
    rw [Option.some.inj hlead] at hink
    omega
  rw [agent_id db _ _ hagent, agent_id db _ _ hlead, reading_alike db chat teamId _ _ hteam hother]
    at hreading
  exact ⟨hagent, hlead, hother, hink, hreading⟩

/-- Where the lead is not told about others, its context is shown; where it is, it is shown only of a
first member that is alike. -/
theorem team_shown (request : CompletionRequest ν) (teamId : JsString) (first : TeamMember)
    (rest : List TeamMember) (prepared : PreparedTurn ν) (hchat : db.chat chatId = some chat)
    (hteam : chat.teamId = some teamId)
    (hmembers : getActiveTeamMembers db teamId = first :: rest)
    (hvalid : preValidateTeamMembers env 0 db none false (first :: rest) = .ok ())
    (hprepared : prepareTurn env.toRuntime db chat noOverrides (openingTurn env.toLowerCase db chat
      noOverrides (db.team teamId) first rest) = .ok prepared)
    (hrequest : request = prepared.request) :
    ((led (effectiveStrategy (noOverrides : CreateCompletionDto ν) (db.team teamId)) = true →
        ∀ member ∈ rest, member.agentId = first.agentId) → Shown db chatId request) ∧
      (Shown db chatId request →
        (led (effectiveStrategy (noOverrides : CreateCompletionDto ν) (db.team teamId)) = true →
          ∀ member ∈ rest, member.agentId = first.agentId) ∨
        ∃ agent leadAgent,
          let turn := openingTurn env.toLowerCase db chat noOverrides (db.team teamId) first rest
          Alike db chat first turn.member turn.extraInstructions agent leadAgent) := by
  obtain ⟨agent, execution, hagent, hexecution⟩ :=
    preValidate_member env 0 none false _ first List.mem_cons_self hvalid
  obtain ⟨hlead, hleadExecution, prompt, hprompt, hsent⟩ :=
    prepareTurn_ok _ _ _ _ _ _ hprepared
  obtain ⟨hfits, rfl⟩ := (buildContext_ok_iff _ _ _ _ _ _).mp hprompt
  have hinspect := inspectContext_team db chatId teamId first rest agent hchat hteam hmembers hagent
  have hmodel := resolveAgentExecution_model agent execution hexecution
  rw [shown_iff db chatId agent execution.model request hinspect hmodel, hrequest, hsent]
  rw [Fits, openingTurn_reading, effectiveAgent_id] at hfits
  rw [openingTurn_reading, effectiveAgent_id]
  dsimp only [completionRequest]
  set turn := openingTurn env.toLowerCase db chat noOverrides (db.team teamId) first rest with hturn
  -- The lead is the first member, and told nothing.
  have halone : turn.member.agentId = first.agentId → turn.extraInstructions = none →
      Fits db chat execution.model agent none ∧
        (persona db chat (effectiveAgent prepared.agent turn.extraInstructions),
          reading db chat prepared.agent.id none) =
          (persona db chat agent, reading db chat agent.id none) := by
    intro hsame hnone
    rw [hsame, hagent] at hlead
    obtain rfl := Option.some.inj hlead
    rw [show noOverrides.modelId = none from rfl, hexecution] at hleadExecution
    obtain rfl := Except.ok.inj hleadExecution
    rw [hnone, effectiveAgent_none] at hfits ⊢
    exact ⟨hfits, rfl⟩
  cases hled : led (effectiveStrategy (noOverrides : CreateCompletionDto ν) (db.team teamId)) with
  | false =>
    obtain ⟨hmember, hnone⟩ := openingTurn_first env.toLowerCase db chat noOverrides
      (db.team teamId) first rest hled
    exact ⟨fun _ => halone (congrArg _ hmember) hnone, fun _ => .inl fun h => nomatch h⟩
  | true =>
    obtain ⟨hquiet, htold⟩ := openingTurn_lead env.toLowerCase db chat noOverrides
      (db.team teamId) first rest hled
    have hmem := openingTurn_mem env.toLowerCase db chat noOverrides (db.team teamId) first rest
    by_cases hothers : others (first :: rest) turn.member = []
    · have hsame := others_nil _ _ hothers
      have hfirst := hsame first List.mem_cons_self
      refine ⟨fun _ => halone hfirst.symm (hquiet hothers), fun _ => .inl fun _ member hmember => ?_⟩
      exact (hsame member (List.mem_cons_of_mem _ hmember)).trans hfirst.symm
    · constructor
      · intro hall
        refine absurd (List.filter_eq_nil_iff.mpr fun member hmember => ?_) hothers
        have hfirst : ∀ m ∈ first :: rest, m.agentId = first.agentId :=
          List.forall_mem_cons.mpr ⟨rfl, hall rfl⟩
        simp [hfirst member hmember, hfirst turn.member hmem]
      · rintro ⟨-, hsame⟩
        obtain ⟨htexts, hreading⟩ := Prod.mk.inj hsame
        exact .inr ⟨agent, prepared.agent, alike_of_shown db teamId hteam first turn.member agent
          prepared.agent turn.extraInstructions hagent hlead (htold hothers) htexts.symm hreading.symm⟩

end Comparison

/-- What is shown is what is sent where no lead is told about others, and elsewhere at most by
coincidence. -/
theorem context_shown (env : Environment ν) (db : Tables ν) (chatId : JsString)
    (first : JsString × CompletionRequest ν) (h : firstRequest env db chatId = some first) :
    (Undirected db chatId → Shown db chatId first.2) ∧
      (Shown db chatId first.2 → Undirected db chatId ∨ Coincidence env.toLowerCase db chatId) := by
  obtain ⟨chat, hchat, hopening⟩ := firstRequest_opening env db chatId first h
  cases hteam : chat.teamId with
  | none =>
    rw [hteam] at hopening
    obtain ⟨agent, execution, prompt, hchain, hprompt, hrequest⟩ := hopening
    refine ⟨fun _ => agent_shown env db chatId _ agent execution prompt hchat hteam hchain hprompt
      hrequest, fun _ => .inl ?_⟩
    intro other hother teamId hotherTeam
    rw [hchat] at hother
    obtain rfl := Option.some.inj hother
    rw [hteam] at hotherTeam
    cases hotherTeam
  | some teamId =>
    rw [hteam] at hopening
    obtain ⟨member, rest, prepared, hmembers, hvalid, hprepared, hrequest⟩ := hopening
    obtain ⟨henough, honly⟩ := team_shown env db chatId _ teamId member rest prepared hchat hteam
      hmembers hvalid hprepared hrequest
    refine ⟨fun hundirected => henough fun hled => ?_, fun hshown => (honly hshown).imp ?_ ?_⟩
    · exact hundirected chat hchat teamId hteam hled member rest hmembers
    · intro hall other hother id hid hled first' rest' hfound
      rw [hchat] at hother
      obtain rfl := Option.some.inj hother
      rw [hteam] at hid
      obtain rfl := Option.some.inj hid
      rw [hmembers] at hfound
      obtain ⟨rfl, rfl⟩ := List.cons.inj hfound
      exact hall hled
    · rintro ⟨agent, leadAgent, halike⟩
      exact ⟨chat, teamId, member, rest, agent, leadAgent, hchat, hteam, hmembers, halike⟩

theorem context_shown_sequential :
    ∃ first, firstRequest (sampleEnvironment (fun _ => js "hello") none) (sampleTables .sequential)
        (js "d") = some first ∧
      Shown (sampleTables .sequential) (js "d") first.2 := by
  obtain ⟨first, hfirst⟩ : ∃ first, firstRequest (sampleEnvironment (fun _ => js "hello") none)
      (sampleTables .sequential) (js "d") = some first :=
    Option.isSome_iff_exists.mp (by decide +kernel)
  have hshown := context_shown (sampleEnvironment (fun _ => js "hello") none) _ _ first hfirst
  refine ⟨first, hfirst, hshown.1 fun chat hchat teamId hteam hled => ?_⟩
  rw [sampleTables_chat] at hchat
  cases hchat
  cases hteam
  cases hled

instance (db : Tables ν) (chatId : JsString) (request : CompletionRequest ν) :
    Decidable (Shown db chatId request) :=
  match h : inspectContext db chatId with
  | .error _ => isFalse fun ⟨_, hok, _⟩ => by rw [h] at hok; cases hok
  | .ok context =>
    decidable_of_iff (request.systemPrompt = context.systemPrompt ∧
      request.messages = context.messages)
      ⟨fun hsame => ⟨context, h, hsame⟩, fun ⟨_, hok, hsame⟩ => by
        rw [h] at hok
        cases hok
        exact hsame⟩

/-- The coordinator's directive is sent and not shown. -/
theorem directive_not_shown :
    ∃ first, firstRequest (sampleEnvironment (fun _ => js "hello") none)
        (sampleTables .coordinator) (js "d") = some first ∧
      ¬Shown (sampleTables .coordinator) (js "d") first.2 := by
  have hsent : (firstRequest (sampleEnvironment (fun _ => js "hello") none)
      (sampleTables .coordinator) (js "d")).any
        (fun first => !decide (Shown (sampleTables .coordinator) (js "d") first.2)) = true := by
    decide +kernel
  obtain ⟨first, hfirst, hshown⟩ := (Option.any_eq_true _ _).mp hsent
  exact ⟨first, hfirst, by simpa using hshown⟩

end Glassbeetle.ShownContext
