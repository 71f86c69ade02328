import Glassbeetle.QuietTurns

set_option autoImplicit false

namespace Glassbeetle.CompletionParity
open JsText AdapterTypes Database ExecutionChain AsyncGenerator Inference SingleAgentChat
  Completions Transcripts QuietRuns QuietTurns

variable {ν : Type}

theorem resolveExecutionChain_referable (db : Tables ν) (chat : ChatRow)
    (overrideModelId : Option JsString) (agent : AgentRow ν) (execution : Execution ν)
    (hchat : (db.chat chat.id).isSome)
    (h : resolveExecutionChain db chat overrideModelId = .ok (agent, execution)) :
    Referable db chat agent execution := by
  obtain ⟨agentId, -, hagent, hexecution⟩ := resolveExecutionChain_ok db chat _ _ _ h
  refine resolveAgentExecution_referable db chat agent execution _ hchat ?_ hexecution
  rw [agent_id db agentId agent hagent, hagent]
  rfl

section Modes

variable {env : Environment ν} (hq : Quiet env) (chat : ChatRow) (dto : CreateCompletionDto ν)
  (w : World ν) (hchat : (w.db.chat chat.id).isSome) (content : JsString)
  (usage : Option (TokenUsage ℤ))

def Left (tokenCount : Option ℤ) (w' : World ν) : Prop :=
  ∃ agent execution id eventId now occurredAt asked ids,
    resolveExecutionChain w.db chat dto.modelId = .ok (agent, execution) ∧
      Stage w w' [replyRow w.db chat id agent.id content .complete tokenCount now]
        [usageEvent eventId occurredAt agent.id chat.id execution usage] asked ids

include hq hchat

theorem completeAgentChat_quiet (hnone : w.requests = [])
    (hwhole : ∀ config request, env.complete 0 config request = .ok ⟨content, usage⟩) :
    Leads (· = w) (completeAgentChat env chat dto)
      (fun _ => Left chat dto w content usage (storedTokenCount usage)) fun _ _ => True := by
  refine triple_bind_read _ fun s hs => ?_
  obtain rfl := hs
  refine triple_bind_lift _ _ (fun chain hchain => ?_) fun _ _ _ _ => trivial
  refine triple_bind_lift _ _ (fun prompt hprompt => ?_) fun _ _ _ _ => trivial
  refine triple_bind_lift _ _ (fun streaming hcreate => ?_) fun _ _ _ _ => trivial
  obtain ⟨agent, execution⟩ := chain
  have href := resolveExecutionChain_referable _ _ _ _ _ hchat hchain
  refine triple_bind _ _ (triple_conseq _ (stage_call hq s agent execution 0 _)
    (fun w' hw' => hw' ▸ stage_refl s) (fun _ _ h => h) fun _ _ _ => trivial) fun response =>
      triple_intro _ fun hresponse => ?_
  rw [hnone] at hresponse
  obtain rfl := Except.ok.inj ((hwhole _ _).symm.trans hresponse)
  refine triple_conseq _ (stage_persist hq s chat agent execution _ 0 _ href) (fun _ h => h) ?_
    fun _ _ h => h
  rintro reply w' ⟨-, now, hstage⟩
  exact ⟨agent, execution, _, _, now, now, _, _, hchain, hstage⟩

omit hchat in
theorem announceReply_quiet (row : MessageRow) (p : Progress) (rows : List MessageRow)
    (events : List UsageEventRow) (asked : List (JsString × CompletionRequest ν)) (ids : ℕ) :
    Leads (Stage w · rows events asked ids) (announceReply env row p)
      (fun _ => (Stage w · rows events asked ids)) fun _ _ => True := by
  have husage : Leads (Stage w · rows events asked ids) (yieldUsage env p.reportedUsage)
      (fun _ => (Stage w · rows events asked ids)) fun _ _ => True := by
    cases p.reportedUsage with
    | none => exact triple_pure _ fun _ h => h
    | some usage => exact stage_yield hq w _ _ _ _ _
  exact triple_bind _ _ husage fun _ => triple_bind _ _ (stage_yield hq w _ _ _ _ _) fun _ =>
    stage_yield hq w _ _ _ _ _

omit hchat in
theorem finishReply_quiet (hfresh : ∀ row ∈ w.db.messages, row.id ≠ env.newId w.issued)
    (agent : AgentRow ν) (execution : Execution ν)
    (asked : List (JsString × CompletionRequest ν)) (row : MessageRow) (p : Progress)
    (hid : row.id = env.newId w.issued) (href : Referable w.db chat agent execution)
    (hchain : resolveExecutionChain w.db chat dto.modelId = .ok (agent, execution))
    (hcontent : p.accumulatedContent = content) (husage : p.reportedUsage = usage) :
    Leads (Drafted w chat agent.id asked env)
      (do
        let p ← flushPartial env chat row p .complete p.outputTokens
        match ← Gen.attempt (recordUsage env chat agent execution p.reportedUsage) with
        | .error failure => onFailure env chat row execution p failure
        | .ok () => announceReply env row p)
      (fun _ => Left chat dto w content usage (usage.map (·.outputTokens))) fun _ _ => True := by
  refine triple_bind _ _ (drafted_flush w chat agent.id asked row hid hfresh p _ _) fun p' =>
    triple_intro _ fun hcontent' => triple_intro _ fun husage' => triple_given fun s hs => ?_
  obtain ⟨now, hs⟩ := hs
  rw [hcontent] at hs
  have hrecord : ∀ E, Leads (· = s) (Gen.attempt (recordUsage env chat agent execution
      p'.reportedUsage)) (fun outcome w' => outcome = .ok () ∧ ∃ occurredAt, Stage w w'
        [replyRow w.db chat (env.newId w.issued) agent.id content .complete p.outputTokens now]
        [usageEvent (env.newId (w.issued + 1)) occurredAt agent.id chat.id execution
          p'.reportedUsage] asked 2) E := fun E =>
    triple_attempt _ (triple_conseq _ (stage_record w chat agent execution asked 1 _ _ href)
      (fun w' hw' => hw' ▸ hs) (fun _ _ h => h) fun _ _ h => h) (fun _ _ h => ⟨rfl, h⟩)
      fun _ _ h => absurd h id
  refine triple_bind _ _ (hrecord _) fun outcome => triple_intro _ fun houtcome =>
    triple_given fun s' hs' => ?_
  obtain ⟨occurredAt, hs'⟩ := hs'
  subst houtcome
  rw [husage', husage] at hs'
  refine triple_conseq _ (announceReply_quiet hq w row p' _ _ _ _) (fun w' hw' => hw' ▸ hs') ?_
    fun _ _ h => h
  intro _ w' hw'
  have hcount : p.outputTokens = usage.map (·.outputTokens) := by rw [← husage]; rfl
  rw [hcount] at hw'
  exact ⟨agent, execution, _, _, now, occurredAt, _, _, hchain, hw'⟩

theorem streamAgentChat_quiet (hnone : w.requests = [])
    (hfresh : ∀ row ∈ w.db.messages, row.id ≠ env.newId w.issued)
    (hstreamed : ∀ config request, delivery (env.stream 0 config request) = ⟨content, usage, none⟩) :
    Leads (· = w) (streamAgentChat env chat dto)
      (fun _ => Left chat dto w content usage (usage.map (·.outputTokens))) fun _ _ => True := by
  refine triple_bind_read _ fun s hs => ?_
  obtain rfl := hs
  refine triple_bind_lift _ _ (fun chain hchain => ?_) fun _ _ _ _ => trivial
  obtain ⟨agent, execution⟩ := chain
  have href := resolveExecutionChain_referable _ _ _ _ _ hchat hchain
  dsimp only
  rw [isAborted_eq env hq.present, Gen.pure_bind, if_neg Bool.false_ne_true]
  refine triple_bind_lift _ _ (fun streaming hcreate => ?_) fun _ _ _ _ => trivial
  split_ifs
  · exact triple_fail _ fun _ _ => trivial
  refine triple_bind_lift _ _ (fun prompt hprompt => ?_) fun _ _ _ _ => trivial
  refine triple_bind _ _ (triple_conseq _ (stage_pending hq s chat agent execution href)
    (fun w' hw' => hw' ▸ stage_refl s) (fun _ _ h => h) fun _ _ h => h) fun row =>
      triple_given fun s' hs' => ?_
  obtain ⟨now, hrow, hs'⟩ := hs'
  have hid : row.id = env.newId s.issued := by rw [hrow]; rfl
  refine triple_bind _ _ (triple_conseq _ (stage_yield hq s _ _ _ _ _) (fun _ hw' => hw' ▸ hs')
    (fun _ _ h => h) fun _ _ h => h) fun _ => triple_bind_read _ fun s'' hs'' => ?_
  have hlength : s''.requests.length = 0 := by rw [hs''.requests, List.append_nil, hnone]; rfl
  rw [hlength]
  refine triple_bind _ _ (triple_conseq _ (stage_send s _ _ _ _ agent.id _)
    (fun _ hw' => hw' ▸ hs'') (fun _ _ h => h) fun _ _ h => h) fun _ => ?_
  refine triple_bind _ _ (triple_conseq _ (drafted_readStream hq s chat agent.id _ row hid hfresh
    _ _ _) (fun w' hw' => ⟨[], .pending, none, now, hrow ▸ hw'⟩) (fun _ _ h => h) fun _ _ h => h)
    fun out => triple_intro _ fun hout => ?_
  have hdelivered := hstreamed execution.config
    (completionRequest env.toRuntime dto agent execution.model prompt)
  rw [delivery] at hdelivered
  obtain ⟨hcontent, husage, hending⟩ := Delivery.mk.inj (hout.trans hdelivered)
  rw [hending, Gen.pure_bind, if_neg Bool.false_ne_true]
  exact finishReply_quiet hq chat dto s content usage hfresh agent execution _ row out.1 hid href
    hchain hcontent husage

end Modes

/-- A row of `messages` without its identifier and its time. -/
structure ReplyFields where
  chatId : JsString
  sequence : ℤ
  role : JsString
  agentId : Option JsString
  content : JsString
  status : MessageStatus
  tokenCount : Option ℤ
  deriving DecidableEq

/-- A row of `usage_events` without its identifier and its time. -/
structure UsageFields where
  eventType : JsString
  agentId : Option JsString
  providerId : Option JsString
  modelId : Option JsString
  chatId : Option JsString
  inputTokens : Option ℤ
  outputTokens : Option ℤ
  deriving DecidableEq

def replies (db : Tables ν) (w : World ν) : List ReplyFields :=
  (w.db.messages.drop db.messages.length).map fun row =>
    ⟨row.chatId, row.sequence, row.role, row.agentId, row.content, row.status, row.tokenCount⟩

def usages (db : Tables ν) (w : World ν) : List UsageFields :=
  (w.db.usageEvents.drop db.usageEvents.length).map fun row =>
    ⟨row.eventType, row.agentId, row.providerId, row.modelId, row.chatId, row.inputTokens,
      row.outputTokens⟩

/-- Only a count that is not positive is kept by one and dropped by the other. -/
theorem storedTokenCount_iff (usage : Option (TokenUsage ℤ)) :
    storedTokenCount usage = usage.map (·.outputTokens) ↔ ∀ u ∈ usage, 0 < u.outputTokens := by
  cases usage with
  | none => exact iff_of_true rfl fun _ h => by cases h
  | some u =>
    unfold storedTokenCount
    rw [Option.map_some, Option.filter_eq_some_iff]
    constructor
    · rintro ⟨-, hpos⟩ u' hu'
      cases hu'
      exact of_decide_eq_true hpos
    · intro hpos
      exact ⟨rfl, decide_eq_true (hpos u rfl)⟩

/-- The two completions leave the same, unless there is a count that is not positive. -/
theorem completion_parity (env : Environment ν) (hq : Quiet env) (db : Tables ν)
    (hfresh : ∀ row ∈ db.messages, ∀ n, row.id ≠ env.newId n) (chatId : JsString) (chat : ChatRow)
    (dto : CreateCompletionDto ν) (hchat : db.chat chatId = some chat) (hagent : chat.teamId = none)
    (content : JsString) (usage : Option (TokenUsage ℤ))
    (hwhole : ∀ config request, env.complete 0 config request = .ok ⟨content, usage⟩)
    (hstreamed : ∀ config request,
      delivery (env.stream 0 config request) = ⟨content, usage, none⟩)
    (hok : ∃ replies, (completeChat env chatId dto (.start db)).result = .ok replies)
    (hok' : (streamChat env chatId dto (.start db)).result = .ok ()) :
    let whole := (completeChat env chatId dto (.start db)).final
    let streamed := (streamChat env chatId dto (.start db)).final
    (replies db streamed = replies db whole ∧ usages db streamed = usages db whole) ↔
      ∀ u ∈ usage, 0 < u.outputTokens := by
  intro whole streamed
  have hfound := chat_isSome db chatId chat hchat
  have hfirst : Left chat dto (World.start db) content usage (storedTokenCount usage) whole := by
    have hcomplete := completeChat_agent env chat dto chatId (World.start db) hchat hagent
    have hrun := (completeAgentChat_quiet hq chat dto (World.start db) hfound content usage rfl
      hwhole (World.start db) rfl).2
    obtain ⟨_, hreplies⟩ := hok
    rw [hcomplete] at hreplies
    cases hresult : (completeAgentChat env chat dto (World.start db)).result with
    | error failure =>
      rw [Gen.bind_error _ _ _ _ hresult] at hreplies
      cases hreplies
    | ok reply =>
      rw [hresult] at hrun
      rw [Gen.bind_ok _ _ _ _ hresult] at hcomplete
      have hfinal := congrArg Trace.final hcomplete
      change Left chat dto (World.start db) content usage _ (completeChat env chatId dto _).final
      rw [hfinal]
      exact hrun
  have hsecond : Left chat dto (World.start db) content usage (usage.map (·.outputTokens))
      streamed := by
    have hstream := streamChat_agent env chat dto chatId (World.start db) hchat hagent
    have hrun := (streamAgentChat_quiet hq chat dto (World.start db) hfound content usage rfl
      (fun row hrow => hfresh row hrow 0) hstreamed (World.start db) rfl).2
    rw [hstream] at hok'
    rw [hok'] at hrun
    change Left chat dto (World.start db) content usage _ (streamChat env chatId dto _).final
    rw [hstream]
    exact hrun
  obtain ⟨agent, execution, id, eventId, now, occurredAt, asked, ids, hchain, hstage⟩ := hfirst
  obtain ⟨agent', execution', id', eventId', now', occurredAt', asked', ids', hchain', hstage'⟩ :=
    hsecond
  obtain ⟨rfl, rfl⟩ := Prod.mk.inj (Except.ok.inj (hchain.symm.trans hchain'))
  rw [← storedTokenCount_iff]
  unfold replies usages
  rw [hstage.extended.messages, hstage'.extended.messages, hstage.extended.usageEvents,
    hstage'.extended.usageEvents]
  have hdb : (World.start db).db = db := rfl
  rw [hdb, List.drop_left, List.drop_left, List.drop_left, List.drop_left]
  constructor
  · rintro ⟨hreplies, -⟩
    have hrow := List.head_eq_of_cons_eq hreplies
    exact (congrArg ReplyFields.tokenCount hrow).symm
  · intro hcount
    constructor
    · rw [hcount]
      rfl
    · rfl

theorem completion_parity_hello :
    let env := sampleEnvironment (fun _ => js "hello") (some ⟨3, 5, 8, none⟩)
    let whole := (completeChat env (js "c") plainDto (.start (sampleTables .sequential))).final
    let streamed := (streamChat env (js "c") plainDto (.start (sampleTables .sequential))).final
    (replies (sampleTables .sequential) streamed = replies (sampleTables .sequential) whole ∧
      usages (sampleTables .sequential) streamed = usages (sampleTables .sequential) whole) ↔
        ∀ u ∈ (some ⟨3, 5, 8, none⟩ : Option (TokenUsage ℤ)), 0 < u.outputTokens := by
  have hwhole := ok_of_isOk (completeChat (sampleEnvironment (fun _ => js "hello")
    (some ⟨3, 5, 8, none⟩)) (js "c") plainDto (.start (sampleTables .sequential))).result
      (by decide +kernel)
  obtain ⟨_, hstreamed⟩ := ok_of_isOk (streamChat (sampleEnvironment (fun _ => js "hello")
    (some ⟨3, 5, 8, none⟩)) (js "c") plainDto (.start (sampleTables .sequential))).result
      (by decide +kernel)
  exact completion_parity (sampleEnvironment (fun _ => js "hello") (some ⟨3, 5, 8, none⟩))
    ⟨fun _ _ => rfl, fun _ => rfl, fun _ => rfl, fun _ _ => rfl⟩ (sampleTables .sequential)
    (sampleTables_fresh .sequential _ _) (js "c") ⟨js "c", some (js "Ann"), none, none, none, []⟩
    plainDto rfl rfl (js "hello") (some ⟨3, 5, 8, none⟩) (fun _ _ => rfl) (fun _ _ => rfl) hwhole
    hstreamed

/-- A count of zero is kept by the one that streams only. -/
theorem zero_count_differs :
    let env := sampleEnvironment (fun _ => js "hello") (some ⟨3, 0, 3, none⟩)
    let whole := (completeChat env (js "c") plainDto (.start (sampleTables .sequential))).final
    let streamed := (streamChat env (js "c") plainDto (.start (sampleTables .sequential))).final
    replies (sampleTables .sequential) streamed ≠ replies (sampleTables .sequential) whole := by
  intro env whole streamed
  change replies (sampleTables .sequential) (streamChat (sampleEnvironment (fun _ => js "hello")
      (some ⟨3, 0, 3, none⟩)) (js "c") plainDto (.start (sampleTables .sequential))).final ≠
    replies (sampleTables .sequential) (completeChat (sampleEnvironment (fun _ => js "hello")
      (some ⟨3, 0, 3, none⟩)) (js "c") plainDto (.start (sampleTables .sequential))).final
  decide +kernel

end Glassbeetle.CompletionParity
