import Glassbeetle.Transcripts
import Glassbeetle.Completions

set_option autoImplicit false

/-!
# Runs that nothing interferes with

Nobody else acts, the client stays and the database works. What a run then adds
to the database, step by step.
-/
namespace Glassbeetle.QuietRuns
open JsText Utf8Text AdapterTypes Database ExecutionChain AsyncGenerator Inference MemberTurns Transcripts

variable {ν : Type}

structure Quiet (env : Environment ν) : Prop where
  others : ∀ moment db, env.others moment db = db
  present : ∀ moment, env.aborted moment = false
  storage : ∀ moment, env.storageFails moment = false
  steady : ∀ moment config, env.create moment config = env.create 0 config

structure Extended (db db' : Tables ν) (rows : List MessageRow) (events : List UsageEventRow) :
    Prop where
  setting : SameSetting db db'
  chats : ∀ id, (db'.chat id).isSome = (db.chat id).isSome
  messages : db'.messages = db.messages ++ rows
  usageEvents : db'.usageEvents = db.usageEvents ++ events

section Extension

theorem extended_refl (db : Tables ν) : Extended db db [] [] :=
  ⟨sameSetting_refl db, fun _ => rfl, (List.append_nil _).symm, (List.append_nil _).symm⟩

theorem extended_touch (db db' : Tables ν) (chatId now : JsString) (rows : List MessageRow)
    (events : List UsageEventRow) (h : Extended db db' rows events) :
    Extended db (db'.touchChat chatId now) rows events :=
  ⟨⟨h.setting.agents, h.setting.models, h.setting.providers, h.setting.credentials,
      h.setting.systemPrompts, h.setting.teams, h.setting.teamMembers⟩,
    fun id => (touchChat_isSome db' chatId now id).trans (h.chats id), h.messages, h.usageEvents⟩

theorem extended_row (db db' : Tables ν) (rows : List MessageRow) (events : List UsageEventRow)
    (row : MessageRow) (h : Extended db db' rows events) :
    Extended db { db' with messages := db'.messages ++ [row] } (rows ++ [row]) events :=
  ⟨⟨h.setting.agents, h.setting.models, h.setting.providers, h.setting.credentials,
      h.setting.systemPrompts, h.setting.teams, h.setting.teamMembers⟩, h.chats, by
    change db'.messages ++ [row] = _
    rw [h.messages, List.append_assoc], h.usageEvents⟩

theorem extended_event (db db' : Tables ν) (rows : List MessageRow) (events : List UsageEventRow)
    (event : UsageEventRow) (h : Extended db db' rows events) :
    Extended db { db' with usageEvents := db'.usageEvents ++ [event] } rows (events ++ [event]) :=
  ⟨⟨h.setting.agents, h.setting.models, h.setting.providers, h.setting.credentials,
      h.setting.systemPrompts, h.setting.teams, h.setting.teamMembers⟩, h.chats, h.messages, by
    change db'.usageEvents ++ [event] = _
    rw [h.usageEvents, List.append_assoc]⟩

theorem extended_write (db db' : Tables ν) (row : MessageRow) (events : List UsageEventRow)
    (status : MessageStatus) (content : JsString) (tokenCount : Option ℤ)
    (hfresh : ∀ other ∈ db.messages, other.id ≠ row.id) (h : Extended db db' [row] events) :
    Extended db (db'.writeMessage row.id status content tokenCount)
      [{ row with status := status, content := stored content, tokenCount := tokenCount }] events := by
  refine ⟨⟨h.setting.agents, h.setting.models, h.setting.providers, h.setting.credentials,
    h.setting.systemPrompts, h.setting.teams, h.setting.teamMembers⟩, h.chats, ?_, h.usageEvents⟩
  change db'.messages.map (writeRow row.id status content tokenCount) = _
  have hold : db.messages.map (writeRow row.id status content tokenCount) = db.messages := by
    refine (List.map_congr_left fun other hother => ?_).trans (List.map_id _)
    exact if_neg (hfresh other hother)
  rw [h.messages, List.map_append, hold]
  refine congrArg _ (congrArg (fun r => [r]) ?_)
  exact if_pos rfl

theorem extended_maxSequence (db db' : Tables ν) (events : List UsageEventRow) (chatId : JsString)
    (h : Extended db db' [] events) : db'.maxSequence chatId = db.maxSequence chatId := by
  unfold Tables.maxSequence
  rw [h.messages, List.append_nil]

theorem extended_transcript (db db' : Tables ν) (row : MessageRow) (events : List UsageEventRow)
    (hnext : row.sequence = db.maxSequence row.chatId + 1) (h : Extended db db' [row] events) :
    transcript db' row.chatId = transcript db row.chatId ++ [said row] := by
  unfold transcript
  have hrow : [row].filter (fun other => decide (other.chatId = row.chatId)) = [row] :=
    List.filter_eq_self.mpr fun other hother => by simp [List.mem_singleton.mp hother]
  rw [h.messages, List.filter_append, hrow, List.map_append]
  refine insertionSort_concat _ (said row) _ fun s hs => ?_
  obtain ⟨other, hother, rfl⟩ := List.mem_map.mp hs
  obtain ⟨hmem, hchat⟩ := List.mem_filter.mp hother
  have hle := le_maxSequence db row.chatId other hmem (of_decide_eq_true hchat)
  change other.sequence ≤ row.sequence
  omega

end Extension

/-- What a run has added since `w₀`. -/
structure Stage (w₀ w : World ν) (rows : List MessageRow) (events : List UsageEventRow)
    (asked : List (JsString × CompletionRequest ν)) (ids : ℕ) : Prop where
  extended : Extended w₀.db w.db rows events
  requests : w.requests = w₀.requests ++ asked
  issued : w.issued = w₀.issued + ids

theorem stage_refl (w : World ν) : Stage w w [] [] [] 0 :=
  ⟨extended_refl w.db, (List.append_nil _).symm, rfl⟩

abbrev Leads {α : Type} (P : World ν → Prop) (g : Run ν α) (Q : α → World ν → Prop)
    (E : Failure → World ν → Prop) : Prop := Triple P g (fun _ _ => True) Q E

section Steps

variable {env : Environment ν} (hq : Quiet env) {E : Failure → World ν → Prop} (w₀ : World ν)
  (rows : List MessageRow) (events : List UsageEventRow)
  (asked : List (JsString × CompletionRequest ν)) (ids : ℕ)

include hq in
theorem stage_suspend : Leads (Stage w₀ · rows events asked ids) (suspend env)
    (fun _ => (Stage w₀ · rows events asked ids)) E := by
  refine triple_modify _ fun w hw => ?_
  rw [hq.others]
  exact ⟨hw.extended, hw.requests, hw.issued⟩

include hq in
theorem stage_yield (event : SseCompletionEvent) : Leads (Stage w₀ · rows events asked ids)
    (yieldEvent env event) (fun _ => (Stage w₀ · rows events asked ids)) E :=
  triple_bind_modify _ _ (Stage w₀ · rows events asked ids)
    (fun _ hw => ⟨hw.extended, hw.requests, hw.issued⟩)
    (triple_bind_emit event _ (fun _ _ => trivial) (stage_suspend hq w₀ rows events asked ids))

theorem stage_note (hazard : World ν → Hazard ν) : Leads (Stage w₀ · rows events asked ids)
    (note hazard) (fun _ => (Stage w₀ · rows events asked ids)) E := by
  refine triple_modify _ fun w hw => ?_
  split_ifs
  · exact hw
  · exact ⟨hw.extended, hw.requests, hw.issued⟩

theorem stage_send (agentId : JsString) (request : CompletionRequest ν) :
    Leads (Stage w₀ · rows events asked ids) (send agentId request)
      (fun _ => (Stage w₀ · rows events (asked ++ [(agentId, request)]) ids)) E := by
  refine triple_modify _ fun w hw => ⟨hw.extended, ?_, hw.issued⟩
  change w.requests ++ _ = _
  rw [hw.requests, List.append_assoc]

theorem stage_newId : Leads (Stage w₀ · rows events asked ids) (newId env)
    (fun id w => id = env.newId (w₀.issued + ids) ∧ Stage w₀ w rows events asked (ids + 1)) E := by
  refine triple_bind_read _ fun s hs => triple_bind_modify _ _
    (Stage w₀ · rows events asked (ids + 1)) (fun w hw => ?_)
    (triple_pure _ fun w hw => ⟨by rw [hs.issued], hw⟩)
  obtain rfl := hw
  refine ⟨hs.extended, hs.requests, ?_⟩
  change w.issued + 1 = _
  rw [hs.issued, Nat.add_assoc]

end Steps

def replyRow (db : Tables ν) (chat : ChatRow) (id agentId content : JsString)
    (status : MessageStatus) (tokenCount : Option ℤ) (createdAt : JsString) : MessageRow where
  id := id
  chatId := chat.id
  sequence := db.maxSequence chat.id + 1
  role := js "assistant"
  agentId := some agentId
  content := stored content
  status := status
  tokenCount := tokenCount
  createdAt := createdAt

structure Referable (db : Tables ν) (chat : ChatRow) (agent : AgentRow ν) (execution : Execution ν) :
    Prop where
  chat : (db.chat chat.id).isSome
  agent : (db.agent agent.id).isSome
  model : (db.model execution.model.id).isSome
  provider : (db.provider execution.provider.id).isSome

section Writing

variable {db db' : Tables ν} {chat : ChatRow} {agent : AgentRow ν} {execution : Execution ν}
  {rows : List MessageRow} {events : List UsageEventRow}

theorem referable_extended (h : Referable db chat agent execution)
    (hext : Extended db db' rows events) : Referable db' chat agent execution := by
  have hagents := hext.setting.agents
  have hmodels := hext.setting.models
  have hproviders := hext.setting.providers
  refine ⟨(hext.chats chat.id).trans h.chat, ?_, ?_, ?_⟩
  · unfold Tables.agent
    rw [hagents]
    exact h.agent
  · unfold Tables.model
    rw [hmodels]
    exact h.model
  · unfold Tables.provider
    rw [hproviders]
    exact h.provider

theorem insertMessage_extended (id content now : JsString) (status : MessageStatus)
    (tokenCount : Option ℤ) (href : Referable db chat agent execution)
    (hext : Extended db db' [] events) :
    ∃ after, db'.insertMessage id chat.id agent.id content status tokenCount now =
        some (replyRow db chat id agent.id content status tokenCount now, after) ∧
      Extended db after [replyRow db chat id agent.id content status tokenCount now] events := by
  have href' := referable_extended href hext
  have hrow := extended_row db db' [] events
    (replyRow db chat id agent.id content status tokenCount now) hext
  refine ⟨_, ?_, hrow⟩
  unfold Tables.insertMessage
  rw [if_pos ⟨href'.chat, href'.agent⟩]
  dsimp only
  rw [extended_maxSequence db db' events chat.id hext]
  rfl

theorem insertUsageEvent_extended (id now : JsString) (usage : Option (TokenUsage ℤ))
    (href : Referable db chat agent execution) (hext : Extended db db' rows events) :
    ∃ after, db'.insertUsageEvent (usageEvent id now agent.id chat.id execution usage) =
        some after ∧
      Extended db after rows (events ++ [usageEvent id now agent.id chat.id execution usage]) := by
  have href' := referable_extended href hext
  refine ⟨_, ?_, extended_event db db' rows events _ hext⟩
  unfold Tables.insertUsageEvent
  exact if_pos ⟨href'.agent, href'.provider, href'.model, href'.chat⟩

end Writing

section Replies

variable {env : Environment ν} (hq : Quiet env) {E : Failure → World ν → Prop} (w₀ : World ν)
  (chat : ChatRow) (agent : AgentRow ν) (execution : Execution ν)
  (asked : List (JsString × CompletionRequest ν)) (ids : ℕ)

include hq

theorem stage_persist (response : CompletionResponse)
    (href : Referable w₀.db chat agent execution) :
    Leads (Stage w₀ · [] [] asked ids) (persistAssistantReply env chat agent execution response)
      (fun reply w => reply.content = stored response.content ∧ ∃ now,
        Stage w₀ w [replyRow w₀.db chat (env.newId (w₀.issued + ids)) agent.id response.content
            .complete (storedTokenCount response.usage) now]
          [usageEvent (env.newId (w₀.issued + (ids + 1))) now agent.id chat.id execution
            response.usage] asked (ids + 2)) E := by
  refine triple_bind _ _ (stage_newId w₀ [] [] asked ids) fun messageId =>
    triple_intro _ fun hmessage => triple_bind _ _ (stage_newId w₀ [] [] asked (ids + 1))
      fun usageId => triple_intro _ fun husage => triple_bind_read _ fun s hs => ?_
  subst hmessage husage
  obtain ⟨after, hinsert, hrow⟩ := insertMessage_extended (env.newId (w₀.issued + ids))
    response.content (env.nowIso s.clock) .complete (storedTokenCount response.usage) href hs.extended
  obtain ⟨final, hrecord, hevent⟩ := insertUsageEvent_extended (env.newId (w₀.issued + (ids + 1)))
    (env.nowIso s.clock) response.usage href
    (extended_touch _ _ chat.id (env.nowIso s.clock) _ _ hrow)
  dsimp only
  rw [hq.storage, if_neg Bool.false_ne_true, hinsert]
  dsimp only [bind, Option.bind]
  rw [hrecord]
  dsimp only
  refine triple_bind_modify _ _ (fun w => ∃ now, Stage w₀ w
    [replyRow w₀.db chat (env.newId (w₀.issued + ids)) agent.id response.content .complete
      (storedTokenCount response.usage) now]
    [usageEvent (env.newId (w₀.issued + (ids + 1))) now agent.id chat.id execution response.usage]
    asked (ids + 2)) (fun w hw => ?_) (triple_pure _ fun w hw => ⟨rfl, hw⟩)
  obtain rfl := hw
  exact ⟨env.nowIso w.clock, hevent, hs.requests, hs.issued⟩

theorem stage_call (request : CompletionRequest ν) :
    Leads (Stage w₀ · [] [] [] ids) (callComplete env agent.id execution request)
      (fun response w => env.complete w₀.requests.length execution.config request = .ok response ∧
        Stage w₀ w [] [] [(agent.id, request)] ids)
      fun failure w => env.complete w₀.requests.length execution.config request = .error failure ∧
        Stage w₀ w [] [] [(agent.id, request)] ids := by
  refine triple_bind_read _ fun s hs => ?_
  have hlength : s.requests.length = w₀.requests.length := by rw [hs.requests, List.append_nil]
  dsimp only
  rw [hlength]
  refine triple_bind _ _ (triple_conseq _ (stage_send w₀ [] [] [] ids agent.id request)
    (fun w hw => hw ▸ hs) (fun _ _ h => h) fun _ _ h => h) fun _ =>
      triple_bind _ _ (stage_suspend hq w₀ [] [] [(agent.id, request)] ids) fun _ =>
        triple_lift _ (fun _ hok w hw => ⟨hok, hw⟩) fun _ herror w hw => ⟨herror, hw⟩

theorem stage_pending (href : Referable w₀.db chat agent execution) :
    Leads (Stage w₀ · [] [] [] 0) (createPendingMessageRow env chat agent)
      (fun row w => ∃ now, row = replyRow w₀.db chat (env.newId w₀.issued) agent.id [] .pending none
          now ∧ Stage w₀ w [row] [] [] 1) E := by
  refine triple_bind _ _ (stage_newId w₀ [] [] [] 0) fun id =>
    triple_intro _ fun hid => triple_bind_read _ fun s hs => ?_
  subst hid
  obtain ⟨after, hinsert, hrow⟩ := insertMessage_extended (env.newId w₀.issued) []
    (env.nowIso s.clock) .pending none href hs.extended
  dsimp only
  rw [hq.storage, if_neg Bool.false_ne_true, Nat.add_zero, hinsert]
  refine triple_bind_modify _ _ (fun w => ∃ now, replyRow w₀.db chat (env.newId w₀.issued) agent.id
      [] .pending none (env.nowIso s.clock) = replyRow w₀.db chat (env.newId w₀.issued) agent.id
      [] .pending none now ∧ Stage w₀ w [replyRow w₀.db chat (env.newId w₀.issued) agent.id
      [] .pending none (env.nowIso s.clock)] [] [] 1) (fun w hw => ?_) (triple_pure _ fun w hw => hw)
  obtain rfl := hw
  exact ⟨env.nowIso w.clock, rfl, extended_touch _ _ _ _ _ _ hrow, hs.requests, hs.issued⟩

omit hq in
theorem stage_record (rows : List MessageRow) (usage : Option (TokenUsage ℤ))
    (href : Referable w₀.db chat agent execution) :
    Leads (Stage w₀ · rows [] asked ids) (recordUsage env chat agent execution usage)
      (fun _ w => ∃ now, Stage w₀ w rows
        [usageEvent (env.newId (w₀.issued + ids)) now agent.id chat.id execution usage] asked
        (ids + 1)) E := by
  refine triple_bind _ _ (stage_newId w₀ rows [] asked ids) fun id =>
    triple_intro _ fun hid => triple_bind_read _ fun s hs => ?_
  subst hid
  obtain ⟨after, hrecord, hevent⟩ := insertUsageEvent_extended (env.newId (w₀.issued + ids))
    (env.nowIso s.clock) usage href hs.extended
  rw [hrecord]
  refine triple_modify _ fun w hw => ?_
  obtain rfl := hw
  exact ⟨env.nowIso w.clock, hevent, hs.requests, hs.issued⟩

end Replies

structure Delivery where
  content : JsString
  usage : Option (TokenUsage ℤ)
  failure : Option Failure

def deliver (ending : Option Failure) :
    List (StreamEvent JsString ℤ) → JsString → Option (TokenUsage ℤ) → Delivery
  | [], content, usage => ⟨content, usage, ending⟩
  | .textDelta delta :: rest, content, usage => deliver ending rest (content ++ delta) usage
  | .thoughtDelta _ :: rest, content, usage => deliver ending rest content usage
  | .usage reported :: rest, content, _ => deliver ending rest content (some reported)
  | .complete _ reported _ :: rest, content, usage => deliver ending rest content (reported.or usage)
  | .error error :: _, content, usage => ⟨content, usage, some (.adapter error)⟩

def delivery (script : Script) : Delivery := deliver script.ending script.events [] none

section Streams

variable {env : Environment ν} (hq : Quiet env) {E : Failure → World ν → Prop} (w₀ : World ν)
  (chat : ChatRow) (agentId : JsString) (asked : List (JsString × CompletionRequest ν))

def Drafted (env : Environment ν) (w : World ν) : Prop :=
  ∃ content status tokenCount now, Stage w₀ w
    [replyRow w₀.db chat (env.newId w₀.issued) agentId content status tokenCount now] [] asked 1

def Written (env : Environment ν) (content : JsString) (status : MessageStatus)
    (tokenCount : Option ℤ) (w : World ν) : Prop :=
  ∃ now, Stage w₀ w
    [replyRow w₀.db chat (env.newId w₀.issued) agentId content status tokenCount now] [] asked 1

variable (row : MessageRow) (hrow : row.id = env.newId w₀.issued)
  (hfresh : ∀ other ∈ w₀.db.messages, other.id ≠ env.newId w₀.issued)

include hrow hfresh

theorem drafted_flush (p : Progress) (status : MessageStatus) (tokenCount : Option ℤ) :
    Leads (Drafted w₀ chat agentId asked env) (flushPartial env chat row p status tokenCount)
      (fun p' w => p'.accumulatedContent = p.accumulatedContent ∧
        p'.reportedUsage = p.reportedUsage ∧
        Written w₀ chat agentId asked env p.accumulatedContent status tokenCount w) E := by
  refine triple_bind_read _ fun s hs => triple_bind_modify _ _
    (Written w₀ chat agentId asked env p.accumulatedContent status tokenCount) (fun w hw => ?_)
    (triple_pure _ fun w hw => ⟨rfl, rfl, hw⟩)
  obtain rfl := hw
  obtain ⟨content, oldStatus, oldCount, now, hstage⟩ := hs
  have hwrite := extended_write _ _ _ _ status p.accumulatedContent tokenCount hfresh hstage.extended
  rw [hrow]
  exact ⟨now, extended_touch _ _ chat.id _ _ _ hwrite, hstage.requests, hstage.issued⟩

theorem drafted_streaming (p : Progress) :
    Leads (Drafted w₀ chat agentId asked env)
      (flushPartial env chat row p .streaming p.outputTokens)
      (fun p' w => p'.accumulatedContent = p.accumulatedContent ∧
        p'.reportedUsage = p.reportedUsage ∧ Drafted w₀ chat agentId asked env w) E :=
  triple_conseq _ (drafted_flush w₀ chat agentId asked row hrow hfresh p _ _) (fun _ h => h)
    (fun _ _ ⟨hcontent, husage, now, hstage⟩ => ⟨hcontent, husage, _, _, _, now, hstage⟩)
    fun _ _ h => h

theorem drafted_delta (p : Progress) (delta : JsString) :
    Leads (Drafted w₀ chat agentId asked env) (onTextDelta env chat row p delta)
      (fun p' w => p'.accumulatedContent = p.accumulatedContent ++ delta ∧
        p'.reportedUsage = p.reportedUsage ∧ Drafted w₀ chat agentId asked env w) E := by
  unfold onTextDelta
  dsimp only
  split_ifs
  · exact drafted_streaming w₀ chat agentId asked row hrow hfresh _
  · refine triple_bind_read _ fun s hs => ?_
    split_ifs
    · exact triple_conseq _ (drafted_streaming w₀ chat agentId asked row hrow hfresh _)
        (fun w hw => hw ▸ hs) (fun _ _ h => h) fun _ _ h => h
    · exact triple_pure _ fun w hw => ⟨rfl, rfl, hw ▸ hs⟩

omit hrow hfresh in
include hq in
theorem drafted_yield (event : SseCompletionEvent) :
    Leads (Drafted w₀ chat agentId asked env) (yieldEvent env event)
      (fun _ => Drafted w₀ chat agentId asked env) E :=
  triple_given fun _ ⟨content, status, tokenCount, now, hs⟩ =>
    triple_conseq _ (stage_yield hq w₀ _ _ _ _ event) (fun _ hw => hw ▸ hs)
      (fun _ _ h => ⟨content, status, tokenCount, now, h⟩) fun _ _ h => h

omit hrow hfresh in
include hq in
theorem drafted_suspend :
    Leads (Drafted w₀ chat agentId asked env) (suspend env)
      (fun _ => Drafted w₀ chat agentId asked env) E :=
  triple_given fun _ ⟨content, status, tokenCount, now, hs⟩ =>
    triple_conseq _ (stage_suspend hq w₀ _ _ _ _) (fun _ hw => hw ▸ hs)
      (fun _ _ h => ⟨content, status, tokenCount, now, h⟩) fun _ _ h => h

omit hrow hfresh in
include hq in
theorem drafted_present {α : Type} (f : Bool → Run ν α) {Q : α → World ν → Prop}
    (hf : Leads (Drafted w₀ chat agentId asked env) (f false) Q E) :
    Leads (Drafted w₀ chat agentId asked env) (isAborted env >>= f) Q E := by
  rw [isAborted_eq env hq.present, Gen.pure_bind]
  exact hf

include hq in
theorem drafted_readStream (ending : Option Failure) (script : List (StreamEvent JsString ℤ))
    (p : Progress) :
    Leads (Drafted w₀ chat agentId asked env) (readStream env chat row ending script p)
      (fun out w => (⟨out.1.accumulatedContent, out.1.reportedUsage, out.2⟩ : Delivery) =
          deliver ending script p.accumulatedContent p.reportedUsage ∧
        Drafted w₀ chat agentId asked env w) E := by
  induction script generalizing p with
  | nil =>
    exact triple_bind _ _ (drafted_suspend hq w₀ chat agentId asked) fun _ =>
      triple_pure _ fun _ hw => ⟨rfl, hw⟩
  | cons event rest ih =>
    refine triple_bind _ _ (drafted_suspend hq w₀ chat agentId asked) fun _ =>
      drafted_present hq w₀ chat agentId asked _ ?_
    rw [if_neg Bool.false_ne_true]
    cases event with
    | textDelta delta =>
      refine triple_bind _ _ (drafted_delta w₀ chat agentId asked row hrow hfresh p delta)
        fun p' => triple_intro _ fun hcontent => triple_intro _ fun husage =>
          triple_bind _ _ (drafted_yield hq w₀ chat agentId asked _) fun _ => ?_
      have hrest := ih p'
      rw [hcontent, husage] at hrest
      exact hrest
    | thoughtDelta thought =>
      exact triple_bind _ _ (drafted_yield hq w₀ chat agentId asked _) fun _ => ih p
    | usage usage => exact ih { p with reportedUsage := some usage }
    | complete reason usage data => exact ih { p with reportedUsage := usage.or p.reportedUsage }
    | error error => exact triple_pure _ fun _ hw => ⟨rfl, hw⟩

end Streams

end Glassbeetle.QuietRuns
