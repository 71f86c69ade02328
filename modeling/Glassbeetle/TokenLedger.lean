import Mathlib.Algebra.Ring.Int.Defs
import Glassbeetle.MessageSequences
import Glassbeetle.StreamTurns

set_option autoImplicit false

namespace Glassbeetle.TokenLedger
open JsText AdapterTypes Database ExecutionChain Inference Transactions MessageWrites StreamTurns Runs

section Sums
variable {α κ : Type} (key : α → κ) (v w : α → ℤ)

theorem sum_rewrite (rows : List α) (row : α) (hkeys : (rows.map key).Nodup) (hrow : row ∈ rows)
    (hother : ∀ other ∈ rows, key other ≠ key row → w other = v other) :
    (rows.map w).sum = (rows.map v).sum + (w row - v row) := by
  induction rows with
  | nil => nomatch hrow
  | cons first rest ih =>
    rw [List.map_cons, List.nodup_cons] at hkeys
    simp only [List.map_cons, List.sum_cons]
    rcases List.mem_cons.mp hrow with rfl | hrow
    · have hrest : rest.map w = rest.map v := List.map_congr_left fun other hmem =>
        hother other (List.mem_cons_of_mem _ hmem) fun heq => hkeys.1 (heq ▸ List.mem_map_of_mem hmem)
      rw [hrest]
      omega
    · have hfirst : w first = v first := hother first List.mem_cons_self fun heq =>
        hkeys.1 (heq ▸ List.mem_map_of_mem hrow)
      rw [ih hkeys.2 hrow fun other hmem => hother other (List.mem_cons_of_mem _ hmem), hfirst]
      omega

end Sums

variable {ν : Type} (f : Option ℤ → ℤ)

def weight (apart : List JsString) (chatId : JsString) (row : MessageRow) : ℤ :=
  if row.chatId = chatId ∧ row.role = js "assistant" ∧ row.id ∉ apart then f row.tokenCount else 0

/-- `token_count` over the assistant messages of a chat. -/
def counted (apart : List JsString) (db : Tables ν) (chatId : JsString) : ℤ :=
  (db.messages.map (weight f apart chatId)).sum

def charge (chatId : JsString) (row : UsageEventRow) : ℤ :=
  if row.chatId = some chatId ∧ row.eventType = js "chat_completion" then f row.outputTokens else 0

/-- `output_tokens` over its usage events of type `chat_completion`. -/
def reported (db : Tables ν) (chatId : JsString) : ℤ := (db.usageEvents.map (charge f chatId)).sum

def Balanced (apart : List JsString) (db : Tables ν) : Prop :=
  ∀ chatId, counted f apart db chatId = reported f db chatId

def plain (count : Option ℤ) : ℤ := count.getD 0

def floored (count : Option ℤ) : ℤ := max 0 (count.getD 0)

/-- The messages that are under way or have ended without a usage event. -/
def apart (s : System ν) : List JsString := s.turns.map (·.messageId) ++ s.unrecorded

structure Books (s : System ν) : Prop where
  balanced : Balanced f (apart s) s.db
  keyed : (s.db.messages.map (·.id)).Nodup
  known : ∀ id ∈ apart s, id ∈ s.db.messages.map (·.id)
  live : ∀ t ∈ s.turns, t.messageId ∉ s.unrecorded
  rows : ∀ t ∈ s.turns, ∃ row ∈ s.db.messages, row.id = t.messageId ∧ row.chatId = t.chat.id ∧
    row.role = js "assistant"

section Tables

structure Touched (id : JsString) (s t : Tables ν) : Prop where
  events : t.usageEvents = s.usageEvents
  rows : ∃ g : MessageRow → MessageRow, t.messages = s.messages.map g ∧ (∀ row, row.id ≠ id → g row = row) ∧
    ∀ row, (g row).id = row.id ∧ (g row).chatId = row.chatId ∧ (g row).role = row.role

theorem touched_refl (id : JsString) (s : Tables ν) : Touched id s s :=
  ⟨rfl, fun row => row, (List.map_id _).symm, fun _ _ => rfl, fun _ => ⟨rfl, rfl, rfl⟩⟩

theorem touched_trans (id : JsString) (s t u : Tables ν) (h : Touched id s t) (h' : Touched id t u) :
    Touched id s u := by
  obtain ⟨g, hg, hsame, hkeep⟩ := h.rows
  obtain ⟨g', hg', hsame', hkeep'⟩ := h'.rows
  refine ⟨h'.events.trans h.events, g' ∘ g, by rw [hg', hg, List.map_map], fun row hne => ?_, fun row => ?_⟩
  · change g' (g row) = row
    rw [hsame row hne, hsame' row hne]
  · obtain ⟨hid, hchat, hrole⟩ := hkeep row
    obtain ⟨hid', hchat', hrole'⟩ := hkeep' (g row)
    exact ⟨hid'.trans hid, hchat'.trans hchat, hrole'.trans hrole⟩

theorem touched_ids (id : JsString) (s t : Tables ν) (h : Touched id s t) :
    t.messages.map (·.id) = s.messages.map (·.id) := by
  obtain ⟨g, hg, -, hkeep⟩ := h.rows
  rw [hg, List.map_map]
  exact List.map_congr_left fun row _ => (hkeep row).1

theorem counted_touched (apart : List JsString) (id : JsString) (hid : id ∈ apart) (s t : Tables ν)
    (h : Touched id s t) (chatId : JsString) : counted f apart t chatId = counted f apart s chatId := by
  obtain ⟨g, hg, hsame, hkeep⟩ := h.rows
  unfold counted
  rw [hg, List.map_map]
  refine congrArg List.sum (List.map_congr_left fun row _ => ?_)
  by_cases hrow : row.id = id
  · unfold weight
    rw [Function.comp_apply, if_neg fun hall => hall.2.2 (by rw [(hkeep row).1, hrow]; exact hid),
      if_neg fun hall => hall.2.2 (by rw [hrow]; exact hid)]
  · exact congrArg (weight f apart chatId) (hsame row hrow)

theorem writeRow_keep (id content : JsString) (status : MessageStatus) (tokenCount : Option ℤ)
    (row : MessageRow) : (writeRow id status content tokenCount row).id = row.id ∧
      (writeRow id status content tokenCount row).chatId = row.chatId ∧
      (writeRow id status content tokenCount row).role = row.role := by
  unfold writeRow
  split_ifs
  · exact ⟨rfl, rfl, rfl⟩
  · exact ⟨rfl, rfl, rfl⟩

theorem write_touched (id content : JsString) (status : MessageStatus) (tokenCount : Option ℤ)
    (s : Tables ν) : Touched id s (s.writeMessage id status content tokenCount) :=
  ⟨rfl, writeRow id status content tokenCount, rfl, fun _ hne => if_neg hne,
    writeRow_keep id content status tokenCount⟩

theorem flush_touched (t : StreamTurn ν) (calls : Calls) (status : MessageStatus)
    (tokenCount : Option ℤ) (s : Tables ν) :
    Touched t.messageId s (flush t calls status tokenCount s).2 := by
  have hwrite := write_touched t.messageId t.progress.accumulatedContent status tokenCount s
  unfold flush MessageWrites.flushPartial
  cases calls.fault 0 0 with
  | some error => exact touched_refl t.messageId s
  | none =>
    cases calls.fault 0 1 with
    | some error => exact hwrite
    | none => exact ⟨hwrite.events, hwrite.rows⟩

theorem finishAborted_touched (t : StreamTurn ν) (calls : Calls) (s : Tables ν) :
    Touched t.messageId s (StreamTurns.finishAborted t calls s).2 := by
  unfold StreamTurns.finishAborted
  split_ifs
  · exact flush_touched t calls _ _ s
  · exact flush_touched t.interrupted calls _ _ s

theorem onFailure_touched (t : StreamTurn ν) (toLowerCase : JsString → JsString) (calls : Calls)
    (aborted : Bool) (failure : Failure) (s : Tables ν) :
    Touched t.messageId s (StreamTurns.onFailure t toLowerCase calls aborted failure s) := by
  unfold StreamTurns.onFailure
  split_ifs
  · exact finishAborted_touched t calls s
  · exact flush_touched t calls _ _ s

theorem flush_ok (t : StreamTurn ν) (calls : Calls) (status : MessageStatus) (tokenCount : Option ℤ)
    (s after : Tables ν) (h : flush t calls status tokenCount s = (.ok (), after)) :
    after = (s.writeMessage t.messageId status t.progress.accumulatedContent tokenCount).touchChat
      t.chat.id (calls.nowIso 0) := by
  unfold flush MessageWrites.flushPartial at h
  cases hwrite : calls.fault 0 0 with
  | some error =>
    rw [hwrite] at h
    cases h
  | none =>
    rw [hwrite] at h
    cases htouch : calls.fault 0 1 with
    | some error =>
      rw [htouch] at h
      cases h
    | none =>
      rw [htouch] at h
      exact (Prod.mk.inj h).2.symm

def Logged (event : UsageEventRow) (s t : Tables ν) : Prop :=
  t.messages = s.messages ∧ t.usageEvents = s.usageEvents ++ [event]

theorem insertUsageEvent_logged (event : UsageEventRow) (s t : Tables ν) (u : Unit)
    (h : MessageWrites.insertUsageEvent event s = .ok (u, t)) : Logged event s t := by
  unfold MessageWrites.insertUsageEvent at h
  split_ifs at h
  unfold Tables.insertUsageEvent at h
  split_ifs at h
  cases h
  exact ⟨rfl, rfl⟩

theorem recordUsage_atomic (t : StreamTurn ν) (calls : Calls) (s : Tables ν) :
    Atomic (fun s _ after => Logged (usageEvent (calls.usageId 0) (calls.nowIso 0) t.agent.id t.chat.id
      t.execution t.progress.reportedUsage) s after) s (StreamTurns.recordUsage t calls s) := by
  have h := settle_atomic _ id sqliteFailure s _ (autocommit_atomic (fun s (_ : Unit) after =>
      Logged (usageEvent (calls.usageId 0) (calls.nowIso 0) t.agent.id t.chat.id t.execution
        t.progress.reportedUsage) s after) _ s
    fun u after hrun => insertUsageEvent_logged _ s after u
      (statement_ok (calls.fault 0 0) _ s u after hrun).2)
  unfold StreamTurns.recordUsage
  generalize settle id sqliteFailure _ = outcome at h ⊢
  match outcome, h with
  | (.error error, after), h => exact h
  | (.ok u, after), ⟨_, _, h⟩ => exact h

theorem finishComplete_ok (t : StreamTurn ν) (statements : Statements) (s after : Tables ν)
    (h : finishComplete t statements s = (.ok (), after)) :
    after.messages = s.messages.map (writeRow t.messageId .complete t.progress.accumulatedContent
        t.progress.outputTokens) ∧
      ∃ event : UsageEventRow, event.chatId = some t.chat.id ∧ event.eventType = js "chat_completion" ∧
        event.outputTokens = t.progress.outputTokens ∧ after.usageEvents = s.usageEvents ++ [event] := by
  unfold finishComplete at h
  split at h
  next => cases h
  next mid hflush =>
    have hlogged := recordUsage_atomic t statements.usage mid
    rw [h] at hlogged
    rw [flush_ok t _ _ _ s mid hflush] at hlogged
    exact ⟨hlogged.1, _, rfl, rfl, rfl, hlogged.2⟩

theorem finishComplete_touched (t : StreamTurn ν) (statements : Statements) (s after : Tables ν)
    (failure : Failure) (h : finishComplete t statements s = (.error failure, after)) :
    Touched t.messageId s after := by
  unfold finishComplete at h
  split at h
  next e mid hflush =>
    have htouched := flush_touched t statements.flush .complete t.progress.outputTokens s
    rw [hflush] at htouched
    obtain ⟨-, rfl⟩ := Prod.mk.inj h
    exact htouched
  next mid hflush =>
    have htouched := flush_touched t statements.flush .complete t.progress.outputTokens s
    rw [hflush] at htouched
    have hlogged := recordUsage_atomic t statements.usage mid
    rw [h] at hlogged
    obtain rfl : after = mid := hlogged
    exact htouched

/-- With its usage recorded, a turn has completed; without, it has changed its message alone. -/
def Ends (t : StreamTurn ν) (statements : Statements) (s : Tables ν) : Bool × Tables ν → Prop
  | (true, after) => finishComplete t statements s = (.ok (), after)
  | (false, after) => Touched t.messageId s after

theorem endMemberTurn_ends (t : StreamTurn ν) (statements : Statements) (aborted : Bool)
    (ending : Option Failure) (s : Tables ν) :
    Ends t statements s (endMemberTurn t statements aborted ending s) := by
  unfold endMemberTurn
  split_ifs
  · exact finishAborted_touched t _ s
  · cases ending with
    | some failure => exact flush_touched t _ _ _ s
    | none =>
      cases hcomplete : finishComplete t statements s with
      | mk outcome after =>
        cases outcome with
        | ok u => exact hcomplete
        | error failure => exact finishComplete_touched t statements s after failure hcomplete

theorem endAgentTurn_ends (t : StreamTurn ν) (toLowerCase : JsString → JsString)
    (statements : Statements) (aborted : Bool) (ending : Option Failure) (s : Tables ν) :
    Ends t statements s (endAgentTurn t toLowerCase statements aborted ending s) := by
  unfold endAgentTurn
  cases ending with
  | some failure => exact onFailure_touched t toLowerCase _ _ _ s
  | none =>
    cases aborted with
    | true =>
      have hfirst := finishAborted_touched t statements.flush s
      dsimp only
      rw [if_pos rfl]
      cases haborted : StreamTurns.finishAborted t statements.flush s with
      | mk outcome after =>
        rw [haborted] at hfirst
        cases outcome with
        | ok u => exact hfirst
        | error failure =>
          refine touched_trans t.messageId s after _ hfirst ?_
          by_cases hempty : t.progress.accumulatedContent ≠ []
          · simp only [if_pos hempty]
            exact onFailure_touched t toLowerCase _ _ _ after
          · simp only [if_neg hempty]
            exact onFailure_touched t.interrupted toLowerCase _ _ _ after
    | false =>
      cases hcomplete : finishComplete t statements s with
      | mk outcome after =>
        cases outcome with
        | ok u =>
          dsimp only
          rw [if_neg Bool.false_ne_true]
          exact hcomplete
        | error failure =>
          dsimp only
          rw [if_neg Bool.false_ne_true]
          exact touched_trans t.messageId s after _
            (finishComplete_touched t statements s after failure hcomplete)
            (onFailure_touched t toLowerCase _ _ _ after)

theorem endTurn_ends (t : StreamTurn ν) (toLowerCase : JsString → JsString)
    (statements : Statements) (aborted : Bool) (ending : Option Failure) (s : Tables ν) :
    Ends t statements s (endTurn t toLowerCase statements aborted ending s) := by
  unfold endTurn
  split_ifs
  · exact endMemberTurn_ends t statements aborted ending s
  · exact endAgentTurn_ends t toLowerCase statements aborted ending s

/-- What an event does: the turn goes on in place, or it is over as at the end of the stream. -/
def Advances (t : StreamTurn ν) (s : Tables ν) : Outcome ν × Tables ν → Prop
  | (.running t', after) =>
    t'.messageId = t.messageId ∧ t'.chat = t.chat ∧ Touched t.messageId s after
  | (.over recorded, after) =>
    ∃ (t' : StreamTurn ν) (statements : Statements) (mid : Tables ν), t'.messageId = t.messageId ∧
      t'.chat = t.chat ∧ Touched t.messageId s mid ∧ Ends t' statements mid (recorded, after)

theorem onEvent_advances (t : StreamTurn ν) (toLowerCase : JsString → JsString)
    (statements : Statements) (aborted : Bool) (now : ℤ) (event : StreamEvent JsString ℤ)
    (s : Tables ν) : Advances t s (onEvent t toLowerCase statements aborted now event s) := by
  have hends : ∀ (t' : StreamTurn ν) (ending : Option Failure) (mid : Tables ν),
      t'.messageId = t.messageId → t'.chat = t.chat → Touched t.messageId s mid →
      Advances t s (.over (endTurn t' toLowerCase statements aborted ending mid).1,
        (endTurn t' toLowerCase statements aborted ending mid).2) :=
    fun t' ending mid hid hchat hmid =>
      ⟨t', statements, mid, hid, hchat, hmid, endTurn_ends t' toLowerCase statements aborted ending mid⟩
  have hrefl := touched_refl t.messageId s
  unfold onEvent
  dsimp only
  split_ifs
  · exact hends t none s rfl rfl hrefl
  · cases event with
    | textDelta delta =>
      dsimp only
      split_ifs
      · have hflush := flush_touched (t.append delta) statements.flush .streaming
          (t.append delta).progress.outputTokens s
        split
        next after hok =>
          rw [hok] at hflush
          exact ⟨rfl, rfl, hflush⟩
        next failure after hfailed =>
          rw [hfailed] at hflush
          exact hends (t.append delta) (some failure) after rfl rfl hflush
      · exact ⟨rfl, rfl, hrefl⟩
    | thoughtDelta thought => exact ⟨rfl, rfl, hrefl⟩
    | usage usage => exact ⟨rfl, rfl, hrefl⟩
    | complete reason usage model => exact ⟨rfl, rfl, hrefl⟩
    | error error => exact hends t (some (.adapter error)) s rfl rfl hrefl

structure Added (chatId : JsString) (tokenCount : Option ℤ) (events : List UsageEventRow) (s : Tables ν)
    (row : MessageRow) (t : Tables ν) : Prop where
  fresh : row.id ∉ s.messages.map (·.id)
  chat : row.chatId = chatId
  role : row.role = js "assistant"
  count : row.tokenCount = tokenCount
  rows : t.messages = s.messages ++ [row]
  events : t.usageEvents = s.usageEvents ++ events

theorem insertMessage_added (m : NewMessage) (hrole : m.role = js "assistant") (s t : Tables ν)
    (row : MessageRow) (h : MessageWrites.insertMessage m s = .ok (row, t)) :
    Added m.chatId m.tokenCount [] s row t := by
  unfold MessageWrites.insertMessage at h
  dsimp only at h
  split_ifs at h with hroles hid hunique href
  cases h
  exact ⟨hid, rfl, hrole, rfl, rfl, (List.append_nil _).symm⟩

theorem touchChat_added (chatId now : JsString) (tokenCount : Option ℤ) (events : List UsageEventRow)
    (fault : Option SqliteError) (s mid t : Tables ν) (row : MessageRow) (u : Unit)
    (hadded : Added chatId tokenCount events s row mid)
    (h : statement fault (MessageWrites.touchChat chatId now) mid = .ok (u, t)) :
    Added chatId tokenCount events s row t := by
  obtain ⟨-, rfl⟩ := Prod.mk.inj (Except.ok.inj (statement_ok _ _ _ _ _ h).2)
  exact ⟨hadded.fresh, hadded.chat, hadded.role, hadded.count, hadded.rows, hadded.events⟩

theorem pending_atomic (calls : Calls) (chatId agentId : JsString) (s : Tables ν) :
    Atomic (fun s row after => ∃ inserted, row = id inserted ∧ Added chatId none [] s inserted after) s
      (MessageWrites.createPendingMessageRow calls chatId agentId s) := by
  have hattempt : ∀ m : NewMessage, m.role = js "assistant" → ∀ now n, Atomic
      (Added m.chatId m.tokenCount []) s (insertAttempt calls m now n s) := by
    intro m hrole now n
    refine transaction_atomic _ _ _ _ s fun row t hrun => ?_
    obtain ⟨first, mid, hinsert, hrun⟩ := bind_ok _ _ s row t hrun
    obtain ⟨_, after, htouch, hrun⟩ := bind_ok _ _ mid row t hrun
    have hadded := insertMessage_added m hrole s mid first (statement_ok _ _ _ _ _ hinsert).2
    obtain ⟨rfl, rfl⟩ := pure_ok first row after t hrun
    exact touchChat_added m.chatId _ _ _ _ s mid after first _ hadded htouch
  exact settle_atomic _ id _ s _ (retry_atomic _ isUniqueConstraint _ s (hattempt ⟨calls.newId 0, chatId,
    js "assistant", some agentId, [], .pending, none, calls.nowIso 0⟩ rfl (calls.nowIso 0))
    (maxRetries - 1) 1)

theorem turnError_added (calls : Calls) (chatId agentId : JsString) (s : Tables ν) :
    MessageWrites.recordTurnErrorRow calls chatId agentId s = s ∨
      ∃ row, Added chatId none [] s row (MessageWrites.recordTurnErrorRow calls chatId agentId s) := by
  have h := atomic_state _ s _ (autocommit_atomic (Added chatId none []) (statement (calls.fault 0 0)
    (MessageWrites.insertMessage ⟨calls.newId 0, chatId, js "assistant", some agentId,
      js "Generation failed mid-team turn", .error, none, calls.nowIso 0⟩)) s
    fun row t hrun => insertMessage_added _ rfl s t row (statement_ok _ _ _ _ _ hrun).2)
  rcases h with h | ⟨row, -, h⟩
  · exact .inl h
  · exact .inr ⟨row, h⟩

def Replied (chatId : JsString) (usage : Option (TokenUsage ℤ)) (s : Tables ν) (row : MessageRow)
    (t : Tables ν) : Prop :=
  ∃ event : UsageEventRow, event.chatId = some chatId ∧ event.eventType = js "chat_completion" ∧
    event.outputTokens = usage.map (·.outputTokens) ∧
    Added chatId (storedTokenCount usage) [event] s row t

theorem persistAttempt_replied (calls : Calls) (chat : ChatRow) (agent : AgentRow ν)
    (execution : Execution ν) (response : CompletionResponse) (attempt : ℕ) (s : Tables ν) :
    Atomic (Replied chat.id response.usage) s
      (persistAttempt calls chat agent execution response attempt s) := by
  refine transaction_atomic _ _ _ _ s fun row t hrun => ?_
  obtain ⟨first, mid, hinsert, hrun⟩ := bind_ok _ _ s row t hrun
  obtain ⟨_, after, htouch, hrun⟩ := bind_ok _ _ mid row t hrun
  obtain ⟨_, last, husage, hrun⟩ := bind_ok _ _ after row t hrun
  have hinserted := insertMessage_added _ rfl s mid first (statement_ok _ _ _ _ _ hinsert).2
  have hadded := touchChat_added chat.id _ _ _ _ s mid after first _ hinserted htouch
  have hlogged := insertUsageEvent_logged _ after last _ (statement_ok _ _ _ _ _ husage).2
  obtain ⟨rfl, rfl⟩ := pure_ok first row last t hrun
  refine ⟨usageEvent (calls.usageId attempt) (calls.nowIso attempt) agent.id chat.id execution
    response.usage, rfl, rfl, rfl, hadded.fresh, hadded.chat, hadded.role, hadded.count,
    hlogged.1.trans hadded.rows, ?_⟩
  rw [hlogged.2, hadded.events, List.append_nil]

theorem reply_replied (calls : Calls) (chat : ChatRow) (agent : AgentRow ν) (execution : Execution ν)
    (response : CompletionResponse) (s : Tables ν) :
    (MessageWrites.persistAssistantReply calls chat agent execution response s).2 = s ∨
      ∃ row, Replied chat.id response.usage s row
        (MessageWrites.persistAssistantReply calls chat agent execution response s).2 := by
  have h := atomic_state _ s _ (settle_atomic _ (fun row : MessageRow => (⟨row.id, row.chatId,
      row.sequence, row.role, row.agentId, row.content, row.status, row.tokenCount, row.createdAt,
      response.usage⟩ : CompletionResponseDto)) (fun _ => persistenceFailed) s _
    (retry_atomic _ isUniqueConstraint _ s
      (fun n => persistAttempt_replied calls chat agent execution response n s) (maxRetries - 1) 1))
  rcases h with h | ⟨-, -, row, -, h⟩
  · exact .inl h
  · exact .inr ⟨row, h⟩

end Tables

section Steps

theorem weight_congr (a b : List JsString) (chatId : JsString) (row : MessageRow)
    (h : row.id ∈ a ↔ row.id ∈ b) : weight f a chatId row = weight f b chatId row := by
  unfold weight
  simp only [h]

theorem counted_congr (a b : List JsString) (db : Tables ν) (chatId : JsString)
    (h : ∀ row ∈ db.messages, row.id ∈ a ↔ row.id ∈ b) :
    counted f a db chatId = counted f b db chatId :=
  congrArg List.sum (List.map_congr_left fun row hrow => weight_congr f a b chatId row (h row hrow))

theorem counted_added (apart : List JsString) (chatId : JsString) (tokenCount : Option ℤ)
    (events : List UsageEventRow) (s t : Tables ν) (row : MessageRow)
    (h : Added chatId tokenCount events s row t) (c : JsString) :
    counted f apart t c = counted f apart s c + weight f apart c row := by
  unfold counted
  rw [h.rows, List.map_append, List.sum_append, List.map_singleton, List.sum_singleton]

theorem reported_append (events : List UsageEventRow) (s t : Tables ν) (c : JsString)
    (h : t.usageEvents = s.usageEvents ++ events) :
    reported f t c = reported f s c + (events.map (charge f c)).sum := by
  unfold reported
  rw [h, List.map_append, List.sum_append]

theorem charge_event (chatId c : JsString) (event : UsageEventRow) (hchat : event.chatId = some chatId)
    (htype : event.eventType = js "chat_completion") :
    charge f c event = if chatId = c then f event.outputTokens else 0 := by
  unfold charge
  simp only [hchat, htype, Option.some.injEq, and_true]

theorem added_ids (chatId : JsString) (tokenCount : Option ℤ) (events : List UsageEventRow)
    (s t : Tables ν) (row : MessageRow) (h : Added chatId tokenCount events s row t) :
    t.messages.map (·.id) = s.messages.map (·.id) ++ [row.id] := by
  rw [h.rows, List.map_append]
  rfl

theorem added_keyed (chatId : JsString) (tokenCount : Option ℤ) (events : List UsageEventRow)
    (s t : Tables ν) (row : MessageRow) (h : Added chatId tokenCount events s row t)
    (hs : (s.messages.map (·.id)).Nodup) : (t.messages.map (·.id)).Nodup := by
  rw [added_ids chatId tokenCount events s t row h, List.nodup_append]
  refine ⟨hs, List.nodup_singleton _, fun a ha b hb hab => ?_⟩
  rw [List.mem_singleton.mp hb] at hab
  rw [hab] at ha
  exact h.fresh ha

variable {f}

theorem books_touched (s s' : System ν) (id : JsString) (hs : Books f s) (hid : id ∈ apart s)
    (h : Touched id s.db s'.db) (hapart : ∀ x, x ∈ apart s' ↔ x ∈ apart s)
    (hturns : ∀ t ∈ s'.turns, ∃ old ∈ s.turns, old.messageId = t.messageId ∧ old.chat = t.chat)
    (hlive : ∀ t ∈ s'.turns, t.messageId ∉ s'.unrecorded) : Books f s' := by
  have hids := touched_ids id s.db s'.db h
  refine ⟨fun c => ?_, by rw [hids]; exact hs.keyed, fun x hx => ?_, hlive, fun t ht => ?_⟩
  · have hcounted := counted_touched f (apart s) id hid s.db s'.db h c
    have hreported : reported f s'.db c = reported f s.db c := by
      unfold reported
      rw [h.events]
    rw [counted_congr f (apart s') (apart s) s'.db c fun row _ => hapart row.id, hcounted, hreported]
    exact hs.balanced c
  · rw [hids]
    exact hs.known x ((hapart x).mp hx)
  · obtain ⟨old, hold, hsame, hchat⟩ := hturns t ht
    obtain ⟨row, hrow, hrowid, hrowchat, hrole⟩ := hs.rows old hold
    obtain ⟨g, hg, -, hkeep⟩ := h.rows
    obtain ⟨hgid, hgchat, hgrole⟩ := hkeep row
    refine ⟨g row, by rw [hg]; exact List.mem_map_of_mem hrow, ?_, ?_, hgrole.trans hrole⟩
    · rw [hgid, hrowid, hsame]
    · rw [hgchat, hrowchat, hchat]

theorem books_added (s : System ν) (t : Tables ν) (chatId : JsString) (tokenCount : Option ℤ)
    (events : List UsageEventRow) (row : MessageRow) (hs : Books f s)
    (h : Added chatId tokenCount events s.db row t)
    (hevents : ∀ c, (events.map (charge f c)).sum = if chatId = c then f tokenCount else 0) :
    Books f { s with db := t } := by
  have hapart : row.id ∉ apart s := fun hmem => h.fresh (hs.known row.id hmem)
  have hids := added_ids chatId tokenCount events s.db t row h
  refine ⟨fun c => ?_, added_keyed chatId tokenCount events s.db t row h hs.keyed, fun x hx => ?_,
    hs.live, fun turn hturn => ?_⟩
  · change counted f (apart s) t c = reported f t c
    have hweight : weight f (apart s) c row = if chatId = c then f tokenCount else 0 := by
      unfold weight
      rw [h.chat, h.count]
      by_cases hc : chatId = c
      · rw [if_pos ⟨hc, h.role, hapart⟩, if_pos hc]
      · rw [if_neg fun hall => hc hall.1, if_neg hc]
    rw [counted_added f (apart s) chatId tokenCount events s.db t row h c, hs.balanced c, hweight,
      reported_append f events s.db t c h.events, hevents c]
  · change x ∈ t.messages.map (·.id)
    rw [hids]
    exact List.mem_append_left _ (hs.known x hx)
  · obtain ⟨old, hold, hall⟩ := hs.rows turn hturn
    refine ⟨old, ?_, hall⟩
    change old ∈ t.messages
    rw [h.rows]
    exact List.mem_append_left _ hold

theorem books_started (s : System ν) (t : Tables ν) (turn : StreamTurn ν) (row : MessageRow)
    (hs : Books f s) (h : Added turn.chat.id none [] s.db row t) (hrow : turn.messageId = row.id) :
    Books f { s with db := t, turns := s.turns ++ [turn] } := by
  have hids := added_ids turn.chat.id none [] s.db t row h
  have hmem : ∀ x, x ∈ apart { s with db := t, turns := s.turns ++ [turn] } ↔ x = row.id ∨ x ∈ apart s := by
    intro x
    unfold apart
    rw [List.map_append, List.map_singleton, hrow]
    simp only [List.mem_append, List.mem_singleton]
    tauto
  have hfresh : row.id ∉ apart s := fun hin => h.fresh (hs.known row.id hin)
  refine ⟨fun c => ?_, added_keyed turn.chat.id none [] s.db t row h hs.keyed, fun x hx => ?_,
    fun other hother => ?_, fun other hother => ?_⟩
  · change counted f _ t c = reported f t c
    have hold : counted f (apart { s with db := t, turns := s.turns ++ [turn] }) s.db c =
        counted f (apart s) s.db c := by
      refine counted_congr f _ _ s.db c fun other hother => ?_
      rw [hmem]
      refine or_iff_right fun heq => h.fresh ?_
      rw [← heq]
      exact List.mem_map_of_mem hother
    have hnew : weight f (apart { s with db := t, turns := s.turns ++ [turn] }) c row = 0 :=
      if_neg fun hall => hall.2.2 ((hmem row.id).mpr (.inl rfl))
    rw [counted_added f _ turn.chat.id none [] s.db t row h c, hold, hnew, hs.balanced c,
      reported_append f [] s.db t c h.events]
    rfl
  · change x ∈ t.messages.map (·.id)
    rw [hids]
    rcases (hmem x).mp hx with rfl | hx
    · exact List.mem_append_right _ (List.mem_singleton_self _)
    · exact List.mem_append_left _ (hs.known x hx)
  · rcases List.mem_append.mp hother with hother | hother
    · exact hs.live other hother
    · rw [List.mem_singleton.mp hother, hrow]
      exact fun hin => hfresh (List.mem_append_right _ hin)
  · change ∃ old ∈ t.messages, _
    rw [h.rows]
    rcases List.mem_append.mp hother with hother | hother
    · obtain ⟨old, hold, hall⟩ := hs.rows other hother
      exact ⟨old, List.mem_append_left _ hold, hall⟩
    · rw [List.mem_singleton.mp hother]
      exact ⟨row, List.mem_append_right _ (List.mem_singleton_self _), hrow.symm, h.chat, h.role⟩

theorem mem_without (s : System ν) (id x : JsString) :
    x ∈ (s.without id).map (·.messageId) ↔ x ∈ s.turns.map (·.messageId) ∧ x ≠ id := by
  unfold System.without
  constructor
  · intro hx
    obtain ⟨t, ht, rfl⟩ := List.mem_map.mp hx
    obtain ⟨hmem, hne⟩ := List.mem_filter.mp ht
    exact ⟨List.mem_map_of_mem hmem, of_decide_eq_true hne⟩
  · rintro ⟨hx, hne⟩
    obtain ⟨t, ht, rfl⟩ := List.mem_map.mp hx
    exact List.mem_map_of_mem (List.mem_filter.mpr ⟨ht, decide_eq_true hne⟩)

theorem books_unrecorded (s : System ν) (t : StreamTurn ν) (after : Tables ν) (hs : Books f s)
    (ht : t ∈ s.turns) (h : Touched t.messageId s.db after) :
    Books f (s.close t.messageId false after) := by
  have hlive : t.messageId ∈ s.turns.map (·.messageId) := List.mem_map_of_mem ht
  refine books_touched s (s.close t.messageId false after) t.messageId hs
    (List.mem_append_left _ hlive) h (fun x => ?_) (fun other hother => ?_) fun other hother => ?_
  · unfold apart System.close
    rw [if_neg Bool.false_ne_true, List.mem_append, List.mem_append, mem_without, List.mem_cons]
    by_cases hx : x = t.messageId
    · rw [hx]
      exact iff_of_true (.inr (.inl rfl)) (.inl hlive)
    · simp only [ne_eq, hx, not_false_eq_true, and_true, false_or]
  · exact ⟨other, (List.mem_filter.mp hother).1, rfl, rfl⟩
  · obtain ⟨hmem, hne⟩ := List.mem_filter.mp hother
    have hother : other.messageId ≠ t.messageId := of_decide_eq_true hne
    exact fun hin => (List.mem_cons.mp hin).elim hother (hs.live other hmem)

theorem books_completed (s : System ν) (t t' : StreamTurn ν) (statements : Statements)
    (after : Tables ν) (hs : Books f s) (ht : t ∈ s.turns) (hid : t'.messageId = t.messageId)
    (hchat : t'.chat = t.chat) (h : finishComplete t' statements s.db = (.ok (), after)) :
    Books f (s.close t.messageId true after) := by
  obtain ⟨hmessages, event, heventchat, htype, houtput, hevents⟩ := finishComplete_ok t' statements _ _ h
  rw [hid] at hmessages
  have hids : after.messages.map (·.id) = s.db.messages.map (·.id) := by
    rw [hmessages, List.map_map]
    exact List.map_congr_left fun row _ => writeRow_id _ _ _ _ row
  have hmem : ∀ x, x ∈ apart (s.close t.messageId true after) ↔ x ∈ apart s ∧ x ≠ t.messageId := by
    intro x
    unfold apart System.close
    rw [if_pos rfl, List.mem_append, List.mem_append, mem_without, or_and_right]
    refine or_congr_right (and_iff_left_of_imp fun hx hne => ?_).symm
    rw [hne] at hx
    exact hs.live t ht hx
  have hkeep := writeRow_keep t.messageId t'.progress.accumulatedContent .complete
    t'.progress.outputTokens
  refine ⟨fun c => ?_, hids ▸ hs.keyed, fun x hx => ?_, fun other hother => ?_, fun other hother => ?_⟩
  · change counted f _ after c = reported f after c
    obtain ⟨row, hrow, hrowid, hrowchat, hrole⟩ := hs.rows t ht
    have hsum := sum_rewrite (·.id) (weight f (apart s) c)
      (fun row => weight f (apart (s.close t.messageId true after)) c (writeRow t.messageId .complete
        t'.progress.accumulatedContent t'.progress.outputTokens row)) s.db.messages row hs.keyed hrow
      fun other hother hne => by
        have hsame : other.id ≠ t.messageId := fun heq => hne (heq.trans hrowid.symm)
        change weight f _ c (writeRow _ _ _ _ other) = _
        unfold writeRow
        rw [if_neg hsame]
        exact weight_congr f _ _ c other ((hmem other.id).trans (and_iff_left hsame))
    have hold : weight f (apart s) c row = 0 := by
      refine if_neg fun hall => hall.2.2 ?_
      rw [hrowid]
      exact List.mem_append_left _ (List.mem_map_of_mem ht)
    have hnew : weight f (apart (s.close t.messageId true after)) c (writeRow t.messageId .complete
        t'.progress.accumulatedContent t'.progress.outputTokens row) =
          if t.chat.id = c then f t'.progress.outputTokens else 0 := by
      unfold writeRow weight
      rw [if_pos hrowid]
      dsimp only
      by_cases hc : t.chat.id = c
      · rw [if_pos ⟨hrowchat.trans hc, hrole, fun hin => ((hmem row.id).mp hin).2 hrowid⟩, if_pos hc]
      · rw [if_neg fun hall => hc (hrowchat.symm.trans hall.1), if_neg hc]
    have hcharge : charge f c event = if t.chat.id = c then f t'.progress.outputTokens else 0 := by
      rw [charge_event f t'.chat.id c event heventchat htype, houtput, hchat]
    have hcounted : counted f (apart (s.close t.messageId true after)) after c =
        counted f (apart s) s.db c + if t.chat.id = c then f t'.progress.outputTokens else 0 := by
      unfold counted
      rw [hmessages, List.map_map, ← hnew]
      exact hsum.trans (by rw [hold, sub_zero])
    rw [hcounted, hs.balanced c, reported_append f [event] s.db after c hevents, List.map_singleton,
      List.sum_singleton, hcharge]
  · change x ∈ after.messages.map (·.id)
    rw [hids]
    exact hs.known x ((hmem x).mp hx).1
  · exact hs.live other (List.mem_filter.mp hother).1
  · obtain ⟨row, hrow, hrowid, hrowchat, hrole⟩ := hs.rows other (List.mem_filter.mp hother).1
    obtain ⟨hkid, hkchat, hkrole⟩ := hkeep row
    refine ⟨_, ?_, hkid.trans hrowid, hkchat.trans hrowchat, hkrole.trans hrole⟩
    change _ ∈ after.messages
    rw [hmessages]
    exact List.mem_map_of_mem hrow

theorem books_ends (s : System ν) (t t' : StreamTurn ν) (statements : Statements) (mid : Tables ν)
    (recorded : Bool) (after : Tables ν) (hs : Books f s) (ht : t ∈ s.turns)
    (hid : t'.messageId = t.messageId) (hchat : t'.chat = t.chat) (hmid : Touched t.messageId s.db mid)
    (h : Ends t' statements mid (recorded, after)) :
    Books f (s.close t.messageId recorded after) := by
  cases recorded with
  | false =>
    rw [← hid] at hmid
    exact books_unrecorded s t after hs ht (hid ▸ touched_trans t'.messageId s.db mid after hmid h)
  | true =>
    have hbooks : Books f { s with db := mid } :=
      books_touched s { s with db := mid } t.messageId hs
        (List.mem_append_left _ (List.mem_map_of_mem ht)) hmid (fun _ => Iff.rfl)
        (fun other hother => ⟨other, hother, rfl, rfl⟩) hs.live
    exact books_completed { s with db := mid } t t' statements after hbooks ht hid hchat h

theorem books_put (s : System ν) (t t' : StreamTurn ν) (after : Tables ν) (hs : Books f s)
    (ht : t ∈ s.turns) (hid : t'.messageId = t.messageId) (hchat : t'.chat = t.chat)
    (h : Touched t.messageId s.db after) : Books f (s.put t' after) := by
  have hids : (s.put t' after).turns.map (·.messageId) = s.turns.map (·.messageId) := by
    unfold System.put
    rw [List.map_map]
    refine List.map_congr_left fun old _ => ?_
    change (if old.messageId = t'.messageId then t' else old).messageId = old.messageId
    split_ifs with hsame
    · exact hsame.symm
    · rfl
  have hturns : ∀ other ∈ (s.put t' after).turns, ∃ old ∈ s.turns, old.messageId = other.messageId ∧
      old.chat = other.chat := by
    intro other hother
    obtain ⟨old, hold, rfl⟩ := List.mem_map.mp hother
    split_ifs with hsame
    · exact ⟨t, ht, hid.symm, hchat.symm⟩
    · exact ⟨old, hold, rfl, rfl⟩
  refine books_touched s (s.put t' after) t.messageId hs
    (List.mem_append_left _ (List.mem_map_of_mem ht)) h (fun x => ?_) hturns fun other hother => ?_
  · unfold apart
    rw [hids]
    rfl
  · obtain ⟨old, hold, hsame, -⟩ := hturns other hother
    rw [← hsame]
    exact hs.live old hold

/-- Where nothing counts as nothing and a reply's stored count as the one its event reports, a step
keeps the books. -/
def Faithful (f : Option ℤ → ℤ) : Action ν → Prop
  | .reply _ _ _ _ response =>
    f (storedTokenCount response.usage) = f (response.usage.map (·.outputTokens))
  | _ => True

theorem find_turn (s : System ν) (messageId : JsString) (t : StreamTurn ν)
    (h : s.turns.find? (·.messageId = messageId) = some t) : t ∈ s.turns ∧ t.messageId = messageId := by
  have hfound := List.find?_some h
  exact ⟨List.mem_of_find?_eq_some h, of_decide_eq_true hfound⟩

theorem step_books (toLowerCase : JsString → JsString) (hf : f none = 0) (s : System ν)
    (action : Action ν) (hs : Books f s) (ha : Faithful f action) :
    Books f (step toLowerCase s action) := by
  cases action with
  | reply calls chat agent execution response =>
    rcases reply_replied calls chat agent execution response s.db with h | ⟨row, event, hchat, htype, hout, h⟩
    · change Books f { s with db := _ }
      rw [h]
      exact hs
    · refine books_added s _ chat.id (storedTokenCount response.usage) [event] row hs h fun c => ?_
      rw [List.map_singleton, List.sum_singleton, charge_event f chat.id c event hchat htype, hout, ha]
  | turnError calls chatId agentId =>
    rcases turnError_added calls chatId agentId s.db with h | ⟨row, h⟩
    · change Books f { s with db := _ }
      rw [h]
      exact hs
    · refine books_added s _ chatId none [] row hs h fun c => ?_
      rw [hf, ite_self]
      rfl
  | start calls chat agent execution member now =>
    have h := pending_atomic calls chat.id agent.id s.db
    unfold step
    dsimp only
    generalize MessageWrites.createPendingMessageRow calls chat.id agent.id s.db = outcome at h ⊢
    match outcome, h with
    | (.error failure, after), h =>
      obtain rfl : after = s.db := h
      exact hs
    | (.ok row, after), ⟨_, rfl, h⟩ =>
      exact books_started s after ⟨chat, agent, execution, row.id, member, .start now⟩ row hs h rfl
  | event messageId statements aborted now event =>
    unfold step
    dsimp only
    cases hfind : s.turns.find? (·.messageId = messageId) with
    | none => exact hs
    | some t =>
      obtain ⟨ht, rfl⟩ := find_turn s messageId t hfind
      have h := onEvent_advances t toLowerCase statements aborted now event s.db
      dsimp only
      generalize onEvent t toLowerCase statements aborted now event s.db = outcome at h ⊢
      match outcome, h with
      | (.running t', after), ⟨hid, hchat, htouched⟩ =>
        exact books_put s t t' after hs ht hid hchat htouched
      | (.over recorded, after), ⟨t', ended, mid, hid, hchat, hmid, hends⟩ =>
        exact books_ends s t t' ended mid recorded after hs ht hid hchat hmid hends
  | streamEnd messageId statements aborted ending =>
    unfold step
    dsimp only
    cases hfind : s.turns.find? (·.messageId = messageId) with
    | none => exact hs
    | some t =>
      obtain ⟨ht, rfl⟩ := find_turn s messageId t hfind
      exact books_ends s t t statements s.db _ _ hs ht rfl rfl (touched_refl _ _)
        (endTurn_ends t toLowerCase statements aborted ending s.db)
  | leave messageId =>
    unfold step
    dsimp only
    cases hfind : s.turns.find? (·.messageId = messageId) with
    | none => exact hs
    | some t =>
      obtain ⟨ht, rfl⟩ := find_turn s messageId t hfind
      exact books_unrecorded s t s.db hs ht (touched_refl _ _)

theorem run_books (toLowerCase : JsString → JsString) (hf : f none = 0) (db : Tables ν)
    (hkeys : (db.messages.map (·.id)).Nodup) (hstart : Balanced f [] db) (actions : List (Action ν))
    (hfaithful : ∀ action ∈ actions, Faithful f action) :
    ∀ s ∈ states (step toLowerCase) ⟨db, [], []⟩ actions, s.turns = [] → Balanced f s.unrecorded s.db := by
  have hbooks : Books f (⟨db, [], []⟩ : System ν) :=
    ⟨hstart, hkeys, fun _ hid => absurd hid List.not_mem_nil, fun _ ht => absurd ht List.not_mem_nil,
      fun _ ht => absurd ht List.not_mem_nil⟩
  intro s hs hquiet
  have hapart : apart s = s.unrecorded := by
    unfold apart
    rw [hquiet]
    rfl
  rw [← hapart]
  exact (run_invariant _ (fun _ action => Faithful f action) (Books f)
    (fun s action hs ha => step_books toLowerCase hf s action hs ha) _ actions hbooks
    (allowed_of_mem _ (Faithful f) _ actions hfaithful) s hs).balanced

end Steps

theorem floored_stored (usage : Option (TokenUsage ℤ)) :
    floored (storedTokenCount usage) = floored (usage.map (·.outputTokens)) := by
  unfold storedTokenCount floored
  cases usage.map (·.outputTokens) with
  | none => rfl
  | some n =>
    rw [Option.filter_some]
    by_cases hn : 0 < n
    · rw [if_pos (decide_eq_true hn)]
    · rw [if_neg (by simpa using hn)]
      simp only [Option.getD_none, Option.getD_some]
      omega

theorem plain_stored (usage : Option (TokenUsage ℤ)) (h : ∀ u ∈ usage, 0 ≤ u.outputTokens) :
    plain (storedTokenCount usage) = plain (usage.map (·.outputTokens)) := by
  unfold storedTokenCount plain
  cases usage with
  | none => rfl
  | some u =>
    have hu := h u rfl
    rw [Option.map_some, Option.filter_some]
    by_cases hn : 0 < u.outputTokens
    · rw [if_pos (decide_eq_true hn)]
    · rw [if_neg (by simpa using hn)]
      simp only [Option.getD_none, Option.getD_some]
      omega

/-- The provider has not answered `completeChat` with a negative count. -/
def NonNegative : Action ν → Prop
  | .reply _ _ _ _ response => ∀ usage ∈ response.usage, 0 ≤ usage.outputTokens
  | _ => True

/-- Only a turn that neither the client nor an error cuts short records its usage. -/
theorem endTurn_recorded (t : StreamTurn ν) (toLowerCase : JsString → JsString)
    (statements : Statements) (aborted : Bool) (ending : Option Failure) (db : Tables ν) :
    (endTurn t toLowerCase statements aborted ending db).1 = true ↔
      aborted = false ∧ ending = none ∧ (finishComplete t statements db).1 = .ok () := by
  unfold endTurn endMemberTurn endAgentTurn
  cases aborted with
  | true =>
    refine iff_of_false ?_ fun h => nomatch h.1
    cases ending with
    | some failure => cases t.member <;> exact Bool.false_ne_true
    | none =>
      cases t.member with
      | true => exact Bool.false_ne_true
      | false =>
        rw [if_neg Bool.false_ne_true]
        dsimp only
        rw [if_pos rfl]
        cases StreamTurns.finishAborted t statements.flush db with
        | mk outcome after => cases outcome <;> exact Bool.false_ne_true
  | false =>
    cases ending with
    | some failure =>
      refine iff_of_false ?_ fun h => nomatch h.2.1
      cases t.member <;> exact Bool.false_ne_true
    | none =>
      cases hcomplete : finishComplete t statements db with
      | mk outcome after =>
        have hboth : ∀ recorded : Bool, (recorded = true ↔ outcome = .ok ()) →
            (recorded = true ↔ false = false ∧ (none : Option Failure) = none ∧ outcome = .ok ()) :=
          fun recorded h => h.trans ⟨fun h => ⟨rfl, rfl, h⟩, fun h => h.2.2⟩
        refine hboth _ ?_
        cases outcome with
        | ok u => cases t.member <;> exact iff_of_true rfl rfl
        | error failure => cases t.member <;> exact iff_of_false Bool.false_ne_true nofun

/-- The counts agree whenever no call is in flight, the messages apart whose turns have ended without a
usage event; those are the turns that the client or an error has cut short. -/
theorem tokens_conserved (toLowerCase : JsString → JsString) (db : Tables ν)
    (hkeys : (db.messages.map (·.id)).Nodup) (actions : List (Action ν)) :
    (Balanced floored [] db → ∀ s ∈ states (step toLowerCase) ⟨db, [], []⟩ actions, s.turns = [] →
      Balanced floored s.unrecorded s.db) ∧
    (Balanced plain [] db → (∀ action ∈ actions, NonNegative action) →
      ∀ s ∈ states (step toLowerCase) ⟨db, [], []⟩ actions, s.turns = [] →
        Balanced plain s.unrecorded s.db) ∧
    ∀ (t : StreamTurn ν) (statements : Statements) (aborted : Bool) (ending : Option Failure)
      (s : Tables ν), (endTurn t toLowerCase statements aborted ending s).1 = true ↔
        aborted = false ∧ ending = none ∧ (finishComplete t statements s).1 = .ok () := by
  refine ⟨fun hstart => ?_, fun hstart hall => ?_, fun t => endTurn_recorded t toLowerCase⟩
  · refine run_books toLowerCase rfl db hkeys hstart actions fun action _ => ?_
    cases action with
    | reply calls chat agent execution response => exact floored_stored response.usage
    | _ => trivial
  · refine run_books toLowerCase rfl db hkeys hstart actions fun action haction => ?_
    cases action with
    | reply calls chat agent execution response =>
      exact plain_stored response.usage (hall _ haction)
    | _ => trivial

section Sample
open Completions (sampleTables sampleAgent sampleExecution)

def sampleCalls (id : String) : Calls := ⟨fun _ => js id, fun _ => js id, fun _ => [], fun _ _ => none⟩

def sampleStatements : Statements := ⟨sampleCalls "a", sampleCalls "b", sampleCalls "c"⟩

def sampleTurn : List (Action ℤ) :=
  [.start (sampleCalls "r") ⟨js "c", some (js "Ann"), none, none, none, []⟩ (sampleAgent "Ann")
      sampleExecution false 0,
    .event (js "r") sampleStatements false 0 (.textDelta (js "hello")),
    .event (js "r") sampleStatements false 0 (.usage ⟨3, 7, 10, none⟩)]

theorem sampleTables_balanced (f : Option ℤ → ℤ) : Balanced f [] (sampleTables .sequential) := by
  intro chatId
  have huser : ∀ row : MessageRow, row.role = js "user" → weight f [] chatId row = 0 := by
    intro row hrow
    refine if_neg fun h => ?_
    rw [hrow] at h
    exact absurd h.2.1 (by decide)
  unfold counted reported sampleTables
  dsimp only
  rw [List.map_cons, List.map_cons, List.map_nil, huser _ rfl, huser _ rfl]
  rfl

def sampleEnd (actions : List (Action ℤ)) : System ℤ :=
  actions.foldl (step id) ⟨sampleTables .sequential, [], []⟩

def completedTurn : List (Action ℤ) :=
  sampleTurn ++ [.streamEnd (js "r") sampleStatements false none]

def failedTurn : List (Action ℤ) :=
  sampleTurn ++ [.streamEnd (js "r") sampleStatements false
    (some (.thrown (js "Error") (js "upstream failed")))]

def negativeReply : List (Action ℤ) :=
  [.reply (sampleCalls "r") ⟨js "c", some (js "Ann"), none, none, none, []⟩ (sampleAgent "Ann")
    sampleExecution ⟨js "hello", some ⟨3, -7, -4, none⟩⟩]

theorem completedTurn_nonNegative : ∀ action ∈ completedTurn, NonNegative action := by
  intro action haction
  simp only [completedTurn, sampleTurn, List.cons_append, List.nil_append, List.mem_cons,
    List.not_mem_nil, or_false] at haction
  rcases haction with rfl | rfl | rfl | rfl
  all_goals trivial

theorem tokens_conserved_turn : counted plain [] (sampleEnd completedTurn).db (js "c") = 7 ∧
    Balanced plain (sampleEnd completedTurn).unrecorded (sampleEnd completedTurn).db :=
  ⟨by decide +kernel, (tokens_conserved id (sampleTables .sequential) (by decide +kernel)
    completedTurn).2.1 (sampleTables_balanced plain) completedTurn_nonNegative _ (final_mem _ _ _)
    (List.eq_nil_of_length_eq_zero (by decide +kernel))⟩

/-- An error of the provider's after its report leaves the seven tokens with the message alone, and a
negative count of a reply is in its usage event alone. -/
theorem tokens_not_conserved : Balanced plain [] (sampleTables .sequential) ∧
    ((sampleEnd failedTurn).turns.length = 0 ∧
      counted plain [] (sampleEnd failedTurn).db (js "c") = 7 ∧
      reported plain (sampleEnd failedTurn).db (js "c") = 0) ∧
    (sampleEnd negativeReply).turns.length = 0 ∧
      counted plain [] (sampleEnd negativeReply).db (js "c") = 0 ∧
      reported plain (sampleEnd negativeReply).db (js "c") = -7 :=
  ⟨sampleTables_balanced plain, by decide +kernel, by decide +kernel⟩

end Sample

end Glassbeetle.TokenLedger
