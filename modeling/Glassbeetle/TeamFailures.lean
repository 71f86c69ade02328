import Glassbeetle.ScheduleBounds
import Glassbeetle.TurnDeliveries

set_option autoImplicit false

/-!
# What a failing team run leaves

The rows that a run leaves, whatever else is done to the database meanwhile as
long as these rows stay.
-/
namespace Glassbeetle.TeamFailures
open JsText Utf8Text AdapterTypes Database ExecutionChain AsyncGenerator Inference MemberTurns
  TeamChat Completions Schedules TeamSchedules ScheduleBounds TurnDeliveries
open QuietRuns (Leads delivery)
open scoped Classical

variable {ν : Type}

def Own (env : Environment ν) (row : MessageRow) : Prop := ∃ n, row.id = env.newId n

noncomputable def ownRows (env : Environment ν) (db : Tables ν) : List MessageRow :=
  db.messages.filter fun row => decide (Own env row)

/-- The client stays and nobody else touches the rows of the run. -/
structure Undisturbed (env : Environment ν) : Prop where
  present : ∀ moment, env.aborted moment = false
  rows : ∀ moment db, ownRows env (env.others moment db) = ownRows env db

structure Kept (env : Environment ν) (chat : ChatRow) (rows : List MessageRow) (issued : ℕ)
    (db : Tables ν) : Prop where
  own : ownRows env db = rows
  issued : ∀ row ∈ rows, ∃ n < issued, row.id = env.newId n
  distinct : (rows.map (·.id)).Nodup
  chats : ∀ row ∈ rows, row.chatId = chat.id
  increasing : rows.Pairwise fun a b => a.sequence < b.sequence

section Rows

variable {env : Environment ν} {chat : ChatRow} {rows : List MessageRow} {issued issued' : ℕ}
  {db db' : Tables ν}

theorem kept_later (h : Kept env chat rows issued db) (hmessages : db'.messages = db.messages)
    (hissued : issued ≤ issued') : Kept env chat rows issued' db' := by
  refine ⟨?_, fun row hrow => ?_, h.distinct, h.chats, h.increasing⟩
  · unfold ownRows
    rw [hmessages]
    exact h.own
  · obtain ⟨n, hn, hid⟩ := h.issued row hrow
    exact ⟨n, by omega, hid⟩

def Free (env : Environment ν) (rows : List MessageRow) (id : JsString) (issued : ℕ) : Prop :=
  (∃ n < issued, id = env.newId n) ∧ ∀ row ∈ rows, row.id ≠ id

theorem kept_insert (h : Kept env chat rows issued db) (row : MessageRow)
    (hfree : Free env rows row.id issued) (hchat : row.chatId = chat.id)
    (hnext : row.sequence = db.maxSequence chat.id + 1)
    (hmessages : db'.messages = db.messages ++ [row]) :
    Kept env chat (rows ++ [row]) issued db' := by
  obtain ⟨⟨n, hn, hid⟩, hother⟩ := hfree
  refine ⟨?_, ?_, ?_, ?_, ?_⟩
  · have hown : [row].filter (fun row => decide (Own env row)) = [row] := by
      refine List.filter_eq_self.mpr fun other hmem => ?_
      rw [List.mem_singleton.mp hmem]
      exact decide_eq_true ⟨n, hid⟩
    unfold ownRows
    rw [hmessages, List.filter_append, hown]
    exact congrArg (· ++ [row]) h.own
  · intro other hmem
    rcases List.mem_append.mp hmem with hmem | hmem
    · exact h.issued other hmem
    · rw [List.mem_singleton.mp hmem]
      exact ⟨n, hn, hid⟩
  · rw [List.map_append, List.nodup_append]
    refine ⟨h.distinct, List.nodup_singleton _, ?_⟩
    intro id hid' other hmem
    obtain ⟨old, hold, rfl⟩ := List.mem_map.mp hid'
    obtain rfl := List.mem_singleton.mp hmem
    exact hother old hold
  · intro other hmem
    rcases List.mem_append.mp hmem with hmem | hmem
    · exact h.chats other hmem
    · rw [List.mem_singleton.mp hmem]
      exact hchat
  · rw [List.pairwise_append]
    refine ⟨h.increasing, List.pairwise_singleton _ _, ?_⟩
    intro old hold new hnew
    rw [List.mem_singleton.mp hnew, hnext]
    have hmem : old ∈ db.messages := List.mem_of_mem_filter (h.own ▸ hold)
    have hle := le_maxSequence db chat.id old hmem (h.chats old hold)
    omega

theorem kept_write (row : MessageRow) (h : Kept env chat (rows ++ [row]) issued db)
    (status : MessageStatus) (content : JsString) (tokenCount : Option ℤ)
    (hmessages : db'.messages = db.messages.map (writeRow row.id status content tokenCount)) :
    Kept env chat
      (rows ++ [{ row with status := status, content := stored content, tokenCount := tokenCount }])
      issued db' := by
  have hold : ∀ old ∈ rows, old.id ≠ row.id := by
    have hdistinct := h.distinct
    rw [List.map_append, List.nodup_append] at hdistinct
    exact fun old hmem => hdistinct.2.2 old.id (List.mem_map_of_mem hmem) row.id List.mem_cons_self
  have hwritten : (rows ++ [row]).map (writeRow row.id status content tokenCount) =
      rows ++ [{ row with status := status, content := stored content, tokenCount := tokenCount }] := by
    rw [List.map_append]
    refine congrArg₂ (· ++ ·) ?_ (congrArg (fun r => [r]) (if_pos rfl))
    exact (List.map_congr_left fun old hmem => if_neg (hold old hmem)).trans (List.map_id _)
  have hfields : ∀ old : MessageRow, (writeRow row.id status content tokenCount old).chatId =
      old.chatId ∧ (writeRow row.id status content tokenCount old).sequence = old.sequence := by
    intro old
    unfold writeRow
    split_ifs
    · exact ⟨rfl, rfl⟩
    · exact ⟨rfl, rfl⟩
  rw [← hwritten]
  refine ⟨?_, ?_, ?_, ?_, ?_⟩
  · have hown : (fun old => decide (Own env old)) ∘ writeRow row.id status content tokenCount =
        fun old => decide (Own env old) := by
      funext old
      have hsame : Own env (writeRow row.id status content tokenCount old) ↔ Own env old := by
        unfold Own
        rw [writeRow_id]
      exact decide_eq_decide.mpr hsame
    unfold ownRows
    rw [hmessages, List.filter_map, hown]
    exact congrArg _ h.own
  · intro new hnew
    obtain ⟨old, hmem, rfl⟩ := List.mem_map.mp hnew
    rw [writeRow_id]
    exact h.issued old hmem
  · rw [List.map_map]
    have hids : (fun r : MessageRow => r.id) ∘ writeRow row.id status content tokenCount =
        fun r => r.id := funext fun old => writeRow_id _ _ _ _ old
    rw [hids]
    exact h.distinct
  · intro new hnew
    obtain ⟨old, hmem, rfl⟩ := List.mem_map.mp hnew
    rw [(hfields old).1]
    exact h.chats old hmem
  · rw [List.pairwise_map]
    exact h.increasing.imp fun {a b} hab => by rwa [(hfields a).2, (hfields b).2]

end Rows

def Holds (env : Environment ν) (chat : ChatRow) (rows : List MessageRow) (w : World ν) : Prop :=
  Kept env chat rows w.issued w.db

section Steps

variable {env : Environment ν} (hund : Undisturbed env) (chat : ChatRow) (rows : List MessageRow)
  {E : Failure → World ν → Prop}

theorem holds_modify (f : World ν → World ν) (hdb : ∀ w, (f w).db = w.db)
    (hissued : ∀ w, (f w).issued = w.issued) :
    Leads (Holds env chat rows) (Gen.modify f) (fun _ => Holds env chat rows) E := by
  refine triple_modify f fun w h => ?_
  unfold Holds
  rw [hdb, hissued]
  exact h

include hund in
theorem holds_suspend :
    Leads (Holds env chat rows) (suspend env) (fun _ => Holds env chat rows) E :=
  triple_modify _ fun w h => ⟨(hund.rows w.clock w.db).trans h.own, h.issued, h.distinct, h.chats,
    h.increasing⟩

theorem holds_note (hazard : World ν → Hazard ν) :
    Leads (Holds env chat rows) (note hazard) (fun _ => Holds env chat rows) E :=
  holds_modify chat rows _ (fun w => by split_ifs <;> rfl) fun w => by split_ifs <;> rfl

theorem holds_send (agentId : JsString) (request : CompletionRequest ν) :
    Leads (Holds env chat rows) (send agentId request) (fun _ => Holds env chat rows) E :=
  holds_modify chat rows _ (fun _ => rfl) fun _ => rfl

include hund in
theorem holds_yield (event : SseCompletionEvent) :
    Leads (Holds env chat rows) (yieldEvent env event) (fun _ => Holds env chat rows) E :=
  triple_bind_modify _ _ (Holds env chat rows) (fun _ h => h)
    (triple_bind_emit event _ (fun _ _ => trivial) (holds_suspend hund chat rows))

theorem holds_newId :
    Leads (Holds env chat rows) (newId env)
      (fun id w => Free env rows id w.issued ∧ Holds env chat rows w) E := by
  refine triple_bind_read _ fun s hs => triple_bind_modify _ _ (fun w =>
    Free env rows (env.newId s.issued) w.issued ∧ Holds env chat rows w) (fun w hw => ?_)
    (triple_pure _ fun _ h => h)
  obtain rfl := hw
  refine ⟨⟨⟨w.issued, Nat.lt_succ_self _, rfl⟩, fun row hrow hid => ?_⟩,
    kept_later hs rfl (Nat.le_succ _)⟩
  obtain ⟨n, hn, hn'⟩ := hs.issued row hrow
  have := env.newId_injective _ _ (hn'.symm.trans hid)
  omega

theorem free_newId (id : JsString) :
    Leads (fun w => Free env rows id w.issued ∧ Holds env chat rows w) (newId env)
      (fun _ w => Free env rows id w.issued ∧ Holds env chat rows w) E := by
  refine triple_bind_read _ fun s hs => triple_bind_modify _ _ (fun w =>
    Free env rows id w.issued ∧ Holds env chat rows w) (fun w hw => ?_) (triple_pure _ fun _ h => h)
  obtain rfl := hw
  obtain ⟨⟨⟨n, hn, hid⟩, hother⟩, hkept⟩ := hs
  exact ⟨⟨⟨n, Nat.lt_succ_of_lt hn, hid⟩, hother⟩, kept_later hkept rfl (Nat.le_succ _)⟩

def HoldsOne (env : Environment ν) (chat : ChatRow) (rows : List MessageRow) (line : Line)
    (w : World ν) : Prop :=
  ∃ row, lineOf row = line ∧ Holds env chat (rows ++ [row]) w

theorem holds_inserted (w w' : World ν) (h : Holds env chat rows w)
    (id agentId content now : JsString) (status : MessageStatus) (tokenCount : Option ℤ)
    (hfree : Free env rows id w.issued) (row : MessageRow) (after : Tables ν)
    (hinsert : w.db.insertMessage id chat.id agentId content status tokenCount now =
      some (row, after)) (hmessages : w'.db.messages = after.messages)
    (hissued : w'.issued = w.issued) :
    lineOf row = ⟨chat.id, js "assistant", some agentId, stored content, status⟩ ∧
      Holds env chat (rows ++ [row]) w' := by
  obtain ⟨rfl, rfl⟩ := insertMessage_some _ _ _ _ _ _ _ _ _ _ hinsert
  refine ⟨rfl, ?_⟩
  unfold Holds
  rw [hissued]
  exact kept_insert h _ hfree rfl rfl hmessages

end Steps

section Answers

variable {env : Environment ν} (chat : ChatRow) (rows : List MessageRow) (turn : Turn)

def repliedLines (chat : ChatRow) (turns : List (Turn × JsString)) : List Line :=
  turns.map fun turn => repliedLine chat turn.1.member.agentId turn.2

theorem repliedLines_snoc (turns : List (Turn × JsString)) (content : JsString) :
    repliedLines chat (turns ++ [(turn, content)]) =
      repliedLines chat turns ++ [repliedLine chat turn.member.agentId content] :=
  List.map_append

def Answered (env : Environment ν) (chat : ChatRow) (turns : List (Turn × JsString))
    (w : World ν) : Prop :=
  ∃ rows, rows.map lineOf = repliedLines chat turns ∧ Holds env chat rows w

theorem answered_snoc (turns : List (Turn × JsString)) (content : JsString) (w : World ν)
    (hrows : rows.map lineOf = repliedLines chat turns)
    (h : HoldsOne env chat rows (repliedLine chat turn.member.agentId content) w) :
    Answered env chat (turns ++ [(turn, content)]) w := by
  obtain ⟨row, hline, hrow⟩ := h
  refine ⟨rows ++ [row], ?_, hrow⟩
  rw [List.map_append, hrows, repliedLines_snoc]
  exact congrArg (fun line => _ ++ [line]) hline

end Answers

section Whole

variable {env : Environment ν} (hund : Undisturbed env) (chat : ChatRow) (rows : List MessageRow)

theorem holds_persist (agent : AgentRow ν) (execution : Execution ν)
    (response : CompletionResponse) :
    Leads (Holds env chat rows) (persistAssistantReply env chat agent execution response)
      (fun reply => HoldsOne env chat rows (repliedLine chat agent.id reply.content))
      fun _ => Holds env chat rows := by
  refine triple_bind _ _ (holds_newId chat rows) fun messageId =>
    triple_bind _ _ (free_newId chat rows messageId) fun usageId => triple_bind_read _ fun s hs => ?_
  obtain ⟨hfree, hs⟩ := hs
  dsimp only
  split_ifs
  · exact triple_fail _ fun w hw => hw ▸ hs
  cases hinsert : s.db.insertMessage messageId chat.id agent.id response.content .complete
      (storedTokenCount response.usage) (env.nowIso s.clock) with
  | none => exact triple_fail _ fun w hw => hw ▸ hs
  | some inserted =>
    cases hrecord : (inserted.2.touchChat chat.id (env.nowIso s.clock)).insertUsageEvent
        (usageEvent usageId (env.nowIso s.clock) agent.id chat.id execution response.usage) with
    | none =>
      dsimp only [bind, Option.bind]
      rw [hrecord]
      exact triple_fail _ fun w hw => hw ▸ hs
    | some after =>
      dsimp only [bind, Option.bind]
      rw [hrecord]
      refine triple_bind_modify _ _ (Holds env chat (rows ++ [inserted.1])) (fun w hw => ?_)
        (triple_pure _ fun w hw => ⟨inserted.1, ?_, hw⟩)
      · obtain rfl := hw
        have hrows := insertUsageEvent_rows _ _ _ hrecord
        exact (holds_inserted chat rows w { w with db := after } hs messageId _ _ _ _ _ hfree _ _
          hinsert hrows rfl).2
      · obtain ⟨hrow, -⟩ := insertMessage_some _ _ _ _ _ _ _ _ _ _ hinsert
        rw [hrow]
        unfold repliedLine lineOf
        rw [stored_stored]

def Recordable (env : Environment ν) (chat : ChatRow) (agentId : JsString) (w : World ν) : Prop :=
  env.storageFails w.clock = false ∧ (w.db.chat chat.id).isSome ∧ (w.db.agent agentId).isSome

def errorLine (chat : ChatRow) (agentId content : JsString) : Line :=
  ⟨chat.id, js "assistant", some agentId, stored content, .error⟩

theorem holds_error (agentId : JsString) {E : Failure → World ν → Prop} :
    Leads (Holds env chat rows) (recordTurnErrorRow env chat agentId)
      (fun _ w => if Recordable env chat agentId w then
          HoldsOne env chat rows (errorLine chat agentId (js "Generation failed mid-team turn")) w
        else Holds env chat rows w) E := by
  refine triple_bind _ _ (holds_newId chat rows) fun id => triple_bind_read _ fun s hs => ?_
  obtain ⟨hfree, hs⟩ := hs
  dsimp only
  split_ifs with hstorage
  · refine triple_pure _ fun w hw => ?_
    have hno : ¬Recordable env chat agentId s := fun h => by
      rw [h.1] at hstorage
      cases hstorage
    rw [hw, if_neg hno]
    exact hs
  cases hinsert : s.db.insertMessage id chat.id agentId (js "Generation failed mid-team turn")
      .error none (env.nowIso s.clock) with
  | none =>
    refine triple_pure _ fun w hw => ?_
    have hno : ¬Recordable env chat agentId s := fun h =>
      insertMessage_none _ _ _ _ _ _ _ _ hinsert h.2
    rw [hw, if_neg hno]
    exact hs
  | some inserted =>
    obtain ⟨row, after⟩ := inserted
    refine triple_modify _ fun w hw => ?_
    obtain rfl := hw
    obtain ⟨hline, hone⟩ := holds_inserted chat rows w { w with db := after } hs id _ _ _ _ _ hfree
      row after hinsert rfl rfl
    have hyes : Recordable env chat agentId { w with db := after } := by
      have hfound : (w.db.chat chat.id).isSome ∧ (w.db.agent agentId).isSome := by
        by_contra hno
        unfold Tables.insertMessage at hinsert
        rw [if_neg hno] at hinsert
        cases hinsert
      obtain ⟨-, rfl⟩ := insertMessage_some _ _ _ _ _ _ _ _ _ _ hinsert
      exact ⟨Bool.not_eq_true _ ▸ hstorage, hfound⟩
    rw [if_pos hyes]
    exact ⟨row, hline, hone⟩

variable (dto : CreateCompletionDto ν) (turn : Turn)

include hund

theorem holds_call (agentId : JsString) (execution : Execution ν) (request : CompletionRequest ν) :
    Leads (Holds env chat rows) (callComplete env agentId execution request)
      (fun _ => Holds env chat rows) fun _ => Holds env chat rows :=
  triple_bind_read _ fun _ hs =>
    triple_bind _ _ (triple_conseq _ (holds_send chat rows agentId request) (fun _ hw => hw ▸ hs)
      (fun _ _ h => h) fun _ _ h => h) fun _ =>
        triple_bind _ _ (holds_suspend hund chat rows) fun _ =>
          triple_lift _ (fun _ _ _ hw => hw) fun _ _ _ hw => hw

theorem holds_execute :
    Leads (Holds env chat rows) (executeMemberTurn env chat dto turn)
      (fun reply => HoldsOne env chat rows (repliedLine chat turn.member.agentId reply.content))
      fun _ => Holds env chat rows := by
  refine triple_bind_read _ fun s hs => triple_bind_lift _ _ (fun prepared hprepared => ?_)
    fun _ _ w hw => hw ▸ hs
  have hspeaker := agent_id s.db _ _ (prepareTurn_ok _ _ _ _ _ _ hprepared).1
  refine triple_bind_lift _ _ (fun _ _ => ?_) fun _ _ w hw => hw ▸ hs
  refine triple_bind _ _ (triple_conseq _ (holds_call hund chat rows prepared.agent.id
    prepared.execution prepared.request) (fun w hw => hw ▸ hs) (fun _ _ h => h) fun _ _ h => h)
    fun response => ?_
  rw [← hspeaker]
  exact holds_persist chat rows prepared.agent prepared.execution response

def Missed (env : Environment ν) (chat : ChatRow) (rows : List MessageRow) (first : Prop)
    (agentId : JsString) (w : World ν) : Prop :=
  if first ∨ ¬Recordable env chat agentId w then Holds env chat rows w
  else HoldsOne env chat rows (errorLine chat agentId (js "Generation failed mid-team turn")) w

theorem holds_guarded (completed : List CompletionResponseDto) :
    Leads (Holds env chat rows) (guardedTurn env chat dto turn completed)
      (fun reply => HoldsOne env chat rows (repliedLine chat turn.member.agentId reply.content))
      fun _ => Missed env chat rows (completed.length = 0) turn.member.agentId := by
  have hattempt : ∀ E, Leads (Holds env chat rows)
      (Gen.attempt (executeMemberTurn env chat dto turn))
      (outcome (fun reply => HoldsOne env chat rows (repliedLine chat turn.member.agentId reply.content))
        fun _ => Holds env chat rows) E := fun E =>
    triple_attempt _ (holds_execute hund chat rows dto turn) (fun _ _ h => h) fun _ _ h => h
  refine triple_bind _ _ (hattempt _) fun outcome => ?_
  cases outcome with
  | ok reply => exact triple_pure _ fun _ h => h
  | error failure =>
    dsimp only
    split_ifs with hlater
    · refine triple_bind _ _ (holds_error chat rows turn.member.agentId) fun _ =>
        triple_fail _ fun w hw => ?_
      unfold Missed
      split_ifs at hw with hrecordable
      · rw [if_neg (fun h => h.elim (by omega) (absurd hrecordable))]
        exact hw
      · rw [if_pos (.inr hrecordable)]
        exact hw
    · refine triple_fail _ fun w hw => ?_
      unfold Missed
      rw [if_pos (.inl (by omega))]
      exact hw

def MissedTurn (env : Environment ν) (chat : ChatRow) (turns : List (Turn × JsString)) (turn : Turn)
    (w : World ν) : Prop :=
  ∃ rows, rows.map lineOf = repliedLines chat turns ∧
    Missed env chat rows (turns = []) turn.member.agentId w

def Replied (env : Environment ν) (chat : ChatRow) (dto : CreateCompletionDto ν)
    (turns : List (Turn × JsString)) (w : World ν) : Prop :=
  Answered env chat turns w ∧ ∃ asked, Spoken env chat dto (Answers env) turns asked ∧ Asked asked w

/-- A run without streaming that has failed at `turn`. -/
def Failed (env : Environment ν) (chat : ChatRow) (dto : CreateCompletionDto ν)
    (turns : List (Turn × JsString)) (turn : Turn) (w : World ν) : Prop :=
  MissedTurn env chat turns turn w ∧
    ∃ asked more, Spoken env chat dto (Answers env) turns asked ∧ Asked (asked ++ more) w

theorem replied_turn (turns : List (Turn × JsString)) (completed : List CompletionResponseDto)
    (hlength : completed.length = turns.length) :
    Leads (Replied env chat dto turns) (guardedTurn env chat dto turn completed)
      (fun reply => Replied env chat dto (turns ++ [(turn, reply.content)]))
      fun _ => Failed env chat dto turns turn := by
  refine triple_given fun w hw => ?_
  obtain ⟨⟨rows, hrows, hholds⟩, asked, hspoken, hasked⟩ := hw
  have hboth := triple_forget (triple_and _ (holds_guarded hund chat rows dto turn completed)
    (guardedTurn_answered chat asked dto turn completed))
  refine triple_conseq _ hboth (fun _ hw => hw ▸ ⟨hholds, hasked⟩) ?_ ?_
  · rintro reply w ⟨hone, prepared, ⟨db, hprepared⟩, hanswers, hasked⟩
    exact ⟨answered_snoc chat rows turn turns _ w hrows hone, _, hspoken.snoc hprepared hanswers,
      hasked⟩
  · rintro failure w ⟨hmissed, more, hasked⟩
    refine ⟨⟨rows, hrows, ?_⟩, asked, more, hspoken, hasked⟩
    have hfirst : (completed.length = 0) = (turns = []) := by
      rw [hlength, List.length_eq_zero_iff]
    rw [← hfirst]
    exact hmissed

theorem replied_complete (s : Schedule Turn JsString) :
    Leads (Replied env chat dto []) (perform (completeStep env chat dto) s [])
      (fun _ w => ∃ turns, Path s turns .finish ∧ Replied env chat dto turns w)
      fun _ w => ∃ turns t next, Path s turns (.turn t next) ∧ Failed env chat dto turns t w := by
  have hrun := triple_perform (completeStep env chat dto) s s
    (fun turns completed w => completed.length = turns.length ∧ Replied env chat dto turns w)
    (fun _ _ => True) (fun _ _ _ => False) (fun turns t _ w => Failed env chat dto turns t w) [] []
    (fun turns t next completed _ => triple_intro _ fun hlength => triple_bind _ _
      (replied_turn hund chat dto t turns completed hlength) fun reply =>
        triple_pure _ fun w h => ⟨?_, h⟩) (.nil s)
  · refine triple_conseq _ hrun (fun _ hw => ⟨rfl, hw⟩) (fun out w h => ?_) fun _ _ h => h
    cases out with
    | none =>
      obtain ⟨_, _, _, _, hnone⟩ := h
      exact hnone.elim
    | some completed =>
      obtain ⟨turns, hpath, -, hreplied⟩ := h
      exact ⟨turns, hpath, hreplied⟩
  · rw [List.length_append, List.length_append, hlength]
    rfl

end Whole

section Streamed

variable {env : Environment ν} (hund : Undisturbed env) (chat : ChatRow) (rows : List MessageRow)
  {E : Failure → World ν → Prop}

def Draft (env : Environment ν) (chat : ChatRow) (rows : List MessageRow) (id : JsString)
    (line : Line) (w : World ν) : Prop :=
  ∃ row, row.id = id ∧ lineOf row = line ∧ Holds env chat (rows ++ [row]) w

def Drafted (env : Environment ν) (chat : ChatRow) (rows : List MessageRow) (id agentId : JsString)
    (w : World ν) : Prop :=
  ∃ content status, Draft env chat rows id ⟨chat.id, js "assistant", some agentId, content, status⟩ w

theorem draft_keep {α : Type} (g : Run ν α) (id : JsString) (line : Line)
    (h : ∀ rows, Leads (Holds env chat rows) g (fun _ => Holds env chat rows) E) :
    Leads (Draft env chat rows id line) g (fun _ => Draft env chat rows id line) E := by
  refine triple_given fun w hw => ?_
  obtain ⟨row, hid, hline, hrow⟩ := hw
  exact triple_conseq _ (h (rows ++ [row])) (fun _ hw => hw ▸ hrow)
    (fun _ _ hw => ⟨row, hid, hline, hw⟩) fun _ _ h => h

theorem drafted_keep {α : Type} (g : Run ν α) (id agentId : JsString)
    (h : ∀ rows, Leads (Holds env chat rows) g (fun _ => Holds env chat rows) E) :
    Leads (Drafted env chat rows id agentId) g (fun _ => Drafted env chat rows id agentId) E := by
  refine triple_given fun w hw => ?_
  obtain ⟨content, status, hdraft⟩ := hw
  exact triple_conseq _ (draft_keep chat rows g id _ h) (fun _ hw => hw ▸ hdraft)
    (fun _ _ hw => ⟨content, status, hw⟩) fun _ _ h => h

theorem draft_pending (agent : AgentRow ν) :
    Leads (Holds env chat rows) (createPendingMessageRow env chat agent)
      (fun row => Drafted env chat rows row.id agent.id) fun _ _ => True := by
  refine triple_bind _ _ (holds_newId chat rows) fun id => triple_bind_read _ fun s hs => ?_
  obtain ⟨hfree, hs⟩ := hs
  dsimp only
  split_ifs
  · exact triple_fail _ fun _ _ => trivial
  cases hinsert : s.db.insertMessage id chat.id agent.id [] .pending none (env.nowIso s.clock) with
  | none => exact triple_fail _ fun _ _ => trivial
  | some inserted =>
    obtain ⟨row, after⟩ := inserted
    refine triple_bind_modify _ _ (Drafted env chat rows row.id agent.id) (fun w hw => ?_)
      (triple_pure _ fun _ hw => hw)
    obtain rfl := hw
    obtain ⟨hline, hone⟩ := holds_inserted chat rows w
      { w with db := after.touchChat chat.id (env.nowIso w.clock), opened := w.opened ++ [id] } hs id
      _ _ _ _ _ hfree row after hinsert rfl rfl
    exact ⟨_, _, row, rfl, hline, hone⟩

variable (row : MessageRow) (agentId : JsString)

theorem draft_flush (p : Progress) (status : MessageStatus) (tokenCount : Option ℤ) :
    Leads (Drafted env chat rows row.id agentId) (flushPartial env chat row p status tokenCount)
      (fun p' w => p'.accumulatedContent = p.accumulatedContent ∧ Draft env chat rows row.id
        ⟨chat.id, js "assistant", some agentId, stored p.accumulatedContent, status⟩ w) E := by
  refine triple_bind_read _ fun s hs => triple_bind_modify _ _ (Draft env chat rows row.id
    ⟨chat.id, js "assistant", some agentId, stored p.accumulatedContent, status⟩) (fun w hw => ?_)
    (triple_pure _ fun w hw => ⟨rfl, hw⟩)
  obtain rfl := hw
  obtain ⟨content, old, draft, hid, hline, hkept⟩ := hs
  refine ⟨{ draft with
      status := status, content := stored p.accumulatedContent, tokenCount := tokenCount },
    hid, ?_, kept_write draft hkept status p.accumulatedContent tokenCount ?_⟩
  · obtain ⟨hchat, hrole, hagent, -, -⟩ := Line.mk.inj hline
    unfold lineOf
    dsimp only
    rw [hchat, hrole, hagent]
  · rw [hid]
    rfl

theorem drafted_flush (p : Progress) :
    Leads (Drafted env chat rows row.id agentId)
      (flushPartial env chat row p .streaming p.outputTokens)
      (fun _ => Drafted env chat rows row.id agentId) E :=
  triple_conseq _ (draft_flush chat rows row agentId p _ _) (fun _ h => h)
    (fun _ _ h => ⟨_, _, h.2⟩) fun _ _ h => h

theorem drafted_delta (p : Progress) (delta : JsString) :
    Leads (Drafted env chat rows row.id agentId) (onTextDelta env chat row p delta)
      (fun _ => Drafted env chat rows row.id agentId) E := by
  unfold onTextDelta
  dsimp only
  split_ifs
  · exact drafted_flush chat rows row agentId _
  · refine triple_bind_read _ fun s hs => ?_
    split_ifs
    · exact triple_conseq _ (drafted_flush chat rows row agentId _) (fun w hw => hw ▸ hs)
        (fun _ _ h => h) fun _ _ h => h
    · exact triple_pure _ fun w hw => hw ▸ hs

include hund

theorem drafted_yield (event : SseCompletionEvent) :
    Leads (Drafted env chat rows row.id agentId) (yieldEvent env event)
      (fun _ => Drafted env chat rows row.id agentId) E :=
  drafted_keep chat rows _ _ _ fun rows => holds_yield hund chat rows event

theorem drafted_suspend :
    Leads (Drafted env chat rows row.id agentId) (suspend env)
      (fun _ => Drafted env chat rows row.id agentId) E :=
  drafted_keep chat rows _ _ _ fun rows => holds_suspend hund chat rows

theorem drafted_readStream (ending : Option Failure) (script : List (StreamEvent JsString ℤ))
    (p : Progress) :
    Leads (Drafted env chat rows row.id agentId) (readStream env chat row ending script p)
      (fun _ => Drafted env chat rows row.id agentId) E := by
  induction script generalizing p with
  | nil =>
    exact triple_bind _ _ (drafted_suspend hund chat rows row agentId) fun _ =>
      triple_pure _ fun _ hw => hw
  | cons event rest ih =>
    refine triple_bind _ _ (drafted_suspend hund chat rows row agentId) fun _ => ?_
    rw [isAborted_eq env hund.present, Gen.pure_bind, if_neg Bool.false_ne_true]
    cases event with
    | textDelta delta =>
      exact triple_bind _ _ (drafted_delta chat rows row agentId p delta) fun p' =>
        triple_bind _ _ (drafted_yield hund chat rows row agentId _) fun _ => ih p'
    | thoughtDelta thought =>
      exact triple_bind _ _ (drafted_yield hund chat rows row agentId _) fun _ => ih p
    | usage usage => exact ih { p with reportedUsage := some usage }
    | complete reason usage data => exact ih { p with reportedUsage := usage.or p.reportedUsage }
    | error error => exact triple_pure _ fun _ hw => hw

omit hund in
theorem draft_record (agent : AgentRow ν) (execution : Execution ν)
    (usage : Option (TokenUsage ℤ)) (id : JsString) (line : Line) :
    Leads (Draft env chat rows id line) (recordUsage env chat agent execution usage)
      (fun _ => Draft env chat rows id line) fun _ _ => True := by
  refine triple_bind _ _ (draft_keep chat rows (newId env) id line fun rows => triple_conseq _
    (holds_newId chat rows) (fun _ h => h) (fun _ _ h => h.2) fun _ _ h => h) fun usageId =>
      triple_bind_read _ fun s hs => ?_
  cases hrecord : s.db.insertUsageEvent
      (usageEvent usageId (env.nowIso s.clock) agent.id chat.id execution usage) with
  | none => exact triple_fail _ fun _ _ => trivial
  | some after =>
    refine triple_modify _ fun w hw => ?_
    obtain rfl := hw
    obtain ⟨row, hid, hline, hkept⟩ := hs
    exact ⟨row, hid, hline, kept_later hkept (insertUsageEvent_rows _ _ _ hrecord) le_rfl⟩

def turnedLine (chat : ChatRow) (agentId : JsString) (res : TurnResult) : Line :=
  match res.error with
  | none => repliedLine chat agentId res.content
  | some _ => errorLine chat agentId res.content

theorem turned_finish (prepared : PreparedTurn ν) (p : Progress) (turnError : Option Failure) :
    Leads (Drafted env chat rows row.id agentId) (finishTurn env chat prepared row p turnError)
      (fun res => HoldsOne env chat rows (turnedLine chat agentId res)) fun _ _ => True := by
  unfold finishTurn
  rw [isAborted_eq env hund.present, Gen.pure_bind, if_neg Bool.false_ne_true]
  have hyield : ∀ line event, Leads (Draft env chat rows row.id line) (yieldEvent env event)
      (fun _ => Draft env chat rows row.id line) fun _ _ => True := fun line event =>
    draft_keep chat rows _ _ _ fun rows => holds_yield hund chat rows event
  cases turnError with
  | some failure =>
    refine triple_bind _ _ (draft_flush chat rows row agentId p _ _) fun p' =>
      triple_intro _ fun hcontent => triple_bind _ _ (hyield _ _) fun _ =>
        triple_bind _ _ (hyield _ .done) fun _ => triple_pure _ fun w hw => ?_
    obtain ⟨written, -, hline, hholds⟩ := hw
    exact ⟨written, hcontent ▸ hline, hholds⟩
  | none =>
    refine triple_bind _ _ (draft_flush chat rows row agentId p _ _) fun p' =>
      triple_intro _ fun hcontent => triple_bind _ _ (draft_keep chat rows _ _ _ fun rows =>
        holds_note chat rows _) fun _ => triple_bind _ _ (draft_record chat rows prepared.agent
          prepared.execution _ _ _) fun _ => triple_bind _ _ (hyield _ _) fun _ =>
            triple_pure _ fun w hw => ?_
    obtain ⟨written, -, hline, hholds⟩ := hw
    exact ⟨written, hcontent ▸ hline, hholds⟩

variable (dto : CreateCompletionDto ν) (turn : Turn)

/-- A streaming turn that does not throw adds its reply, or what there is of it as an error. -/
theorem turned_stream :
    Leads (Holds env chat rows) (streamMemberTurn env chat dto turn)
      (fun res => HoldsOne env chat rows (turnedLine chat turn.member.agentId res))
      fun _ _ => True := by
  refine triple_bind _ _ (holds_note chat rows _) fun _ => triple_bind_read _ fun s hs =>
    triple_bind_lift _ _ (fun prepared hprepared => ?_) fun _ _ _ _ => trivial
  have hspeaker := agent_id s.db _ _ (prepareTurn_ok _ _ _ _ _ _ hprepared).1
  refine triple_bind _ _ (triple_conseq _ (draft_pending chat rows prepared.agent)
    (fun _ hw => hw ▸ hs) (fun _ _ h => h) fun _ _ h => h) fun row => ?_
  rw [hspeaker]
  refine triple_bind _ _ (drafted_yield hund chat rows row _ _) fun _ =>
    triple_bind_read _ fun s' hs' => ?_
  refine triple_bind _ _ (triple_conseq _ (drafted_keep chat rows _ row.id turn.member.agentId
    fun rows => holds_note chat rows _) (fun _ hw => hw ▸ hs') (fun _ _ h => h) fun _ _ h => h)
    fun _ => triple_bind_lift _ _ (fun _ _ => ?_) fun _ _ _ _ => trivial
  refine triple_bind _ _ (drafted_keep chat rows _ _ _ fun rows => holds_send chat rows _ _) fun _ =>
    triple_bind _ _ (drafted_readStream hund chat rows row turn.member.agentId _ _ _) fun out => ?_
  exact turned_finish hund chat rows row turn.member.agentId prepared out.1 out.2

def Heard (env : Environment ν) (chat : ChatRow) (dto : CreateCompletionDto ν)
    (turns : List (Turn × JsString)) (w : World ν) : Prop :=
  Answered env chat turns w ∧
    ∃ asked, Spoken env chat dto (Delivers env) turns asked ∧ Asked asked w

/-- A streaming run that the provider has failed at `turn`, after `content`. -/
def Broken (env : Environment ν) (chat : ChatRow) (dto : CreateCompletionDto ν)
    (turns : List (Turn × JsString)) (turn : Turn) (w : World ν) : Prop :=
  ∃ asked prepared content usage failure, Spoken env chat dto (Delivers env) turns asked ∧
    Told env chat dto turn asked prepared ⟨content, usage, some failure⟩ w ∧
    ∃ rows, rows.map lineOf = repliedLines chat turns ∧
      HoldsOne env chat rows (errorLine chat turn.member.agentId content) w

/-- A streaming run that has thrown at `turn`: no stream has failed. -/
def Thrown (env : Environment ν) (chat : ChatRow) (dto : CreateCompletionDto ν)
    (turns : List (Turn × JsString)) (turn : Turn) (w : World ν) : Prop :=
  ∃ told, (told = turns ∨ ∃ content, told = turns ++ [(turn, content)]) ∧
    ∃ asked, Spoken env chat dto (Delivers env) told asked ∧ Asked asked w

theorem heard_turn (turns : List (Turn × JsString)) :
    Leads (Heard env chat dto turns) (streamMemberTurn env chat dto turn)
      (fun res => match res.error with
        | none => Heard env chat dto (turns ++ [(turn, res.content)])
        | some _ => Broken env chat dto turns turn)
      fun _ => Thrown env chat dto turns turn := by
  refine triple_given fun w hw => ?_
  obtain ⟨⟨rows, hrows, hholds⟩, asked, hspoken, hasked⟩ := hw
  have hboth := triple_forget (triple_and _ (turned_stream hund chat rows dto turn)
    (memberTurn_told hund.present chat asked dto turn))
  refine triple_conseq _ hboth (fun _ hw => hw ▸ ⟨hholds, hasked⟩) ?_ ?_
  · rintro ⟨content, usage, error⟩ w ⟨hone, prepared, htold⟩
    cases error with
    | some failure =>
      exact ⟨asked, prepared, content, usage, failure, hspoken, htold, rows, hrows, hone⟩
    | none =>
      obtain ⟨⟨db, hprepared⟩, hdelivered, hrequests, hcalm⟩ := htold
      exact ⟨answered_snoc chat rows turn turns content w hrows hone, _,
        hspoken.snoc hprepared ⟨usage, hdelivered⟩, hrequests, hcalm⟩
  · rintro failure w ⟨-, hasked | ⟨db, prepared, content, hprepared, hdelivers, hasked⟩⟩
    · exact ⟨turns, .inl rfl, asked, hspoken, hasked⟩
    · exact ⟨_, .inr ⟨content, rfl⟩, _, hspoken.snoc hprepared hdelivers, hasked⟩

theorem heard_stream (s : Schedule Turn JsString) :
    Leads (Heard env chat dto []) (perform (streamStep env chat dto) s .zero)
      (fun out w => match out with
        | none => ∃ turns t next, Path s turns (.turn t next) ∧ Broken env chat dto turns t w
        | some _ => ∃ turns, Path s turns .finish ∧ Heard env chat dto turns w)
      fun _ w => ∃ turns t next, Path s turns (.turn t next) ∧ Thrown env chat dto turns t w := by
  have hrun := triple_perform (streamStep env chat dto) s s
    (fun turns _ w => Heard env chat dto turns w) (fun _ _ => True)
    (fun turns t w => Broken env chat dto turns t w) (fun turns t _ w => Thrown env chat dto turns t w)
    [] .zero
    (fun turns t next totals _ => triple_bind _ _ (heard_turn hund chat dto t turns) fun res => ?_)
    (.nil s)
  · refine triple_conseq _ hrun (fun _ hw => hw) (fun out w h => ?_) fun _ _ h => h
    cases out with
    | none => exact h
    | some totals => exact h
  · cases res.error with
    | none => exact triple_pure _ fun w h => h
    | some failure => exact triple_pure _ fun w h => h

theorem heard_final (totals : Totals) (turns : List (Turn × JsString)) :
    Leads (Heard env chat dto turns) (emitUnlessEnded env (some totals))
      (fun _ => Heard env chat dto turns) E := by
  have hyield : ∀ event : SseCompletionEvent, (∀ payload, event ≠ .error payload) →
      Leads (Heard env chat dto turns) (yieldEvent env event) (fun _ => Heard env chat dto turns) E :=
    fun event hevent => triple_given fun w hw => by
      obtain ⟨⟨rows, hrows, hholds⟩, asked, hspoken, hasked⟩ := hw
      have hboth : Leads (fun w => Holds env chat rows w ∧ Asked asked w) (yieldEvent env event)
          (fun _ w => Holds env chat rows w ∧ Asked asked w) fun e w => E e w ∧ E e w :=
        triple_forget (triple_and _ (holds_yield hund chat rows event) (asked_yield event hevent))
      exact triple_conseq _ hboth (fun _ hw => hw ▸ ⟨hholds, hasked⟩)
        (fun _ _ h => ⟨⟨rows, hrows, h.1⟩, asked, hspoken, h.2⟩) fun _ _ h => h.1
  refine triple_bind _ _ ?_ fun _ => hyield .done fun _ h => nomatch h
  cases totals.usage with
  | none => exact triple_pure _ fun _ hw => hw
  | some usage => exact hyield _ fun _ h => nomatch h

end Streamed

section Runs

/-- These lines are all that is left of a run, in the order of their numbers. -/
def Leaves (env : Environment ν) (lines : List Line) (w : World ν) : Prop :=
  (ownRows env w.db).map lineOf = lines ∧
    (ownRows env w.db).Pairwise fun a b => a.sequence < b.sequence

variable {env : Environment ν} (chat : ChatRow) {turns : List (Turn × JsString)} {turn : Turn}
  {w : World ν}

theorem leaves_holds (rows : List MessageRow) (lines : List Line)
    (hlines : rows.map lineOf = lines) (h : Kept env chat rows w.issued w.db) :
    Leaves env lines w := by
  refine ⟨?_, ?_⟩
  · rw [h.own]
    exact hlines
  · rw [h.own]
    exact h.increasing

theorem leaves_answered (h : Answered env chat turns w) :
    Leaves env (repliedLines chat turns) w := by
  obtain ⟨rows, hrows, hkept⟩ := h
  exact leaves_holds chat rows _ hrows hkept

theorem leaves_missed (h : MissedTurn env chat turns turn w) :
    Leaves env (repliedLines chat turns ++
      if turns = [] ∨ ¬Recordable env chat turn.member.agentId w then []
      else [errorLine chat turn.member.agentId (js "Generation failed mid-team turn")]) w := by
  obtain ⟨rows, hrows, hmissed⟩ := h
  unfold Missed at hmissed
  split_ifs at hmissed ⊢
  · rw [List.append_nil]
    exact leaves_holds chat rows _ hrows hmissed
  · obtain ⟨row, hline, hkept⟩ := hmissed
    refine leaves_holds chat (rows ++ [row]) _ ?_ hkept
    rw [List.map_append, hrows, ← hline]
    rfl

variable (dto : CreateCompletionDto ν)

theorem streamStep_unprepared (turn : Turn) (totals : Totals) (w : World ν) (failure : Failure)
    (h : prepareTurn env.toRuntime w.db chat dto turn = .error failure) :
    (streamStep env chat dto turn totals w).result = .error failure ∧
      (streamStep env chat dto turn totals w).final.db = w.db := by
  have hnoted : ((note fun w => Hazard.turn w.clock w.db chat turn : Run ν Unit) w).final.db = w.db := by
    change (if w.emitted = [] then w else _).db = w.db
    split_ifs <;> rfl
  have hturn : (streamMemberTurn env chat dto turn w).result = .error failure ∧
      (streamMemberTurn env chat dto turn w).final.db = w.db := by
    unfold streamMemberTurn
    rw [Gen.bind_ok _ _ w () rfl, Gen.read_bind, Gen.lift_bind, hnoted, h]
    exact ⟨rfl, hnoted⟩
  unfold streamStep
  rw [Gen.bind_error _ _ w failure hturn.1]
  exact ⟨rfl, hturn.2⟩

def CompleteLeaves (env : Environment ν) (chat : ChatRow) (dto : CreateCompletionDto ν)
    (schedule : Schedule Turn JsString)
    (run : Trace (World ν) SseCompletionEvent Failure (List CompletionResponseDto)) : Prop :=
  match run.result with
  | .ok _ => ∃ turns, Path schedule turns .finish ∧
      Spoken env chat dto (Answers env) turns run.final.requests ∧
      Leaves env (repliedLines chat turns) run.final
  | .error _ => ∃ turns asked more turn next, Path schedule turns (.turn turn next) ∧
      Spoken env chat dto (Answers env) turns asked ∧ run.final.requests = asked ++ more ∧
      Leaves env (repliedLines chat turns ++
        if turns = [] ∨ ¬Recordable env chat turn.member.agentId run.final then []
        else [errorLine chat turn.member.agentId (js "Generation failed mid-team turn")]) run.final

def Finished (env : Environment ν) (chat : ChatRow) (dto : CreateCompletionDto ν)
    (schedule : Schedule Turn JsString) (run : Trace (World ν) SseCompletionEvent Failure Unit) :
    Prop :=
  ∃ turns, Path schedule turns .finish ∧ Calm (events run) ∧
    Spoken env chat dto (Delivers env) turns run.final.requests ∧
    Leaves env (repliedLines chat turns) run.final

/-- A streaming run whose last turn was failed by the provider's stream, after `content`: the turn
leaves one line, the first one too, and the run reports the failure last. -/
def BrokenOff (env : Environment ν) (chat : ChatRow) (dto : CreateCompletionDto ν)
    (schedule : Schedule Turn JsString) (run : Trace (World ν) SseCompletionEvent Failure Unit) :
    Prop :=
  ∃ turns asked turn next db prepared content usage failure before,
    Path schedule turns (.turn turn next) ∧ Spoken env chat dto (Delivers env) turns asked ∧
    prepareTurn env.toRuntime db chat dto turn = .ok prepared ∧
    run.final.requests = asked ++ [(prepared.agent.id, prepared.request)] ∧
    delivery (env.stream asked.length prepared.execution.config prepared.request) =
      ⟨content, usage, some failure⟩ ∧
    Calm before ∧
    events run = before ++ [.error (env.errorPayload prepared.execution failure), .done] ∧
    Leaves env (repliedLines chat turns ++ [errorLine chat turn.member.agentId content]) run.final

/-- What a streaming run leaves. One that throws has not been failed by a stream: each of its
requests has been answered whole. -/
def StreamLeaves (env : Environment ν) (chat : ChatRow) (dto : CreateCompletionDto ν)
    (db : Tables ν) (refused : Prop) (schedule : Schedule Turn JsString)
    (run : Trace (World ν) SseCompletionEvent Failure Unit) : Prop :=
  match run.result with
  | .ok _ => Finished env chat dto schedule run ∨ BrokenOff env chat dto schedule run
  | .error _ =>
    (∃ turns turn next told, Path schedule turns (.turn turn next) ∧
      (told = turns ∨ ∃ content, told = turns ++ [(turn, content)]) ∧
      Spoken env chat dto (Delivers env) told run.final.requests ∧ Calm (events run)) ∧
    ((refused ∨ ∃ turn next failure, schedule = .turn turn next ∧
      prepareTurn env.toRuntime db chat dto turn = .error failure) → Leaves env [] run.final)

theorem leaves_nothing (w : World ν) (h : ownRows env w.db = []) : Leaves env [] w := by
  refine ⟨?_, ?_⟩
  · rw [h]
    rfl
  · rw [h]
    exact .nil

theorem answered_start (db : Tables ν) (hfresh : ownRows env db = []) :
    Answered env chat [] (.start db) :=
  ⟨[], rfl, hfresh, fun _ hrow => absurd hrow List.not_mem_nil, List.nodup_nil,
    fun _ hrow => absurd hrow List.not_mem_nil, .nil⟩

theorem asked_start (db : Tables ν) : Asked [] (.start db) := ⟨rfl, fun _ => List.not_mem_nil⟩

variable (hund : Undisturbed env) (db : Tables ν) (hfresh : ownRows env db = [])
  (schedule : Schedule Turn JsString)

include hund hfresh

theorem completeSchedule_leaves :
    CompleteLeaves env chat dto schedule (completeSchedule env chat dto schedule [] (.start db)) := by
  have hrun : Leads (Replied env chat dto []) (completeSchedule env chat dto schedule [])
      (fun _ w => ∃ turns, Path schedule turns .finish ∧ Replied env chat dto turns w)
      fun _ w => ∃ turns t next, Path schedule turns (.turn t next) ∧ Failed env chat dto turns t w :=
    triple_bind _ _ (replied_complete hund chat dto schedule) fun _ => triple_pure _ fun _ h => h
  have hend := (hrun (.start db) ⟨answered_start chat db hfresh, [], .start, asked_start db⟩).2
  unfold CompleteLeaves
  split at hend
  · rename_i replies hresult
    rw [hresult]
    obtain ⟨turns, hpath, hanswered, asked, hspoken, hasked⟩ := hend
    exact ⟨turns, hpath, hasked.requests ▸ hspoken, leaves_answered chat hanswered⟩
  · rename_i failure hresult
    rw [hresult]
    obtain ⟨turns, t, next, hpath, hmissed, asked, more, hspoken, hasked⟩ := hend
    exact ⟨turns, asked, more, t, next, hpath, hspoken, hasked.requests, leaves_missed chat hmissed⟩

theorem streamSchedule_leaves (refused : Prop) (hrefused : ¬refused)
    (run : Trace (World ν) SseCompletionEvent Failure Unit)
    (hrun : run = (do
      let totals ← perform (streamStep env chat dto) schedule .zero
      emitUnlessEnded env totals : Run ν Unit) (.start db))
    (hlogs : run.final.emitted = events run) :
    StreamLeaves env chat dto db refused schedule run := by
  have hleads : Leads (Heard env chat dto []) (do
      let totals ← perform (streamStep env chat dto) schedule .zero
      emitUnlessEnded env totals : Run ν Unit)
      (fun _ w => (∃ turns, Path schedule turns .finish ∧ Heard env chat dto turns w) ∨
        ∃ turns t next, Path schedule turns (.turn t next) ∧ Broken env chat dto turns t w)
      fun _ w => ∃ turns t next, Path schedule turns (.turn t next) ∧
        Thrown env chat dto turns t w := by
    refine triple_bind _ _ (heard_stream hund chat dto schedule) fun out => ?_
    cases out with
    | none => exact triple_pure _ fun w h => .inr h
    | some totals =>
      refine triple_given fun w hw => ?_
      obtain ⟨turns, hpath, hheard⟩ := hw
      exact triple_conseq _ (heard_final hund chat dto totals turns) (fun _ hw => hw ▸ hheard)
        (fun _ _ h => .inl ⟨turns, hpath, h⟩) fun _ _ h => h
  have hend := (hleads (.start db) ⟨answered_start chat db hfresh, [], .start, asked_start db⟩).2
  rw [← hrun] at hend
  unfold StreamLeaves
  cases hresult : run.result with
  | ok u =>
    rw [hresult] at hend
    dsimp only
    rcases hend with ⟨turns, hpath, hanswered, asked, hspoken, hasked⟩ |
      ⟨turns, t, next, hpath, asked, prepared, content, usage, failure, hspoken, htold, rows, hrows,
        row, hline, hkept⟩
    · exact .inl ⟨turns, hpath, hlogs ▸ hasked.calm, hasked.requests ▸ hspoken,
        leaves_answered chat hanswered⟩
    · obtain ⟨db', hprepared⟩ := htold.ready
      obtain ⟨before, hcalm, hevents⟩ := htold.concluded
      refine .inr ⟨turns, asked, t, next, db', prepared, content, usage, failure, before, hpath,
        hspoken, hprepared, htold.requests, htold.delivered, hcalm, hlogs ▸ hevents, ?_⟩
      refine leaves_holds chat (rows ++ [row]) _ ?_ hkept
      rw [List.map_append, hrows, ← hline]
      rfl
  | error failure =>
    rw [hresult] at hend
    dsimp only
    obtain ⟨turns, t, next, hpath, told, htold, asked, hspoken, hasked⟩ := hend
    refine ⟨⟨turns, t, next, told, hpath, htold, hasked.requests ▸ hspoken, hlogs ▸ hasked.calm⟩, ?_⟩
    rintro (hrefuses | ⟨t, next, failure', rfl, hprepare⟩)
    · exact absurd hrefuses hrefused
    · obtain ⟨hfailed, hdb⟩ := streamStep_unprepared chat dto t .zero (.start db) failure' hprepare
      refine leaves_nothing _ ?_
      rw [hrun]
      unfold perform
      rw [Gen.bind_assoc, Gen.bind_error _ _ _ _ hfailed]
      dsimp only
      rw [hdb]
      exact hfresh

omit dto in
/-- A run leaves the rows of the turns before the failing one, and that one's. -/
theorem team_failures (dto : CreateCompletionDto ν) (teamId : JsString) (first : TeamMember)
    (rest : List TeamMember) (hmembers : getActiveTeamMembers db teamId = first :: rest) :
    let schedule := teamSchedule env.toLowerCase (db.team teamId)
      (effectiveStrategy dto (db.team teamId)) (db.maxSequence chat.id) first rest
      (boundedMaxTurns dto (db.team teamId))
    CompleteLeaves env chat dto schedule (completeTeamChat env chat dto teamId (.start db)) ∧
      StreamLeaves env chat dto db (refusal env dto (.start db) teamId true ≠ none) schedule
        (streamTeamChat env chat dto teamId (.start db)) := by
  intro schedule
  have hturn : ∃ t next, schedule = .turn t next :=
    team_opens env.toLowerCase (db.team teamId) (effectiveStrategy dto (db.team teamId))
      (db.maxSequence chat.id) first rest (boundedMaxTurns dto (db.team teamId))
      (boundedMaxTurns_pos dto (db.team teamId))
  constructor
  · cases hrefusal : refusal env dto (.start db) teamId false with
    | some failure =>
      rw [completeTeamChat_refused env chat dto teamId _ failure hrefusal]
      obtain ⟨t, next, hopens⟩ := hturn
      rw [hopens]
      refine ⟨[], [], [], t, next, .nil _, .start, rfl, ?_⟩
      rw [if_pos (.inl rfl)]
      exact leaves_nothing _ hfresh
    | none =>
      obtain ⟨_, _, hsame, hvalid⟩ := refusal_none env dto _ _ _ hrefusal
      obtain ⟨rfl, rfl⟩ := List.cons.inj (hmembers.symm.trans hsame)
      rw [completeTeamChat_eq env chat dto hund.present teamId (.start db) first rest hmembers hvalid]
      exact completeSchedule_leaves chat dto hund db hfresh schedule
  · have hlogs := (@StreamRecord.logs_streamTeamChat _ env chat dto teamId).emitted (.start db)
    cases hrefusal : refusal env dto (.start db) teamId true with
    | some failure =>
      rw [streamTeamChat_refused env chat dto hund.present teamId _ failure hrefusal]
      obtain ⟨t, next, hopens⟩ := hturn
      exact ⟨⟨[], t, next, [], hopens ▸ .nil _, .inl rfl, .start, fun _ => List.not_mem_nil⟩,
        fun _ => leaves_nothing _ hfresh⟩
    | none =>
      obtain ⟨_, _, hsame, hvalid⟩ := refusal_none env dto _ _ _ hrefusal
      obtain ⟨rfl, rfl⟩ := List.cons.inj (hmembers.symm.trans hsame)
      exact streamSchedule_leaves chat dto hund db hfresh schedule _ (fun h => h rfl) _
        (streamTeamChat_eq env chat dto hund.present teamId (.start db) first rest hmembers hvalid)
        hlogs

end Runs

section Sample

def rateLimited : Failure := .thrown (js "Error") (js "rate limited")

/-- A provider that answers as long as there are few messages and else fails within its reply. -/
def tiringEnvironment (limit : ℕ) : Environment ℤ :=
  .alone sampleRuntime
    (fun _ request =>
      if request.messages.length ≤ limit then .ok ⟨js "hello", none⟩ else .error rateLimited)
    fun _ request =>
      if request.messages.length ≤ limit then ⟨[.textDelta (js "hello"), .complete .stop none none], none⟩
      else ⟨[.textDelta (js "hel")], some rateLimited⟩

theorem tiringEnvironment_fresh (limit : ℕ) (strategy : TeamStrategy) :
    ownRows (tiringEnvironment limit) (sampleTables strategy) = [] := by
  refine List.filter_eq_nil_iff.mpr fun row hrow hown => ?_
  obtain ⟨n, hid⟩ := of_decide_eq_true hown
  exact sampleTables_fresh strategy (fun _ => []) none row hrow n hid

def teamChat : ChatRow := ⟨js "d", none, some (js "t"), none, none, []⟩

theorem team_failures_second :
    let env := tiringEnvironment 1
    let db := sampleTables .sequential
    let schedule := teamSchedule env.toLowerCase (db.team (js "t")) .sequential 1
      ⟨js "Ann", none, some 0, js "Ann", false⟩ [⟨js "Bob", none, some 1, js "Bob", false⟩] 5
    CompleteLeaves env teamChat plainDto schedule
        (completeTeamChat env teamChat plainDto (js "t") (.start db)) ∧
      StreamLeaves env teamChat plainDto db (refusal env plainDto (.start db) (js "t") true ≠ none)
        schedule (streamTeamChat env teamChat plainDto (js "t") (.start db)) :=
  team_failures teamChat ⟨fun _ => rfl, fun _ _ => rfl⟩ (sampleTables .sequential)
    (tiringEnvironment_fresh 1 .sequential) plainDto (js "t") _ _ rfl

def departingEnvironment : Environment ℤ :=
  { tiringEnvironment 2 with
    others := fun _ db => (db.deleteAgent (js "Bob")).getD db
    others_keep := fun moment db n row hrow hid hflight => by
      unfold Tables.deleteAgent at hrow
      split_ifs at hrow
      · exact ⟨row, hrow, hid, hflight⟩
      · obtain ⟨old, hold, rfl⟩ := List.mem_map.mp hrow
        exact ⟨old, hold, hid, hflight⟩ }

/-- A streaming run whose first turn fails leaves a row, and a run whose second turn cannot find its
agent leaves none for it. -/
theorem failures_differ :
    ((streamTeamChat (tiringEnvironment 0) teamChat plainDto (js "t")
        (.start (sampleTables .sequential))).final.db.messages.drop 2).map lineOf =
      [errorLine teamChat (js "Ann") (js "hel")] ∧
    ((completeTeamChat departingEnvironment teamChat plainDto (js "t")
        (.start (sampleTables .sequential))).final.db.messages.drop 2).map lineOf =
      [repliedLine teamChat (js "Ann") (js "hello")] := by
  decide +kernel

end Sample

end Glassbeetle.TeamFailures
