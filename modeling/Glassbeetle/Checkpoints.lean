import Glassbeetle.QuietRuns
import Glassbeetle.StreamRecord
import Glassbeetle.StreamFinalisation

set_option autoImplicit false

/-!
# The row of a reply while it is streamed

What has been written of a reply keeps up with what has been yielded of it,
whatever the client, the clock and the provider do.
-/
namespace Glassbeetle.Checkpoints
open JsText Utf8Text AdapterTypes Database ExecutionChain AsyncGenerator Inference SingleAgentChat
  MemberTurns Completions QuietRuns StreamFinalisation StreamRecord

section Events

def tokenText : SseCompletionEvent → Option JsString
  | .token _ text => some text
  | _ => none

def tokenTexts (own : List SseCompletionEvent) : List JsString := own.filterMap tokenText

def said (own : List SseCompletionEvent) : JsString := (tokenTexts own).flatten

def textDelta : StreamEvent JsString ℤ → Option JsString
  | .textDelta delta => some delta
  | _ => none

def textDeltas (events : List (StreamEvent JsString ℤ)) : List JsString := events.filterMap textDelta

def verdict : SseCompletionEvent → Option MessageStatus
  | .usage .. | .messageComplete .. => some .complete
  | .error .. => some .error
  | _ => none

def standing (own : List SseCompletionEvent) : MessageStatus :=
  (own.findSome? verdict).getD (if tokenTexts own = [] then .pending else .streaming)

/-- Along pending, streaming and then one of the others. -/
def Forward (before after : MessageStatus) : Prop :=
  before = after ∨ before = .pending ∨ before = .streaming ∧ after.inFlight = false

theorem forward_trans (a b c : MessageStatus) (hab : Forward a b) (hbc : Forward b c) :
    Forward a c := by
  rcases hab with rfl | rfl | ⟨rfl, hb⟩
  · exact hbc
  · exact .inr (.inl rfl)
  · rcases hbc with rfl | rfl | ⟨rfl, -⟩
    · exact .inr (.inr ⟨rfl, hb⟩)
    · cases hb
    · cases hb

theorem verdict_ended (event : SseCompletionEvent) (status : MessageStatus)
    (h : verdict event = some status) : status.inFlight = false := by
  cases event with
  | usage usage => cases h; rfl
  | messageComplete id count usage => cases h; rfl
  | error payload => cases h; rfl
  | messageStart id chatId sequence agentId name => cases h
  | token id text => cases h
  | thought id text => cases h
  | done => cases h

theorem verdict_underWay (event : SseCompletionEvent) (h : underWay event = true) :
    verdict event = none := by
  cases event with
  | usage usage => cases h
  | messageComplete id count usage => cases h
  | error payload => cases h
  | _ => rfl

variable (own more : List SseCompletionEvent)

theorem tokenTexts_append : tokenTexts (own ++ more) = tokenTexts own ++ tokenTexts more :=
  List.filterMap_append

theorem said_append : said (own ++ more) = said own ++ said more := by
  unfold said
  rw [tokenTexts_append, List.flatten_append]

theorem standing_underWay (h : ∀ event ∈ own, underWay event = true) :
    standing own = if tokenTexts own = [] then .pending else .streaming := by
  unfold standing
  rw [List.findSome?_eq_none_iff.mpr fun event hevent => verdict_underWay event (h event hevent)]
  rfl

theorem standing_forward_ended (h : ∀ event ∈ own, underWay event = true) (status : MessageStatus)
    (hstatus : status.inFlight = false) : Forward (standing own) status := by
  rw [standing_underWay own h]
  split_ifs
  · exact .inr (.inl rfl)
  · exact .inr (.inr ⟨rfl, hstatus⟩)

theorem standing_concat (h : ∀ event ∈ own, underWay event = true) (event : SseCompletionEvent)
    (status : MessageStatus) (hevent : verdict event = some status) :
    standing (own ++ event :: more) = status := by
  have hnone := List.findSome?_eq_none_iff.mpr fun event hevent =>
    verdict_underWay event (h event hevent)
  unfold standing
  rw [List.findSome?_append, hnone, List.findSome?_cons, hevent]
  rfl

theorem standing_forward : Forward (standing own) (standing (own ++ more)) := by
  unfold standing
  rw [List.findSome?_append]
  cases hown : own.findSome? verdict with
  | some status => exact .inl rfl
  | none =>
    dsimp only [Option.none_or, Option.getD_none]
    by_cases htokens : tokenTexts own = []
    · rw [if_pos htokens]
      exact .inr (.inl rfl)
    · rw [if_neg htokens]
      cases hmore : more.findSome? verdict with
      | some status =>
        obtain ⟨event, -, hverdict⟩ := List.exists_of_findSome?_eq_some hmore
        exact .inr (.inr ⟨rfl, verdict_ended event status hverdict⟩)
      | none =>
        rw [tokenTexts_append, if_neg fun h => htokens (List.append_eq_nil_iff.mp h).1]
        exact .inl rfl

end Events

section Rows

variable {ν : Type} (env : Environment ν)

/-- Others may delete a row of the run, and change nothing of what it says. -/
def LeftAlone : Prop :=
  ∀ moment db n, ∀ row ∈ (env.others moment db).messages, row.id = env.newId n →
    ∃ old ∈ db.messages, old.id = row.id ∧ old.status = row.status ∧ old.content = row.content

/-- Nobody deletes a row of the run either. -/
def RowsKept : Prop :=
  ∀ moment db n, (∃ row ∈ db.messages, row.id = env.newId n) →
    ∃ row ∈ (env.others moment db).messages, row.id = env.newId n

variable (w₀ : World ν)

/-- What the row of a turn that began in `w₀` has been given, and what the turn has yielded and sent
by a moment of the run. -/
structure Stands (sent moment : ℕ) (status : MessageStatus) (content : JsString)
    (own : List SseCompletionEvent) (w : World ν) : Prop where
  held : ∀ row ∈ w.db.messages, row.id = env.newId w₀.issued →
    row.status = status ∧ row.content = stored content
  present : RowsKept env → ∃ row ∈ w.db.messages, row.id = env.newId w₀.issued
  emitted : w.emitted = w₀.emitted ++ own
  requests : w.requests.length = w₀.requests.length + sent
  clock : w.clock = moment

def Received (own : List SseCompletionEvent) : Prop :=
  ∃ config request,
    tokenTexts own <+: textDeltas (env.stream w₀.requests.length config request).events

structure Tallies (own : List SseCompletionEvent) (status : MessageStatus) (content : JsString) :
    Prop where
  kept : content <+: said own
  close : (said own).length < content.length + 200
  status : status = standing own

/-- The row holds what the database makes of a text that `G` admits. -/
def AtCheckpoint (G : JsString → Prop) (_ : SseCompletionEvent) (w : World ν) : Prop :=
  ∃ own, w.emitted = w₀.emitted ++ own ∧ Received env w₀ own ∧
    ∀ row ∈ w.db.messages, row.id = env.newId w₀.issued →
      ∃ content, row.content = stored content ∧ G content ∧ Tallies own row.status content

variable {env w₀} {sent moment : ℕ} {status : MessageStatus} {content : JsString}
  {own : List SseCompletionEvent} {E : Failure → World ν → Prop} {G : JsString → Prop}
  {Y : SseCompletionEvent → World ν → Prop} (hleft : LeftAlone env)

include hleft in
theorem stands_suspend : Triple (Stands env w₀ sent moment status content own) (suspend env) Y
    (fun _ => Stands env w₀ sent (moment + 1) status content own) E := by
  refine triple_modify _ fun w hw =>
    ⟨fun row hrow hid => ?_, fun hkept => ?_, hw.emitted, hw.requests, congrArg _ hw.clock⟩
  · obtain ⟨old, hold, holdId, hstatus, hcontent⟩ := hleft w.clock w.db _ row hrow hid
    rw [← hstatus, ← hcontent]
    exact hw.held old hold (holdId.trans hid)
  · exact hkept w.clock w.db _ (hw.present hkept)

include hleft in
theorem stands_yield (event : SseCompletionEvent) (hreceived : Received env w₀ (own ++ [event]))
    (hcontent : G content) (htallies : Tallies (own ++ [event]) status content) :
    Triple (Stands env w₀ sent moment status content own) (yieldEvent env event)
      (AtCheckpoint env w₀ G)
      (fun _ => Stands env w₀ sent (moment + 1) status content (own ++ [event])) E := by
  refine triple_bind_modify _ _ (Stands env w₀ sent moment status content (own ++ [event]))
    (fun w hw => ⟨hw.held, hw.present, ?_, hw.requests, hw.clock⟩)
    (triple_bind_emit event _ (fun w hw => ⟨_, hw.emitted, hreceived, fun row hrow hid => ?_⟩)
      (stands_suspend hleft))
  · change w.emitted ++ [event] = _
    rw [hw.emitted, List.append_assoc]
  · obtain ⟨hstatus, hstored⟩ := hw.held row hrow hid
    rw [hstatus]
    exact ⟨content, hstored, hcontent, htallies⟩

theorem stands_aborted : Triple (Stands env w₀ sent moment status content own) (isAborted env) Y
    (fun aborted w => aborted = env.aborted moment ∧
      Stands env w₀ sent moment status content own w) E :=
  triple_bind_read _ fun _ hw => triple_pure _ (by rintro _ rfl; exact ⟨by rw [hw.clock], hw⟩)

theorem stands_note (hazard : World ν → Hazard ν) :
    Triple (Stands env w₀ sent moment status content own) (note hazard) Y
      (fun _ => Stands env w₀ sent moment status content own) E := by
  refine triple_modify _ fun w hw => ?_
  split_ifs
  · exact hw
  · exact ⟨hw.held, hw.present, hw.emitted, hw.requests, hw.clock⟩

theorem stands_send (agentId : JsString) (request : CompletionRequest ν) :
    Triple (Stands env w₀ sent moment status content own) (send agentId request) Y
      (fun _ => Stands env w₀ (sent + 1) moment status content own) E := by
  refine triple_modify _ fun w hw => ⟨hw.held, hw.present, hw.emitted, ?_, hw.clock⟩
  change (w.requests ++ [(agentId, request)]).length = _
  rw [List.length_append, hw.requests]
  rfl

theorem stands_write (w : World ν) (newStatus : MessageStatus) (newContent chatId now : JsString)
    (tokenCount : Option ℤ) (hw : Stands env w₀ sent moment status content own w) :
    Stands env w₀ sent moment newStatus newContent own
      { w with db := (w.db.writeMessage (env.newId w₀.issued) newStatus newContent
          tokenCount).touchChat chatId now } := by
  refine ⟨fun row hrow hid => ?_, fun hkept => ?_, hw.emitted, hw.requests, hw.clock⟩
  · obtain ⟨old, -, rfl⟩ := List.mem_map.mp hrow
    rw [writeRow_id] at hid
    unfold writeRow
    rw [if_pos hid]
    exact ⟨rfl, rfl⟩
  · obtain ⟨row, hrow, hid⟩ := hw.present hkept
    exact ⟨_, List.mem_map_of_mem hrow, (writeRow_id ..).trans hid⟩

def flushed (env : Environment ν) (moment : ℕ) (p : Progress) (newStatus : MessageStatus) :
    Progress :=
  { p with
    lastFlushedLength := p.accumulatedContent.length
    lastFlushTime := env.now moment
    currentStatus := newStatus }

theorem stands_flush (chat : ChatRow) (row : MessageRow) (p : Progress)
    (newStatus : MessageStatus) (tokenCount : Option ℤ) (hrow : row.id = env.newId w₀.issued) :
    Triple (Stands env w₀ sent moment status content own)
      (flushPartial env chat row p newStatus tokenCount) Y
      (fun p' w => p' = flushed env moment p newStatus ∧
        Stands env w₀ sent moment newStatus p.accumulatedContent own w) E := by
  refine triple_bind_read _ fun s hs => triple_bind_modify _ _
    (Stands env w₀ sent moment newStatus p.accumulatedContent own) ?_
    (triple_pure _ fun w hw => ⟨by rw [flushed, hs.clock], hw⟩)
  rintro w rfl
  rw [hrow]
  exact stands_write w _ _ _ _ _ hs

theorem stands_newId : Triple (Stands env w₀ sent moment status content own) (newId env) Y
    (fun _ => Stands env w₀ sent moment status content own) E :=
  triple_bind_read _ fun _ hs => triple_bind_modify _ _ (Stands env w₀ sent moment status content own)
    (by rintro _ rfl; exact ⟨hs.held, hs.present, hs.emitted, hs.requests, hs.clock⟩)
    (triple_pure _ fun _ hw => hw)

theorem stands_recordUsage (chat : ChatRow) (agent : AgentRow ν) (execution : Execution ν)
    (usage : Option (TokenUsage ℤ)) :
    Triple (Stands env w₀ sent moment status content own) (recordUsage env chat agent execution usage)
      Y (fun _ => Stands env w₀ sent moment status content own)
      (fun failure w => failure = foreignKeyFailed ∧
        Stands env w₀ sent moment status content own w) := by
  refine triple_bind _ _ stands_newId fun id => triple_bind_read _ fun w hw => ?_
  split
  · exact triple_fail _ (by rintro _ rfl; exact ⟨rfl, hw⟩)
  · rename_i db h
    refine triple_modify _ ?_
    rintro w rfl
    have hmessages : db.messages = w.db.messages := insertUsageEvent_rows _ _ _ h
    refine ⟨fun row hrow => ?_, fun hkept => ?_, hw.emitted, hw.requests, hw.clock⟩
    · change row ∈ db.messages at hrow
      rw [hmessages] at hrow
      exact hw.held row hrow
    · change ∃ row ∈ db.messages, _
      rw [hmessages]
      exact hw.present hkept

structure Begun (w₀ w : World ν) : Prop where
  db : w.db = w₀.db
  clock : w.clock = w₀.clock
  issued : w.issued = w₀.issued
  emitted : w.emitted = w₀.emitted
  requests : w.requests = w₀.requests

structure Unopened (env : Environment ν) (w₀ w : World ν) : Prop where
  emitted : w.emitted = w₀.emitted
  rows : ∀ row ∈ w.db.messages, row.id ≠ env.newId w₀.issued

structure Insertable (env : Environment ν) (w₀ : World ν) (chat : ChatRow) (agent : AgentRow ν) :
    Prop where
  works : env.storageFails w₀.clock = false
  inserted : (w₀.db.insertMessage (env.newId w₀.issued) chat.id agent.id [] .pending none
    (env.nowIso w₀.clock)).isSome

def Fresh (env : Environment ν) (w₀ : World ν) : Prop :=
  ∀ row ∈ w₀.db.messages, row.id ≠ env.newId w₀.issued

theorem unopened_begun (hfresh : Fresh env w₀) (w : World ν) (hw : Begun w₀ w) :
    Unopened env w₀ w := by
  refine ⟨hw.emitted, ?_⟩
  rw [hw.db]
  exact hfresh

theorem stands_create (hfresh : Fresh env w₀) (chat : ChatRow) (agent : AgentRow ν) :
    Triple (Begun w₀) (createPendingMessageRow env chat agent) Y
      (fun row w => row.id = env.newId w₀.issued ∧ Insertable env w₀ chat agent ∧
        Stands env w₀ 0 w₀.clock .pending [] [] w)
      (fun _ w => ¬Insertable env w₀ chat agent ∧ Unopened env w₀ w) := by
  have hnew : Triple (Begun w₀) (newId env) Y
      (fun id w => id = env.newId w₀.issued ∧ w.db = w₀.db ∧ w.clock = w₀.clock ∧
        w.emitted = w₀.emitted ∧ w.requests = w₀.requests)
      (fun _ w => ¬Insertable env w₀ chat agent ∧ Unopened env w₀ w) := by
    refine triple_bind_read _ fun s hs => triple_bind_modify _ _
      (fun w => w.db = w₀.db ∧ w.clock = w₀.clock ∧ w.emitted = w₀.emitted ∧
        w.requests = w₀.requests) ?_ (triple_pure _ fun w hw => ⟨by rw [hs.issued], hw⟩)
    rintro w rfl
    exact ⟨hs.db, hs.clock, hs.emitted, hs.requests⟩
  refine triple_bind _ _ hnew fun id => triple_intro _ fun hid => triple_bind_read _ fun s hs => ?_
  subst hid
  obtain ⟨hdb, hclock, hemitted, hrequests⟩ := hs
  have hnothing : Unopened env w₀ s := ⟨hemitted, by rw [hdb]; exact hfresh⟩
  dsimp only
  rw [hdb, hclock]
  split_ifs with hfails
  · refine triple_fail _ ?_
    rintro w rfl
    exact ⟨fun h => absurd (h.works.symm.trans hfails) Bool.false_ne_true, hnothing⟩
  · split
    · rename_i hnone
      refine triple_fail _ ?_
      rintro w rfl
      exact ⟨fun h => absurd h.inserted (by rw [hnone]; exact Bool.false_ne_true), hnothing⟩
    · rename_i row db hsome
      obtain ⟨hrow, rfl⟩ := insertMessage_some _ _ _ _ _ _ _ _ _ _ hsome
      have hinsertable : Insertable env w₀ chat agent :=
        ⟨Bool.eq_false_of_not_eq_true hfails, by rw [hsome]; rfl⟩
      refine triple_bind_modify _ _ (Stands env w₀ 0 w₀.clock .pending [] []) ?_
        (triple_pure _ fun w hw => ⟨by rw [hrow], hinsertable, hw⟩)
      rintro w rfl
      refine ⟨fun other hother hid => ?_, fun _ => ⟨row, ?_, by rw [hrow]⟩, ?_, ?_, hclock⟩
      · rcases List.mem_append.mp hother with hother | hother
        · exact absurd hid (hfresh other hother)
        · rw [List.mem_singleton.mp hother, hrow]
          exact ⟨rfl, rfl⟩
      · exact List.mem_append_right _ (List.mem_singleton_self row)
      · exact hemitted.trans (List.append_nil _).symm
      · exact congrArg List.length hrequests

end Rows

section Deltas

structure Tracks (deltas : List JsString) (own : List SseCompletionEvent) (p : Progress) :
    Prop where
  underWay : ∀ event ∈ own, underWay event = true
  content : said own = p.accumulatedContent
  status : standing own = p.currentStatus
  flushed : p.lastFlushedLength ≤ p.accumulatedContent.length
  close : p.accumulatedContent.length < p.lastFlushedLength + 200
  received : tokenTexts own <+: deltas

def absorb {ν : Type} (env : Environment ν) (moment : ℕ) (p : Progress) (delta : JsString) :
    Progress :=
  let p := { p with accumulatedContent := p.accumulatedContent ++ delta }
  if p.currentStatus = .pending ∨ p.lastFlushedLength + 200 ≤ p.accumulatedContent.length ∨
      500 ≤ env.now moment - p.lastFlushTime then flushed env moment p .streaming
  else p

structure Advanced (p p' : Progress) (delta : JsString) : Prop where
  content : p'.accumulatedContent = p.accumulatedContent ++ delta
  status : p'.currentStatus = .streaming
  usage : p'.reportedUsage = p.reportedUsage
  flushed : p'.lastFlushedLength ≤ p'.accumulatedContent.length
  close : p'.accumulatedContent.length < p'.lastFlushedLength + 200

def flushedContent (p : Progress) : JsString := p.accumulatedContent.take p.lastFlushedLength

variable {deltas : List JsString} {own : List SseCompletionEvent} {p p' : Progress}

theorem tracks_tallies (h : Tracks deltas own p) :
    Tallies own p.currentStatus (flushedContent p) := by
  refine ⟨?_, ?_, h.status.symm⟩
  · rw [h.content]
    exact List.take_prefix _ _
  · have hflushed := h.flushed
    have hclose := h.close
    unfold flushedContent
    rw [h.content, List.length_take]
    omega

theorem tracks_pending (h : Tracks deltas own p) :
    p.currentStatus = .pending ∨ p.currentStatus = .streaming := by
  rw [← h.status, standing_underWay own h.underWay]
  split_ifs
  · exact .inl rfl
  · exact .inr rfl

theorem absorb_advanced {ν : Type} (env : Environment ν) (moment : ℕ) (delta : JsString)
    (h : Tracks deltas own p) : Advanced p (absorb env moment p delta) delta := by
  have hbefore := h.flushed
  unfold absorb
  dsimp only
  split_ifs with hdue
  · refine ⟨rfl, rfl, rfl, Nat.le_refl _, ?_⟩
    change (p.accumulatedContent ++ delta).length < (p.accumulatedContent ++ delta).length + 200
    omega
  · rw [not_or, not_or] at hdue
    have hstreaming := (tracks_pending h).resolve_left hdue.1
    refine ⟨rfl, hstreaming, rfl, ?_, ?_⟩
    · change p.lastFlushedLength ≤ (p.accumulatedContent ++ delta).length
      rw [List.length_append]
      omega
    · change (p.accumulatedContent ++ delta).length < p.lastFlushedLength + 200
      omega

theorem underWay_concat (event : SseCompletionEvent) (h : ∀ event ∈ own, underWay event = true)
    (hevent : underWay event = true) : ∀ e ∈ own ++ [event], underWay e = true := by
  intro e he
  rcases List.mem_append.mp he with he | he
  · exact h e he
  · rw [List.mem_singleton.mp he]
    exact hevent

theorem tracks_textless (event : SseCompletionEvent) (h : Tracks deltas own p)
    (hevent : underWay event = true) (htext : tokenText event = none) :
    Tracks deltas (own ++ [event]) p := by
  have hunderWay := underWay_concat event h.underWay hevent
  have htokens : tokenTexts (own ++ [event]) = tokenTexts own := by
    rw [tokenTexts_append]
    unfold tokenTexts
    rw [List.filterMap_cons_none htext, List.filterMap_nil, List.append_nil]
  refine ⟨hunderWay, ?_, ?_, h.flushed, h.close, ?_⟩
  · unfold said
    rw [htokens]
    exact h.content
  · rw [standing_underWay _ hunderWay, htokens, ← standing_underWay _ h.underWay]
    exact h.status
  · rw [htokens]
    exact h.received

theorem tracks_token (id delta : JsString) (rest : List JsString) (h : Tracks deltas own p)
    (hadvanced : Advanced p p' delta) (hdeltas : tokenTexts own ++ delta :: rest = deltas) :
    Tracks deltas (own ++ [.token id delta]) p' := by
  have hunderWay := underWay_concat (.token id delta) h.underWay rfl
  have htokens : tokenTexts (own ++ [.token id delta]) = tokenTexts own ++ [delta] :=
    tokenTexts_append own _
  refine ⟨hunderWay, ?_, ?_, hadvanced.flushed, hadvanced.close, rest, ?_⟩
  · unfold said
    rw [htokens, List.flatten_append, hadvanced.content, ← h.content, List.flatten_singleton]
    rfl
  · rw [standing_underWay _ hunderWay, htokens, if_neg (List.append_ne_nil_of_right_ne_nil _
      (List.cons_ne_nil _ _)), hadvanced.status]
  · rw [htokens, List.append_assoc]
    exact hdeltas

end Deltas

section Replays

variable {ν : Type} (env : Environment ν)

/-- What reading a stream comes to: the texts that its deltas leave in the row, and what it ends
with. -/
structure Replay where
  texts : List JsString
  moment : ℕ
  progress : Progress
  failure : Option Failure

def replay (ending : Option Failure) : List (StreamEvent JsString ℤ) → ℕ → Progress → Replay
  | [], moment, p => ⟨[], moment + 1, p, ending⟩
  | event :: rest, moment, p =>
    if env.aborted (moment + 1) then ⟨[], moment + 1, p, none⟩
    else match event with
      | .textDelta delta =>
        let p := absorb env (moment + 1) p delta
        let r := replay ending rest (moment + 2) p
        { r with texts := flushedContent p :: r.texts }
      | .thoughtDelta _ => replay ending rest (moment + 2) p
      | .usage usage => replay ending rest (moment + 1) { p with reportedUsage := some usage }
      | .complete _ usage _ =>
        replay ending rest (moment + 1) { p with reportedUsage := usage.or p.reportedUsage }
      | .error error => ⟨[], moment + 1, p, some (.adapter error)⟩

def Replay.written (r : Replay) : List JsString :=
  r.texts ++ if env.aborted r.moment then [] else [r.progress.accumulatedContent]

theorem absorb_content (moment : ℕ) (p : Progress) (delta : JsString) :
    (absorb env moment p delta).accumulatedContent = p.accumulatedContent ++ delta := by
  unfold absorb
  dsimp only
  split_ifs <;> rfl

theorem absorb_usage (moment : ℕ) (p : Progress) (delta : JsString) :
    (absorb env moment p delta).reportedUsage = p.reportedUsage := by
  unfold absorb
  dsimp only
  split_ifs <;> rfl

theorem replay_delivery (ending : Option Failure) (script : List (StreamEvent JsString ℤ))
    (moment : ℕ) (p : Progress) :
    env.aborted (replay env ending script moment p).moment = true ∨
      (⟨(replay env ending script moment p).progress.accumulatedContent,
          (replay env ending script moment p).progress.reportedUsage,
          (replay env ending script moment p).failure⟩ : Delivery) =
        deliver ending script p.accumulatedContent p.reportedUsage := by
  induction script generalizing moment p with
  | nil => exact .inr rfl
  | cons event rest ih =>
    rw [replay.eq_def]
    dsimp only
    split_ifs with haborted
    · exact .inl haborted
    · cases event with
      | textDelta delta =>
        have hrest := ih (moment + 2) (absorb env (moment + 1) p delta)
        rw [absorb_content, absorb_usage] at hrest
        exact hrest
      | thoughtDelta thought => exact ih (moment + 2) p
      | usage usage => exact ih (moment + 1) { p with reportedUsage := some usage }
      | complete reason usage data =>
        exact ih (moment + 1) { p with reportedUsage := usage.or p.reportedUsage }
      | error error => exact .inr rfl

end Replays

section Streams

variable {ν : Type} {env : Environment ν} {w₀ : World ν} {sent : ℕ}
  {own : List SseCompletionEvent} {E : Failure → World ν → Prop} {G : JsString → Prop}
  {Y : SseCompletionEvent → World ν → Prop} (hleft : LeftAlone env) (chat : ChatRow)
  (row : MessageRow) (hrow : row.id = env.newId w₀.issued)

abbrev Stored (env : Environment ν) (w₀ : World ν) (sent moment : ℕ) (p : Progress)
    (own : List SseCompletionEvent) (w : World ν) : Prop :=
  Stands env w₀ sent moment p.currentStatus (flushedContent p) own w

include hrow in
theorem stored_flush (moment : ℕ) (p : Progress) (tokenCount : Option ℤ) (status : MessageStatus)
    (content : JsString) :
    Triple (Stands env w₀ sent moment status content own)
      (flushPartial env chat row p .streaming tokenCount) Y
      (fun p' w => p' = flushed env moment p .streaming ∧ Stored env w₀ sent moment p' own w) E := by
  refine triple_conseq _ (stands_flush chat row p .streaming tokenCount hrow) (fun _ h => h) ?_
    fun _ _ h => h
  rintro p' w ⟨rfl, hw⟩
  refine ⟨rfl, ?_⟩
  unfold Stored flushedContent flushed
  rw [List.take_length]
  exact hw

include hrow in
theorem stored_delta (moment : ℕ) (p : Progress) (delta : JsString) (deltas : List JsString)
    (h : Tracks deltas own p) :
    Triple (Stored env w₀ sent moment p own) (onTextDelta env chat row p delta) Y
      (fun p' w => p' = absorb env moment p delta ∧ Stored env w₀ sent moment p' own w) E := by
  unfold onTextDelta absorb
  dsimp only
  by_cases hpending : p.currentStatus = .pending
  · rw [if_pos hpending, if_pos (.inl hpending)]
    exact stored_flush chat row hrow moment _ _ _ _
  · rw [if_neg hpending]
    refine triple_bind_read _ fun s hs => ?_
    rw [hs.clock]
    by_cases hdue : p.lastFlushedLength + 200 ≤ (p.accumulatedContent ++ delta).length ∨
        500 ≤ env.now moment - p.lastFlushTime
    · rw [if_pos hdue, if_pos (.inr hdue)]
      exact triple_conseq _ (stored_flush chat row hrow moment _ _ _ _) (fun w hw => hw ▸ hs)
        (fun _ _ h => h) fun _ _ h => h
    · rw [if_neg hdue, if_neg (not_or.mpr ⟨hpending, hdue⟩)]
      refine triple_pure _ ?_
      rintro w rfl
      refine ⟨rfl, ?_⟩
      unfold Stored flushedContent
      dsimp only
      rw [List.take_append_of_le_length h.flushed]
      exact hs

include hleft hrow

theorem stored_readStream (deltas : List JsString)
    (hreceived : ∀ own, tokenTexts own <+: deltas → Received env w₀ own)
    (ending : Option Failure) (script : List (StreamEvent JsString ℤ)) (moment : ℕ) (p : Progress)
    (own : List SseCompletionEvent) (htracks : Tracks deltas own p)
    (hdeltas : tokenTexts own ++ textDeltas script = deltas) (hbefore : G (flushedContent p))
    (htexts : ∀ text ∈ (replay env ending script moment p).texts, G text) :
    Triple (Stored env w₀ sent moment p own) (readStream env chat row ending script p)
      (AtCheckpoint env w₀ G)
      (fun out w => out = ((replay env ending script moment p).progress,
          (replay env ending script moment p).failure) ∧
        ∃ own, Tracks deltas own out.1 ∧
          Stored env w₀ sent (replay env ending script moment p).moment out.1 own w) E := by
  induction script generalizing moment p own with
  | nil =>
    exact triple_bind _ _ (stands_suspend hleft) fun _ =>
      triple_pure _ fun _ hw => ⟨rfl, own, htracks, hw⟩
  | cons event rest ih =>
    refine triple_bind _ _ (stands_suspend hleft) fun _ => triple_bind _ _ stands_aborted fun b =>
      triple_intro _ fun hb => ?_
    subst hb
    rw [replay.eq_def] at htexts ⊢
    dsimp only at htexts ⊢
    split_ifs at htexts ⊢ with haborted
    · exact triple_pure _ fun w hw => ⟨rfl, own, htracks, hw⟩
    · cases event with
      | textDelta delta =>
        refine triple_bind _ _ (stored_delta chat row hrow (moment + 1) p delta deltas htracks)
          fun p' => triple_intro _ fun hp' => ?_
        subst hp'
        obtain ⟨hnow, hlater⟩ := List.forall_mem_cons.mp htexts
        have htracks' := tracks_token row.id delta _ htracks
          (absorb_advanced env (moment + 1) delta htracks) hdeltas
        refine triple_bind _ _ (stands_yield hleft (.token row.id delta)
          (hreceived _ htracks'.received) hnow (tracks_tallies htracks')) fun _ => ?_
        refine ih (moment + 2) _ _ htracks' ?_ hnow hlater
        rw [tokenTexts_append, List.append_assoc]
        exact hdeltas
      | thoughtDelta thought =>
        have htracks' := tracks_textless (.thought row.id thought) htracks rfl rfl
        refine triple_bind _ _ (stands_yield hleft (.thought row.id thought)
          (hreceived _ htracks'.received) hbefore (tracks_tallies htracks')) fun _ => ?_
        refine ih (moment + 2) p _ htracks' ?_ hbefore htexts
        rw [tokenTexts_append, List.append_assoc]
        exact hdeltas
      | usage usage =>
        exact ih (moment + 1) { p with reportedUsage := some usage } own ⟨htracks.underWay,
          htracks.content, htracks.status, htracks.flushed, htracks.close, htracks.received⟩ hdeltas
          hbefore htexts
      | complete reason usage data =>
        exact ih (moment + 1) { p with reportedUsage := usage.or p.reportedUsage } own
          ⟨htracks.underWay, htracks.content, htracks.status, htracks.flushed, htracks.close,
            htracks.received⟩ hdeltas hbefore htexts
      | error error => exact triple_pure _ fun _ hw => ⟨rfl, own, htracks, hw⟩

end Streams

section Endings

variable {ν : Type} {env : Environment ν} {w₀ : World ν} {sent moment : ℕ} {status : MessageStatus}
  {content : JsString} {own : List SseCompletionEvent} {E : Failure → World ν → Prop}
  {G : JsString → Prop} {Y : SseCompletionEvent → World ν → Prop} (hleft : LeftAlone env)
  (chat : ChatRow) (row : MessageRow) (hrow : row.id = env.newId w₀.issued)

def leftStatus (content : JsString) : MessageStatus := if content ≠ [] then .complete else .error

def leftContent (content : JsString) : JsString :=
  if content ≠ [] then content else generationInterrupted

theorem leftStatus_ended (content : JsString) : (leftStatus content).inFlight = false := by
  unfold leftStatus
  split_ifs <;> rfl

include hrow in
theorem stands_finishAborted (p : Progress) :
    Triple (Stands env w₀ sent moment status content own) (finishAborted env chat row p) Y
      (fun _ => Stands env w₀ sent moment (leftStatus p.accumulatedContent)
        (leftContent p.accumulatedContent) own) E := by
  unfold finishAborted leftStatus leftContent
  split_ifs with hempty
  · exact triple_conseq _ (stands_flush chat row p .complete _ hrow) (fun _ h => h)
      (fun _ _ h => h.2) fun _ _ h => h
  · exact triple_conseq _ (stands_flush chat row _ .error none hrow) (fun _ h => h)
      (fun _ _ h => h.2) fun _ _ h => h

def Stopped (env : Environment ν) (w₀ : World ν) (sent : ℕ) (own : List SseCompletionEvent)
    (w : World ν) : Prop :=
  ∃ moment status content, status.inFlight = false ∧
    Stands env w₀ sent moment status content own w ∧ env.aborted moment = true

theorem stopped_gone (w : World ν) (h : Stopped env w₀ sent own w) :
    env.aborted w.clock = true := by
  obtain ⟨_, _, _, _, hw, haborted⟩ := h
  rwa [hw.clock]

include hrow in
theorem stopped_finishAborted (p : Progress) (haborted : env.aborted moment = true) :
    Triple (Stands env w₀ sent moment status content own) (finishAborted env chat row p) Y
      (fun _ => Stopped env w₀ sent own) E :=
  triple_conseq _ (stands_finishAborted chat row hrow p) (fun _ h => h)
    (fun _ _ h => ⟨_, _, _, leftStatus_ended _, h, haborted⟩) fun _ _ h => h

theorem received_concat (event : SseCompletionEvent) (htext : tokenText event = none)
    (h : Received env w₀ own) : Received env w₀ (own ++ [event]) := by
  obtain ⟨config, request, h⟩ := h
  refine ⟨config, request, ?_⟩
  rw [tokenTexts_append]
  unfold tokenTexts at h ⊢
  rw [List.filterMap_cons_none htext, List.filterMap_nil, List.append_nil]
  exact h

theorem said_concat (event : SseCompletionEvent) (htext : tokenText event = none) :
    said (own ++ [event]) = said own := by
  rw [said_append]
  unfold said tokenTexts
  rw [List.filterMap_cons_none htext]
  exact List.append_nil _

theorem tallies_full (hcontent : said own = content) (hstatus : standing own = status) :
    Tallies own status content := by
  refine ⟨?_, ?_, hstatus.symm⟩
  · rw [hcontent]
  · rw [hcontent]
    omega

include hleft in
theorem stands_announce (event : SseCompletionEvent) (htext : tokenText event = none)
    (hreceived : Received env w₀ own) (hsaid : said own = content) (hcontent : G content)
    (hstatus : standing (own ++ [event]) = status) :
    Triple (Stands env w₀ sent moment status content own) (yieldEvent env event)
      (AtCheckpoint env w₀ G)
      (fun _ => Stands env w₀ sent (moment + 1) status content (own ++ [event])) E :=
  stands_yield hleft event (received_concat event htext hreceived) hcontent
    (tallies_full ((said_concat event htext).trans hsaid) hstatus)

def failureEvents (env : Environment ν) (execution : Execution ν) (failure : Failure) :
    List SseCompletionEvent := [.error (env.errorPayload execution failure), .done]

variable (status content) in
include hleft hrow in
theorem stands_report {α : Type} {R : α → World ν → Prop} (execution : Execution ν)
    (p : Progress) (failure : Failure) (hreceived : Received env w₀ own)
    (hunderWay : ∀ event ∈ own, underWay event = true) (hsaid : said own = p.accumulatedContent)
    (hcontent : G p.accumulatedContent) (tokenCount : Option ℤ) (f : Progress → Run ν α)
    (hf : Triple (Stands env w₀ sent (moment + 2) .error p.accumulatedContent
      (own ++ failureEvents env execution failure)) (f (flushed env moment p .error))
      (AtCheckpoint env w₀ G) R E) :
    Triple (Stands env w₀ sent moment status content own)
      (flushPartial env chat row p .error tokenCount >>= fun p' => do
        yieldEvent env (.error (env.errorPayload execution failure))
        yieldEvent env .done
        f p') (AtCheckpoint env w₀ G) R E := by
  have herror : Received env w₀ (own ++ [.error (env.errorPayload execution failure)]) :=
    received_concat _ rfl hreceived
  refine triple_bind _ _ (stands_flush chat row p .error tokenCount hrow) fun p' =>
    triple_intro _ fun hp' =>
    triple_bind _ _ (stands_announce hleft _ rfl hreceived hsaid hcontent
      (standing_concat own [] hunderWay _ _ rfl)) fun _ =>
    triple_bind _ _ (stands_announce hleft .done rfl herror ((said_concat _ rfl).trans hsaid) hcontent
      ?_) fun _ => ?_
  · rw [List.append_assoc]
    exact standing_concat own [.done] hunderWay _ _ rfl
  · rw [List.append_assoc, hp']
    exact hf

end Endings

end Glassbeetle.Checkpoints
