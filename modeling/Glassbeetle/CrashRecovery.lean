import Glassbeetle.CheckpointLaw
import Glassbeetle.MessageWrites

set_option autoImplicit false

/-!
# Restarting after a crash

The sweep of `connect` over the rows that a process has left behind, wherever in a stream it stopped.
-/
namespace Glassbeetle.CrashRecovery
open JsText Utf8Text AdapterTypes Database ExecutionChain AsyncGenerator Inference SingleAgentChat
  MemberTurns Completions StreamFinalisation Checkpoints ReplyOutcomes CheckpointLaw Transactions
  MessageWrites

variable {ν : Type}

def interrupted : JsString := js "Generation interrupted unexpectedly"

/-- `SET status = 'error', content = CASE WHEN content = '' …` -/
def sweepRow (row : MessageRow) : MessageRow :=
  if row.status.inFlight then
    { row with
      status := .error
      content := if row.content = [] then interrupted else row.content }
  else row

def sweepStrandedMessages (fault : Option SqliteError) (db : Tables ν) : Tables ν :=
  (autocommit (statement fault fun db : Tables ν =>
    .ok ((), { db with messages := db.messages.map sweepRow })) db).2

theorem sweep_works (db : Tables ν) :
    sweepStrandedMessages none db = { db with messages := db.messages.map sweepRow } := rfl

theorem sweepRow_id (row : MessageRow) : (sweepRow row).id = row.id := by
  unfold sweepRow
  split <;> rfl

theorem sweepRow_settled (row : MessageRow) (h : row.status.inFlight = false) :
    sweepRow row = row := by
  unfold sweepRow
  rw [h]
  rfl

theorem sweepRow_open (row : MessageRow) (h : row.status.inFlight = true) :
    sweepRow row = { row with
      status := .error
      content := if row.content = [] then interrupted else row.content } := by
  unfold sweepRow
  rw [h]
  rfl

theorem sweepRow_ended (row : MessageRow) : (sweepRow row).status.inFlight = false := by
  cases hflight : row.status.inFlight with
  | false => rwa [sweepRow_settled row hflight]
  | true =>
    rw [sweepRow_open row hflight]
    rfl

theorem sweepRow_complete (row : MessageRow) :
    (sweepRow row).status = .complete ↔ row.status = .complete := by
  cases hflight : row.status.inFlight with
  | false => rw [sweepRow_settled row hflight]
  | true =>
    rw [sweepRow_open row hflight]
    refine iff_of_false (by simp) fun hcomplete => ?_
    rw [hcomplete] at hflight
    cases hflight

theorem sweep_twice (db : Tables ν) :
    sweepStrandedMessages none (sweepStrandedMessages none db) = sweepStrandedMessages none db := by
  simp only [sweep_works, List.map_map]
  congr 1
  apply List.map_congr_left
  intro row _
  exact sweepRow_settled _ (sweepRow_ended row)

/-! ### What is left of a reply -/

variable {env : Environment ν} {w₀ : World ν}

/-- The reply of a turn that began in `w₀`, once the process that stopped in `w` is started again. -/
structure Recovered (env : Environment ν) (w₀ w : World ν) (row : MessageRow) : Prop where
  ended : row.status.inFlight = false
  /-- It is complete where the client has been told so. -/
  told : row.status = .complete ↔ standing (ownEvents w₀ w) = .complete
  /-- It holds what the database makes of all that the client has read but the last 200 characters,
  or says that it was interrupted. -/
  kept : (∃ text, row.content = stored text ∧ text <+: said (ownEvents w₀ w) ∧
      (said (ownEvents w₀ w)).length < text.length + 200) ∨
    row.content = interrupted ∧ row.status = .error ∧ (said (ownEvents w₀ w)).length < 200

theorem recovered_checkpoint (event : SseCompletionEvent) (w : World ν)
    (hcheck : AtCheckpoint env w₀ (fun _ => True) event w) (row : MessageRow)
    (hrow : row ∈ (sweepStrandedMessages none w.db).messages) (hid : row.id = env.newId w₀.issued) :
    Recovered env w₀ w row := by
  obtain ⟨own, hemitted, -, hrows⟩ := hcheck
  rw [sweep_works] at hrow
  obtain ⟨old, hold, rfl⟩ := List.mem_map.mp hrow
  rw [sweepRow_id] at hid
  obtain ⟨text, htext, -, hkept, hclose, hstatus⟩ := hrows old hold hid
  have hown := ownEvents_eq w own hemitted
  refine ⟨sweepRow_ended old, ?_, ?_⟩
  · rw [sweepRow_complete, hown, hstatus]
  · rw [hown]
    cases hflight : old.status.inFlight with
    | false =>
      rw [sweepRow_settled old hflight]
      exact .inl ⟨text, htext, hkept, hclose⟩
    | true =>
      rw [sweepRow_open old hflight]
      by_cases hempty : old.content = []
      · right
        rw [(stored_eq_nil text).mp (htext.symm.trans hempty)] at hclose
        exact ⟨if_pos hempty, rfl, by simpa using hclose⟩
      · left
        rw [if_neg hempty]
        exact ⟨text, htext, hkept, hclose⟩

/-- Wherever a process stops while a client is handed an event of a reply, the next start leaves the
reply ended, complete only if the client was told so, and without at most 199 characters of what
the client had read. -/
theorem crash_keeps_said (env : Environment ν) (w₀ : World ν) (hleft : LeftAlone env)
    (hfresh : Fresh env w₀) (hlower : abortLike env.toLowerCase foreignKeyFailed = false)
    (dto : CreateCompletionDto ν) :
    (∀ chatId owned, w₀.db.chat chatId = some owned → owned.teamId = none →
      ∀ y ∈ (streamChat env chatId dto w₀).yields,
        ∀ row ∈ (sweepStrandedMessages none y.2.db).messages, row.id = env.newId w₀.issued →
          Recovered env w₀ y.2 row) ∧
      ∀ chat turn, ∀ y ∈ (streamMemberTurn env chat dto turn w₀).yields,
        ∀ row ∈ (sweepStrandedMessages none y.2.db).messages, row.id = env.newId w₀.issued →
          Recovered env w₀ y.2 row := by
  constructor
  · intro chatId owned hchat hagent y hy
    rw [streamChat_agent env owned dto chatId w₀ hchat hagent] at hy
    have hyields := (agentChat_outcome (G := fun _ => True) hleft hfresh hlower trivial owned dto
      (fun _ _ _ _ _ _ => trivial) w₀ ⟨rfl, rfl, rfl, rfl, rfl⟩).1
    exact recovered_checkpoint y.1 y.2 (hyields y hy)
  · intro chat turn y hy
    have hyields := (memberTurn_closed (G := fun _ => True) hleft chat hfresh trivial dto turn
      (fun _ _ _ _ => trivial) w₀ ⟨rfl, rfl, rfl, rfl, rfl⟩).1
    exact recovered_checkpoint y.1 y.2 (hyields y hy)

theorem crash_keeps_said_reply :
    let env := sampleEnvironment (fun _ => js "hello") none
    let yields := (streamChat env (js "c") plainDto (.start (sampleTables .sequential))).yields
    yields.length = 4 ∧ ∀ y ∈ yields, ∀ row ∈ (sweepStrandedMessages none y.2.db).messages,
      row.id = env.newId 0 → Recovered env (.start (sampleTables .sequential)) y.2 row :=
  ⟨rfl, (crash_keeps_said (sampleEnvironment (fun _ => js "hello") none)
    (.start (sampleTables .sequential)) (fun _ _ _ row h _ => ⟨row, h, rfl, rfl, rfl⟩)
    (fun row h => sampleTables_fresh .sequential _ none row h 0) (by decide) plainDto).1
    (js "c") _ rfl rfl⟩

/-! ### What a start leaves alone -/

/-- A start changes the rows in flight and nothing else, so that none is left, and none of those that
a generator has written which was drained or left between two messages. -/
theorem restart_spares_finished (env : Environment ν) (generator : Generator ν) (db : Tables ν)
    (stop : Option ℕ) (hcareful : Careful env (generator.run env (.start db)) stop) (w : World ν)
    (hstop : stoppedAt (generator.run env (.start db)) stop = some w) :
    (∀ row ∈ (sweepStrandedMessages none w.db).messages, row.status.inFlight = false) ∧
      { sweepStrandedMessages none w.db with messages := w.db.messages } = w.db ∧
      ∀ row ∈ w.db.messages, (row.id ∈ w.opened ∨ row.status.inFlight = false) →
        row ∈ (sweepStrandedMessages none w.db).messages := by
  have hsettled : Settled w := by
    refine settled_of_finalises env _ ?_ db stop hcareful w hstop
    cases generator with
    | streamChat chatId dto => exact finalises_streamChat dto chatId
    | streamMemberTurn chat dto turn =>
      exact finalises_bind _ _ (finalises_streamMemberTurn chat dto turn) fun _ => finalises_pure ()
  refine ⟨?_, rfl, ?_⟩
  · intro row hrow
    obtain ⟨old, -, rfl⟩ := List.mem_map.mp hrow
    exact sweepRow_ended old
  · intro row hrow hdone
    have hended : row.status.inFlight = false := by
      rcases hdone with hopened | hended
      · exact hsettled row.id hopened row hrow rfl
      · exact hended
    exact List.mem_map.mpr ⟨row, hrow, sweepRow_settled row hended⟩

theorem restart_spares_finished_drained :
    let w := (streamChat (sampleEnvironment (fun _ => js "hello") none) (js "d") plainDto
      (.start (sampleTables .sequential))).final
    (∀ row ∈ (sweepStrandedMessages none w.db).messages, row.status.inFlight = false) ∧
      { sweepStrandedMessages none w.db with messages := w.db.messages } = w.db ∧
      ∀ row ∈ w.db.messages, (row.id ∈ w.opened ∨ row.status.inFlight = false) →
        row ∈ (sweepStrandedMessages none w.db).messages :=
  restart_spares_finished (sampleEnvironment (fun _ => js "hello") none)
    (.streamChat (js "d") plainDto) (sampleTables .sequential) none (fun _ _ _ => ⟨true, rfl⟩) _ rfl

end Glassbeetle.CrashRecovery
