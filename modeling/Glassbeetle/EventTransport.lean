import Mathlib.Data.List.TakeWhile
import Glassbeetle.EventFrames
import Glassbeetle.Runs

set_option autoImplicit false

/-!
# Completion events on the wire

The streaming half of `createCompletion` against every order in which the service yields its events,
the response drains and the client goes away. Between two turns of the event loop the handler waits
for one thing.
-/
namespace Glassbeetle.EventTransport
open JsText JsonStringify EventFrames
open JsValue (Json JsNumber)

variable {ν : Type}

inductive Control where
  /-- The next event of the stream. -/
  | awaitingEvent
  /-- `drain` or `close`. -/
  | awaitingDrain
  /-- The stream's `return()`, after a `break`. -/
  | returning
  | finished
  deriving DecidableEq, Repr

structure Response where
  /-- The status and the headers, once they are sent. -/
  head : Option (ℕ × List (JsString × JsString))
  body : JsString
  writableEnded : Bool
  destroyed : Bool
  /-- Whether `close` was emitted. -/
  closed : Bool
  deriving DecidableEq

structure Completion where
  control : Control
  response : Response
  /-- Of the controller whose signal the service was given. -/
  aborted : Bool
  /-- Whether `onClose` listens on the request and on the response. -/
  listening : Bool
  deriving DecidableEq

inductive Turn (ν : Type) where
  /-- The stream yields; `canContinue` is what `res.write` would answer. -/
  | event (event : SseCompletionEvent ν) (canContinue : Bool)
  | streamEnded
  | streamThrew
  /-- The stream's `return()` has settled. -/
  | streamReturned
  | drain
  /-- The response is destroyed and has not said so yet. -/
  | responseDestroyed
  | responseClosed
  | requestClosed
  /-- The request's own signal. -/
  | signalAborted

def sseHead : ℕ × List (JsString × JsString) :=
  (200, [(js "Content-Type", js "text/event-stream"),
    (js "Cache-Control", js "no-cache, no-transform"), (js "Connection", js "keep-alive"),
    (js "X-Accel-Buffering", js "no")])

/-- The handler before its first event; `aborted` is the request's own signal. -/
def start (aborted : Bool) : Completion where
  control := .awaitingEvent
  response := ⟨none, [], false, false, false⟩
  aborted := aborted
  listening := true

def sendHead (response : Response) : Response :=
  { response with head := some (response.head.getD sseHead) }

def onClose (s : Completion) : Completion :=
  if s.listening && !s.response.writableEnded && !s.aborted then { s with aborted := true } else s

def wake (s : Completion) : Completion :=
  if s.control = .awaitingDrain then { s with control := .awaitingEvent } else s

def finish (s : Completion) : Completion :=
  { s with
    control := .finished
    listening := false
    response := { s.response with
      writableEnded := s.response.writableEnded || (s.response.head.isSome && !s.response.destroyed) } }

section Formatting

variable [JsNumber ν]

def onEvent (s : Completion) (event : SseCompletionEvent ν) (canContinue : Bool) : Completion :=
  let response := sendHead s.response
  if response.writableEnded || response.destroyed then
    { s with control := .returning, response := response }
  else
    let written := { response with body := response.body ++ formatSseEvent event }
    { s with
      control := if !canContinue && !written.writableEnded && !written.destroyed
        then .awaitingDrain else .awaitingEvent
      response := written }

def step (s : Completion) : Turn ν → Completion
  | .event yielded canContinue => onEvent s yielded canContinue
  | .streamEnded | .streamThrew | .streamReturned => finish s
  | .drain => wake s
  | .responseDestroyed => { s with response := { s.response with destroyed := true } }
  | .responseClosed =>
    wake (onClose { s with response := { s.response with destroyed := true, closed := true } })
  | .requestClosed => onClose s
  | .signalAborted => { s with aborted := true }

/-- The stream answers only what it was asked. -/
def enabled (s : Completion) : Turn ν → Prop
  | .event _ _ | .streamEnded | .streamThrew => s.control = .awaitingEvent
  | .streamReturned => s.control = .returning
  | _ => True

def Run (aborted : Bool) (turns : List (Turn ν)) : Prop :=
  Runs.Allowed step enabled (start aborted) turns

def reached (aborted : Bool) (turns : List (Turn ν)) : Completion :=
  turns.foldl step (start aborted)

end Formatting

/-! ### What a run is made of -/

def Turn.event? : Turn ν → Option (SseCompletionEvent ν)
  | .event yielded _ => some yielded
  | _ => none

def events (turns : List (Turn ν)) : List (SseCompletionEvent ν) := turns.filterMap Turn.event?

def Turn.leaves : Turn ν → Bool
  | .responseDestroyed | .responseClosed => true
  | _ => false

def Turn.finishes : Turn ν → Bool
  | .streamEnded | .streamThrew | .streamReturned => true
  | _ => false

def Turn.closes : Turn ν → Bool
  | .responseClosed | .requestClosed => true
  | _ => false

/-- `close` is emitted. -/
def Turn.shuts : Turn ν → Bool
  | .responseClosed => true
  | _ => false

def Turn.aborts : Turn ν → Bool
  | .signalAborted => true
  | _ => false

def delivered (turns : List (Turn ν)) : List (SseCompletionEvent ν) :=
  events (turns.takeWhile fun turn => !turn.leaves)

def serving (turns : List (Turn ν)) : List (Turn ν) := turns.takeWhile fun turn => !turn.finishes

def Turn.answers (turn : Turn ν) : Bool := turn.event?.isSome || turn.finishes

/-! ### One turn -/

section Formatting

variable [JsNumber ν]

structure Consistent (s : Completion) : Prop where
  ended : s.response.writableEnded = true → s.control = .finished
  closed : s.response.closed = true → s.response.destroyed = true
  /-- A handler that waits for `drain` can still be woken by `close`. -/
  drain : s.control = .awaitingDrain → s.response.closed = false
  returning : s.control = .returning → s.response.destroyed = true ∧ s.response.head.isSome = true
  listening : s.listening = true ↔ s.control ≠ .finished

theorem start_consistent (aborted : Bool) : Consistent (start aborted) := by
  constructor <;> simp [start]

@[simp] theorem onClose_response (s : Completion) : (onClose s).response = s.response := by
  unfold onClose
  split <;> rfl

@[simp] theorem onClose_control (s : Completion) : (onClose s).control = s.control := by
  unfold onClose
  split <;> rfl

@[simp] theorem onClose_listening (s : Completion) : (onClose s).listening = s.listening := by
  unfold onClose
  split <;> rfl

theorem onClose_aborted (s : Completion) :
    (onClose s).aborted = (s.aborted || (s.listening && !s.response.writableEnded)) := by
  unfold onClose
  cases s.listening <;> cases s.response.writableEnded <;> cases haborted : s.aborted <;>
    simp [haborted]

@[simp] theorem wake_response (s : Completion) : (wake s).response = s.response := by
  unfold wake
  split <;> rfl

@[simp] theorem wake_listening (s : Completion) : (wake s).listening = s.listening := by
  unfold wake
  split <;> rfl

@[simp] theorem wake_aborted (s : Completion) : (wake s).aborted = s.aborted := by
  unfold wake
  split <;> rfl

@[simp] theorem wake_control (s : Completion) :
    (wake s).control = if s.control = .awaitingDrain then .awaitingEvent else s.control := by
  unfold wake
  split <;> rfl

theorem onEvent_eq (s : Completion) (event : SseCompletionEvent ν) (canContinue : Bool) :
    onEvent s event canContinue = if s.response.writableEnded || s.response.destroyed then
        { s with control := .returning, response := sendHead s.response }
      else { s with
        control := if canContinue then .awaitingEvent else .awaitingDrain
        response := { sendHead s.response with body := s.response.body ++ formatSseEvent event } } := by
  unfold onEvent
  cases hended : s.response.writableEnded <;> cases hdestroyed : s.response.destroyed <;>
    cases canContinue <;> simp [sendHead, hended, hdestroyed]

theorem step_control (s : Completion) (turn : Turn ν) : (step s turn).control = match turn with
    | .event _ canContinue => if s.response.writableEnded || s.response.destroyed then .returning
        else if canContinue then .awaitingEvent else .awaitingDrain
    | .streamEnded | .streamThrew | .streamReturned => .finished
    | .drain | .responseClosed => if s.control = .awaitingDrain then .awaitingEvent else s.control
    | _ => s.control := by
  cases turn with
  | event yielded canContinue =>
    rw [step, onEvent_eq]
    split <;> rfl
  | _ => simp [step, finish]

theorem step_head (s : Completion) (turn : Turn ν) : (step s turn).response.head =
    if turn.event?.isSome then some (s.response.head.getD sseHead) else s.response.head := by
  cases turn with
  | event yielded canContinue =>
    rw [step, onEvent_eq]
    split <;> rfl
  | _ => simp [step, finish, Turn.event?]

theorem step_destroyed (s : Completion) (turn : Turn ν) :
    (step s turn).response.destroyed = (s.response.destroyed || turn.leaves) := by
  cases turn with
  | event yielded canContinue =>
    rw [step, onEvent_eq]
    split <;> simp [sendHead, Turn.leaves]
  | _ => simp [step, finish, Turn.leaves]

theorem step_ended (s : Completion) (turn : Turn ν) : (step s turn).response.writableEnded =
    (s.response.writableEnded ||
      (turn.finishes && s.response.head.isSome && !s.response.destroyed)) := by
  cases turn with
  | event yielded canContinue =>
    rw [step, onEvent_eq]
    split <;> simp [sendHead, Turn.finishes]
  | _ => simp [step, finish, Turn.finishes]

theorem step_closed (s : Completion) (turn : Turn ν) :
    (step s turn).response.closed = (s.response.closed || turn.shuts) := by
  cases turn with
  | event yielded canContinue =>
    rw [step, onEvent_eq]
    split <;> simp [sendHead, Turn.shuts]
  | _ => simp [step, finish, Turn.shuts]

theorem step_listening (s : Completion) (turn : Turn ν) :
    (step s turn).listening = (s.listening && !turn.finishes) := by
  cases turn with
  | event yielded canContinue =>
    rw [step, onEvent_eq]
    split <;> simp [Turn.finishes]
  | _ => simp [step, finish, Turn.finishes]

theorem step_aborted (s : Completion) (turn : Turn ν) : (step s turn).aborted =
    (s.aborted || (turn.closes && s.listening && !s.response.writableEnded) || turn.aborts) := by
  cases turn with
  | event yielded canContinue =>
    rw [step, onEvent_eq]
    split <;> simp [Turn.closes, Turn.aborts]
  | _ => simp [step, finish, onClose_aborted, Turn.closes, Turn.aborts]

theorem step_body (s : Completion) (turn : Turn ν) : (step s turn).response.body =
    s.response.body ++ if s.response.writableEnded || s.response.destroyed then []
      else (turn.event?.toList.map formatSseEvent).flatten := by
  cases turn with
  | event yielded canContinue =>
    rw [step, onEvent_eq]
    split <;> simp [sendHead, Turn.event?]
  | _ => simp [step, finish, Turn.event?]

theorem step_consistent (s : Completion) (turn : Turn ν) (hs : Consistent s)
    (henabled : enabled s turn) : Consistent (step s turn) := by
  obtain ⟨hended, hclosed, hdrain, hreturning, hlistening⟩ := hs
  constructor
  · rw [step_ended, step_control]
    cases turn <;> simp_all [enabled, Turn.finishes]
  · rw [step_closed, step_destroyed]
    cases turn <;> simp_all [Turn.shuts, Turn.leaves]
  · rw [step_control, step_closed]
    cases turn <;> simp_all [enabled, Turn.shuts] <;> grind
  · rw [step_control, step_destroyed, step_head]
    cases turn <;> simp_all [enabled, Turn.leaves, Turn.event?] <;> grind
  · rw [step_listening, step_control]
    cases turn <;> simp_all [enabled, Turn.finishes] <;> grind

/-! ### Whole runs -/

theorem run_consistent (s : Completion) (turns : List (Turn ν)) (hs : Consistent s)
    (hrun : Runs.Allowed step enabled s turns) : Consistent (turns.foldl step s) :=
  Runs.run_invariant step enabled Consistent (fun s turn hs henabled => step_consistent s turn hs henabled)
    s turns hs hrun _ (Runs.final_mem step s turns)

theorem run_body (s : Completion) (turns : List (Turn ν)) (hs : Consistent s)
    (hrun : Runs.Allowed step enabled s turns) : (turns.foldl step s).response.body =
      s.response.body ++ if s.response.destroyed then []
        else ((delivered turns).map formatSseEvent).flatten := by
  induction turns generalizing s with
  | nil => simp [delivered, events]
  | cons turn rest ih =>
    obtain ⟨henabled, hrest⟩ := hrun
    rw [List.foldl_cons, ih _ (step_consistent s turn hs henabled) hrest, step_body, step_destroyed]
    cases hdestroyed : s.response.destroyed with
    | true => simp
    | false =>
      cases hleaves : turn.leaves with
      | true => cases turn <;> simp_all [Turn.leaves, Turn.event?, delivered, events]
      | false =>
        have hdelivered : delivered (turn :: rest) = turn.event?.toList ++ delivered rest := by
          cases hevent : turn.event? <;> simp [delivered, events, hleaves, hevent]
        cases hended : s.response.writableEnded with
        | false => simp [hdelivered]
        | true =>
          -- nothing is yielded once the handler has finished
          have hnone : turn.event? = none := by
            have hfinished := hs.ended hended
            cases turn <;> simp_all [enabled, Turn.event?]
          simp [hdelivered, hnone]

theorem run_head (s : Completion) (turns : List (Turn ν)) :
    (turns.foldl step s).response.head =
      if (events turns).isEmpty then s.response.head else some (s.response.head.getD sseHead) := by
  induction turns generalizing s with
  | nil => simp [events]
  | cons turn rest ih =>
    rw [List.foldl_cons, ih, step_head]
    cases hevent : turn.event? <;> simp [events, hevent]

theorem run_closed (s : Completion) (turns : List (Turn ν)) :
    (turns.foldl step s).response.closed = (s.response.closed || turns.any Turn.shuts) := by
  induction turns generalizing s with
  | nil => simp
  | cons turn rest ih => simp [ih, step_closed, Bool.or_assoc]

theorem run_listening (s : Completion) (turns : List (Turn ν)) :
    (turns.foldl step s).listening = (s.listening && !turns.any Turn.finishes) := by
  induction turns generalizing s with
  | nil => simp
  | cons turn rest ih => simp [ih, step_listening, Bool.and_assoc]

theorem run_quiet (s : Completion) (turns : List (Turn ν)) (hs : s.control = .finished)
    (hrun : Runs.Allowed step enabled s turns) : turns.any Turn.answers = false := by
  induction turns generalizing s with
  | nil => rfl
  | cons turn rest ih =>
    obtain ⟨henabled, hrest⟩ := hrun
    have hturn : turn.answers = false := by
      cases turn <;> simp_all [enabled, Turn.answers, Turn.event?, Turn.finishes]
    have hcontrol : (step s turn).control = .finished := by
      rw [step_control]
      cases turn <;> simp_all [enabled]
    rw [List.any_cons, hturn, ih _ hcontrol hrest]
    rfl

omit [JsNumber ν] in
theorem quiet_events (turns : List (Turn ν)) (h : turns.any Turn.answers = false) :
    events turns = [] ∧ turns.any Turn.finishes = false := by
  simp only [Turn.answers, List.any_eq_false, Bool.or_eq_true, not_or, Option.not_isSome_iff_eq_none]
    at h
  exact ⟨List.filterMap_eq_nil_iff.mpr fun turn hturn => (h turn hturn).1,
    List.any_eq_false.mpr fun turn hturn => (h turn hturn).2⟩

theorem finishing_control (s : Completion) (turn : Turn ν) (h : turn.finishes = true) :
    (step s turn).control = .finished := by
  rw [step_control]
  cases turn <;> simp_all [Turn.finishes]

theorem run_ended (s : Completion) (turns : List (Turn ν)) (hs : Consistent s)
    (hrun : Runs.Allowed step enabled s turns) : (turns.foldl step s).response.writableEnded =
      (s.response.writableEnded || (turns.any Turn.finishes &&
        (s.response.head.isSome || !(events turns).isEmpty) &&
          !(s.response.destroyed || (serving turns).any Turn.leaves))) := by
  induction turns generalizing s with
  | nil => simp
  | cons turn rest ih =>
    obtain ⟨henabled, hrest⟩ := hrun
    rw [List.foldl_cons, ih _ (step_consistent s turn hs henabled) hrest, step_ended, step_head,
      step_destroyed]
    cases hfinishes : turn.finishes with
    | true =>
      obtain ⟨hevents, hnone⟩ := quiet_events rest
        (run_quiet _ rest (finishing_control s turn hfinishes) hrest)
      have hevent : turn.event? = none := by cases turn <;> simp_all [Turn.finishes, Turn.event?]
      have hall : events (turn :: rest) = [] := by rw [← hevents, events, List.filterMap_cons_none hevent]; rfl
      simp [hnone, hfinishes, serving, hall]
    | false =>
      cases hevent : turn.event? <;>
        simp [hfinishes, serving, events, hevent, Bool.or_assoc]

theorem run_aborted (s : Completion) (turns : List (Turn ν)) (hs : Consistent s)
    (hrun : Runs.Allowed step enabled s turns) : (turns.foldl step s).aborted =
      (s.aborted || (s.listening && (serving turns).any Turn.closes) || turns.any Turn.aborts) := by
  induction turns generalizing s with
  | nil => simp [serving]
  | cons turn rest ih =>
    obtain ⟨henabled, hrest⟩ := hrun
    have hopen : (s.listening && !s.response.writableEnded) = s.listening := by
      cases hended : s.response.writableEnded with
      | false => simp
      | true =>
        have hlistening := hs.listening
        simp [hs.ended hended] at hlistening
        simp [hlistening]
    rw [List.foldl_cons, ih _ (step_consistent s turn hs henabled) hrest, step_aborted,
      step_listening, Bool.and_assoc, hopen]
    cases hfinishes : turn.finishes with
    | true =>
      have hcloses : turn.closes = false := by cases turn <;> simp_all [Turn.finishes, Turn.closes]
      simp [serving, hfinishes, hcloses, Bool.or_assoc]
    | false =>
      have hserving : serving (turn :: rest) = turn :: serving rest := by simp [serving, hfinishes]
      rw [hserving, List.any_cons, List.any_cons]
      cases s.aborted <;> cases s.listening <;> cases turn.closes <;> cases turn.aborts <;>
        cases (serving rest).any Turn.closes <;> rfl

def remaining : Control → ℕ
  | .awaitingEvent | .awaitingDrain => 2
  | .returning => 1
  | .finished => 0

omit [JsNumber ν] in
theorem remaining_le (control : Control) : remaining control ≤ 2 := by
  cases control <;> decide

theorem step_remaining (s : Completion) (turn : Turn ν) (hs : Consistent s)
    (hclosed : s.response.closed = true) (henabled : enabled s turn) :
    remaining (step s turn).control + (if turn.answers then 1 else 0) ≤ remaining s.control := by
  have hgone := hs.closed hclosed
  have hdrain : s.control ≠ .awaitingDrain := fun h => by simp [hs.drain h] at hclosed
  rw [step_control]
  cases turn <;> simp_all [enabled, Turn.answers, Turn.event?, Turn.finishes, remaining]

theorem run_bounded (s : Completion) (turns : List (Turn ν)) (hs : Consistent s)
    (hclosed : s.response.closed = true) (hrun : Runs.Allowed step enabled s turns) :
    turns.countP Turn.answers ≤ remaining s.control := by
  induction turns generalizing s with
  | nil => simp
  | cons turn rest ih =>
    obtain ⟨henabled, hrest⟩ := hrun
    have hnext : (step s turn).response.closed = true := by rw [step_closed, hclosed, Bool.true_or]
    have hrest := ih _ (step_consistent s turn hs henabled) hnext hrest
    have hturn := step_remaining s turn hs hclosed henabled
    rw [List.countP_cons]
    omega

/-! ### The handler -/

/-- Whatever the order of events, drains and disconnects, the body holds the frames of the events
yielded while the client was there, in order and once each. -/
theorem createCompletion_body (aborted : Bool) (turns : List (Turn ν)) (hrun : Run aborted turns) :
    (reached aborted turns).response.body = ((delivered turns).map formatSseEvent).flatten := by
  rw [reached, run_body (start aborted) turns (start_consistent aborted) hrun]
  rfl

theorem finished_iff (aborted : Bool) (turns : List (Turn ν)) (hrun : Run aborted turns) :
    (reached aborted turns).control = .finished ↔ turns.any Turn.finishes = true := by
  have hlistening := (run_consistent (start aborted) turns (start_consistent aborted) hrun).listening
  rw [run_listening] at hlistening
  have hstart : (start aborted).listening = true := rfl
  rw [hstart, Bool.true_and, Bool.not_eq_true', ← Bool.not_eq_true, not_iff_not] at hlistening
  exact hlistening.symm

/-- A handler that has finished listens no longer. A stream that ended or failed before its first event
has left the response untouched, for the JSON answer; after the first event the response is ended
unless the client has gone. -/
theorem createCompletion_finished (aborted : Bool) (turns : List (Turn ν)) (hrun : Run aborted turns)
    (hfinished : (reached aborted turns).control = .finished) :
    (reached aborted turns).listening = false ∧
      (reached aborted turns).response.head = (if (events turns).isEmpty then none else some sseHead) ∧
      (reached aborted turns).response.writableEnded =
        (!(events turns).isEmpty && !(serving turns).any Turn.leaves) := by
  have hfinishes := (finished_iff aborted turns hrun).mp hfinished
  refine ⟨?_, ?_, ?_⟩
  · rw [reached, run_listening, hfinishes, Bool.not_true, Bool.and_false]
  · rw [reached, run_head]
    rfl
  · rw [reached, run_ended _ turns (start_consistent aborted) hrun, hfinishes]
    simp [start]

/-- The model call is cancelled exactly if the request was, or the client left while the handler was
still at work. -/
theorem createCompletion_aborted (aborted : Bool) (turns : List (Turn ν)) (hrun : Run aborted turns) :
    (reached aborted turns).aborted =
      (aborted || (serving turns).any Turn.closes || turns.any Turn.aborts) := by
  rw [reached, run_aborted _ turns (start_consistent aborted) hrun]
  simp [start]

omit [JsNumber ν] in
theorem serving_all (turns : List (Turn ν)) (h : turns.any Turn.finishes = false) :
    serving turns = turns := by
  rw [serving, List.takeWhile_eq_self_iff]
  intro turn hturn
  simpa using List.any_eq_false.mp h turn hturn

/-- Once the response has closed, a handler that is still at work waits for the stream, whose signal is
aborted, and not for a `drain` that never comes; it hears of the stream at most twice more and writes
nothing more. -/
theorem createCompletion_disconnected (aborted : Bool) (turns more : List (Turn ν))
    (hrun : Run aborted (turns ++ more)) (hshut : turns.any Turn.shuts = true) :
    (reached aborted turns).control ≠ .awaitingDrain ∧
      ((reached aborted turns).control ≠ .finished → (reached aborted turns).aborted = true) ∧
      more.countP Turn.answers ≤ 2 ∧
      (reached aborted (turns ++ more)).response.body = (reached aborted turns).response.body := by
  obtain ⟨hturns, hmore⟩ := (Runs.allowed_append step enabled (start aborted) turns more).mp hrun
  have hconsistent := run_consistent (start aborted) turns (start_consistent aborted) hturns
  have hclosed : (reached aborted turns).response.closed = true := by
    rw [reached, run_closed, hshut, Bool.or_true]
  have hbounded := run_bounded _ more hconsistent hclosed hmore
  refine ⟨?_, ?_, ?_, ?_⟩
  · intro hdrain
    exact absurd hclosed (by rw [reached, hconsistent.drain hdrain]; decide)
  · intro hunfinished
    have hnone : turns.any Turn.finishes = false := by
      rw [← Bool.not_eq_true, ← finished_iff aborted turns hturns]
      exact hunfinished
    have hcloses : turns.any Turn.closes = true := by
      obtain ⟨turn, hturn, hshuts⟩ := List.any_eq_true.mp hshut
      refine List.any_eq_true.mpr ⟨turn, hturn, ?_⟩
      cases turn <;> simp_all [Turn.shuts, Turn.closes]
    rw [createCompletion_aborted aborted turns hturns, serving_all turns hnone, hcloses]
    simp
  · exact hbounded.trans (remaining_le _)
  · have hbody := run_body _ more hconsistent hmore
    rw [hconsistent.closed hclosed] at hbody
    rw [reached, List.foldl_append, hbody]
    simp [reached]

end Formatting

/-- A client that goes away while the handler waits for `drain`. -/
def leavingTurns : List (Turn ℤ) :=
  [.event (.payload .token samplePayload) false, .responseClosed, .event .done true, .streamReturned]

theorem leavingTurns_run : Run false leavingTurns := ⟨rfl, trivial, rfl, rfl, trivial⟩

theorem createCompletion_body_leaving :
    (reached false leavingTurns).response.body =
      ([SseCompletionEvent.payload .token samplePayload].map formatSseEvent).flatten :=
  createCompletion_body false leavingTurns leavingTurns_run

theorem createCompletion_finished_leaving :
    (reached false leavingTurns).listening = false ∧
      (reached false leavingTurns).response.head = some sseHead ∧
      (reached false leavingTurns).response.writableEnded = false :=
  createCompletion_finished false leavingTurns leavingTurns_run rfl

theorem createCompletion_aborted_leaving : (reached false leavingTurns).aborted = true :=
  createCompletion_aborted false leavingTurns leavingTurns_run

theorem createCompletion_disconnected_leaving :
    (reached false (leavingTurns.take 2)).control ≠ .awaitingDrain ∧
      ((reached false (leavingTurns.take 2)).control ≠ .finished →
        (reached false (leavingTurns.take 2)).aborted = true) ∧
      (leavingTurns.drop 2).countP Turn.answers ≤ 2 ∧
      (reached false (leavingTurns.take 2 ++ leavingTurns.drop 2)).response.body =
        (reached false (leavingTurns.take 2)).response.body :=
  createCompletion_disconnected false (leavingTurns.take 2) (leavingTurns.drop 2) leavingTurns_run rfl

end Glassbeetle.EventTransport
