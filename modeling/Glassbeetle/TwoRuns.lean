import Glassbeetle.Runs

set_option autoImplicit false

namespace Glassbeetle.TwoRuns
open Runs

variable {State Event Answer : Type}

def next (perform : State → Event → Answer × State) (s : State) (event : Event) : State :=
  (perform s event).2

def answers (perform : State → Event → Answer × State) (s : State) : List Event → List Answer
  | [] => []
  | event :: rest => (perform s event).1 :: answers perform (next perform s event) rest

/-- If states that agree answer one allowed event alike and agree afterwards, they answer every
allowed run of events alike. -/
theorem answers_alike (first second : State → Event → Answer × State) (agree : State → State → Prop)
    (ok ok' : State → Event → Prop)
    (alike : ∀ s t event, agree s t → ok s event → ok' t event →
      (first s event).1 = (second t event).1 ∧ agree (next first s event) (next second t event))
    (s t : State) (events : List Event) (h : agree s t) (hs : Allowed (next first) ok s events)
    (ht : Allowed (next second) ok' t events) :
    answers first s events = answers second t events ∧
      agree (events.foldl (next first) s) (events.foldl (next second) t) := by
  induction events generalizing s t with
  | nil => exact ⟨rfl, h⟩
  | cons event rest ih =>
    obtain ⟨hfirst, hs⟩ := hs
    obtain ⟨hsecond, ht⟩ := ht
    obtain ⟨hanswer, hagree⟩ := alike s t event h hfirst hsecond
    obtain ⟨hrest, hfinal⟩ := ih _ _ hagree hs ht
    refine ⟨?_, hfinal⟩
    rw [answers, answers, hanswer, hrest]

theorem run_unchanged {View : Type} (perform : State → Event → Answer × State) (view : State → View)
    (unchanged : ∀ s event, view (next perform s event) = view s) (s : State) (events : List Event) :
    view (events.foldl (next perform) s) = view s := by
  induction events generalizing s with
  | nil => rfl
  | cons event rest ih => exact (ih _).trans (unchanged s event)

end Glassbeetle.TwoRuns
