import Mathlib.Init

set_option autoImplicit false

namespace Glassbeetle.Runs

variable {State Action : Type} (step : State → Action → State)

def states (s : State) : List Action → List State
  | [] => [s]
  | action :: rest => s :: states (step s action) rest

theorem final_mem (s : State) (actions : List Action) :
    actions.foldl step s ∈ states step s actions := by
  induction actions generalizing s with
  | nil => exact List.mem_singleton_self s
  | cons action rest ih => exact List.mem_cons_of_mem _ (ih (step s action))

/-- Each step of the run is allowed in the state it is taken from. -/
def Allowed (ok : State → Action → Prop) (s : State) : List Action → Prop
  | [] => True
  | action :: rest => ok s action ∧ Allowed ok (step s action) rest

theorem run_invariant (ok : State → Action → Prop) (invariant : State → Prop)
    (keeps : ∀ s action, invariant s → ok s action → invariant (step s action)) (s : State)
    (actions : List Action) (hs : invariant s) (hok : Allowed step ok s actions) :
    ∀ t ∈ states step s actions, invariant t := by
  induction actions generalizing s with
  | nil => simpa [states] using hs
  | cons action rest ih =>
    simp only [states, List.mem_cons, forall_eq_or_imp]
    exact ⟨hs, ih _ (keeps s action hs hok.1) hok.2⟩

theorem states_invariant (invariant : State → Prop)
    (keeps : ∀ s action, invariant s → invariant (step s action)) (s : State)
    (actions : List Action) (hs : invariant s) : ∀ t ∈ states step s actions, invariant t := by
  induction actions generalizing s with
  | nil => simpa [states] using hs
  | cons action rest ih =>
    simp only [states, List.mem_cons, forall_eq_or_imp]
    exact ⟨hs, ih _ (keeps s action hs)⟩

theorem allowed_all (s : State) (actions : List Action) :
    Allowed step (fun _ _ => True) s actions := by
  induction actions generalizing s with
  | nil => trivial
  | cons action rest ih => exact ⟨trivial, ih _⟩

theorem allowed_mono (ok more : State → Action → Prop) (h : ∀ s action, ok s action → more s action)
    (s : State) (actions : List Action) (hok : Allowed step ok s actions) :
    Allowed step more s actions := by
  induction actions generalizing s with
  | nil => trivial
  | cons action rest ih => exact ⟨h s action hok.1, ih _ hok.2⟩

theorem allowed_congr (ok same : State → Action → Prop) (invariant : State → Prop)
    (keeps : ∀ s action, invariant s → invariant (step s action))
    (h : ∀ s action, invariant s → (ok s action ↔ same s action)) (s : State)
    (actions : List Action) (hs : invariant s) :
    Allowed step ok s actions ↔ Allowed step same s actions := by
  induction actions generalizing s with
  | nil => exact Iff.rfl
  | cons action rest ih => exact and_congr (h s action hs) (ih _ (keeps s action hs))

theorem allowed_append (ok : State → Action → Prop) (s : State) (actions more : List Action) :
    Allowed step ok s (actions ++ more) ↔
      Allowed step ok s actions ∧ Allowed step ok (actions.foldl step s) more := by
  induction actions generalizing s with
  | nil => simp [Allowed]
  | cons action rest ih => simp [Allowed, ih, and_assoc]

theorem allowed_of_mem (ok : Action → Prop) (s : State) (actions : List Action)
    (h : ∀ action ∈ actions, ok action) : Allowed step (fun _ action => ok action) s actions := by
  induction actions generalizing s with
  | nil => trivial
  | cons action rest ih =>
    exact ⟨h action List.mem_cons_self, ih _ fun next hnext => h next (List.mem_cons_of_mem _ hnext)⟩

/-- Where one step that is given leaves the property true exactly when it is allowed, a run of such
steps has the property throughout exactly when all of them are. The invariant need not outlast the
property. -/
theorem run_given (given ok : State → Action → Prop) (invariant property : State → Prop)
    (keeps : ∀ s action, invariant s → property s → given s action → property (step s action) →
      invariant (step s action))
    (exact : ∀ s action, invariant s → property s → given s action →
      (property (step s action) ↔ ok s action))
    (s : State) (actions : List Action) (hs : invariant s) (hp : property s)
    (hgiven : Allowed step given s actions) :
    (∀ t ∈ states step s actions, property t) ↔ Allowed step ok s actions := by
  induction actions generalizing s with
  | nil => simpa [states, Allowed] using hp
  | cons action rest ih =>
    obtain ⟨hg, hrest⟩ := hgiven
    simp only [states, List.mem_cons, forall_eq_or_imp, Allowed]
    constructor
    · rintro ⟨-, h⟩
      have hnext : property (step s action) := h _ (by cases rest <;> simp [states])
      exact ⟨(exact s action hs hp hg).mp hnext,
        (ih _ (keeps s action hs hp hg hnext) hnext hrest).mp h⟩
    · rintro ⟨hok, h⟩
      have hnext := (exact s action hs hp hg).mpr hok
      exact ⟨hp, (ih _ (keeps s action hs hp hg hnext) hnext hrest).mpr h⟩

/-- Where a step has the property after it exactly when it is allowed and had it before, the last
state of a run tells whether all its steps were allowed. -/
theorem final_exact (given ok : State → Action → Prop) (invariant property : State → Prop)
    (exact : ∀ s action, invariant s → given s action → invariant (step s action) ∧
      (property (step s action) ↔ property s ∧ ok s action))
    (s : State) (actions : List Action) (hs : invariant s) (hgiven : Allowed step given s actions) :
    invariant (actions.foldl step s) ∧
      (property (actions.foldl step s) ↔ property s ∧ Allowed step ok s actions) := by
  induction actions generalizing s with
  | nil => exact ⟨hs, (and_iff_left trivial).symm⟩
  | cons action rest ih =>
    obtain ⟨hg, hrest⟩ := hgiven
    obtain ⟨hnext, hproperty⟩ := exact s action hs hg
    obtain ⟨hlast, hall⟩ := ih (step s action) hnext hrest
    exact ⟨hlast, hall.trans (by rw [hproperty, Allowed, and_assoc])⟩

theorem run_exact (ok : State → Action → Prop) (invariant property : State → Prop)
    (keeps : ∀ s action, invariant s → property s → property (step s action) →
      invariant (step s action))
    (exact : ∀ s action, invariant s → property s → (property (step s action) ↔ ok s action))
    (s : State) (actions : List Action) (hs : invariant s) (hp : property s) :
    (∀ t ∈ states step s actions, property t) ↔ Allowed step ok s actions :=
  run_given step (fun _ _ => True) ok invariant property
    (fun s action hi hp _ => keeps s action hi hp) (fun s action hi hp _ => exact s action hi hp)
    s actions hs hp (allowed_all step s actions)

theorem run_iff (ok : State → Action → Prop) (invariant property : State → Prop)
    (keeps : ∀ s action, invariant s → property s → invariant (step s action))
    (exact : ∀ s action, invariant s → property s → (property (step s action) ↔ ok s action))
    (s : State) (actions : List Action) (hs : invariant s) (hp : property s) :
    (∀ t ∈ states step s actions, property t) ↔ Allowed step ok s actions :=
  run_exact step ok invariant property (fun s action hi hp _ => keeps s action hi hp) exact s
    actions hs hp

end Glassbeetle.Runs
