import Glassbeetle.Transactions

set_option autoImplicit false

/-!
# Steps that a ledger records

A runner takes the steps that its ledger does not hold, in order, each in a transaction that writes
the record too. Runs may stop anywhere; a later one goes on from there.
-/
namespace Glassbeetle.LedgeredSteps
open Transactions

variable {σ ν ω ε : Type} (applied : σ → ν → Bool)

/-- `attempt` is what one transaction came to. -/
def runSteps (attempt : ν → σ → Except ε Unit × σ) : List ν → σ → Except ε Unit × σ
  | [], s => (.ok (), s)
  | name :: rest, s =>
    if applied s name then runSteps attempt rest s
    else
      match attempt name s with
      | (.ok (), after) => runSteps attempt rest after
      | (.error e, after) => (.error e, after)

-- `effect name moment s after`: the step takes `s` to `after` when it commits at that moment.
variable (effect : ν → ω → σ → σ → Prop)

def Whole (attempt : ν → σ → Except ε Unit × σ) : Prop :=
  ∀ name s, Atomic (fun s _ after => ∃ moment, effect name moment s after) s (attempt name s)

inductive Brought : List ν → σ → σ → Prop
  | done (s : σ) : Brought [] s s
  | skip (name : ν) (rest : List ν) (s t : σ) (happlied : applied s name = true)
      (hrest : Brought rest s t) : Brought (name :: rest) s t
  | take (name : ν) (rest : List ν) (s u t : σ) (moment : ω) (hmissing : applied s name = false)
      (htake : effect name moment s u) (hrest : Brought rest u t) : Brought (name :: rest) s t

theorem runSteps_skip (attempt : ν → σ → Except ε Unit × σ) (name : ν) (rest : List ν) (s : σ)
    (h : applied s name = true) :
    runSteps applied attempt (name :: rest) s = runSteps applied attempt rest s := by
  rw [runSteps, if_pos h]

theorem runSteps_invariant (attempt : ν → σ → Except ε Unit × σ) (invariant : σ → Prop)
    (hattempt : Whole effect attempt)
    (names : List ν) (keeps : ∀ name ∈ names, ∀ moment s after, invariant s →
      effect name moment s after → invariant after)
    (s : σ) (hs : invariant s) : invariant (runSteps applied attempt names s).2 := by
  induction names generalizing s with
  | nil => exact hs
  | cons name rest ih =>
    simp only [List.mem_cons, forall_eq_or_imp] at keeps
    unfold runSteps
    split
    · exact ih keeps.2 s hs
    · have hwhole := hattempt name s
      split
      · next after hrun =>
        rw [hrun] at hwhole
        obtain ⟨moment, htake⟩ := hwhole
        exact ih keeps.2 after (keeps.1 moment s after hs htake)
      · next e after hrun =>
        rw [hrun] at hwhole
        obtain rfl : after = s := hwhole
        exact hs

theorem runSteps_through (attempt : ν → σ → Except ε Unit × σ) (invariant : σ → Prop)
    (names : List ν) (hattempt : ∀ name ∈ names, ∀ s, invariant s → applied s name = false →
      ∃ after, attempt name s = (.ok (), after) ∧ invariant after)
    (s : σ) (hs : invariant s) : ∃ t, runSteps applied attempt names s = (.ok (), t) := by
  induction names generalizing s with
  | nil => exact ⟨s, rfl⟩
  | cons name rest ih =>
    simp only [List.mem_cons, forall_eq_or_imp] at hattempt
    cases happlied : applied s name with
    | true =>
      rw [runSteps_skip applied attempt name rest s happlied]
      exact ih hattempt.2 s hs
    | false =>
      obtain ⟨after, hrun, hafter⟩ := hattempt.1 s hs happlied
      simp only [runSteps, happlied, Bool.false_eq_true, if_false, hrun]
      exact ih hattempt.2 after hafter

theorem runSteps_brought (attempt : ν → σ → Except ε Unit × σ) (hattempt : Whole effect attempt)
    (names : List ν) (s : σ) (h : (runSteps applied attempt names s).1 = .ok ()) :
    Brought applied effect names s (runSteps applied attempt names s).2 := by
  induction names generalizing s with
  | nil => exact .done s
  | cons name rest ih =>
    unfold runSteps at h ⊢
    by_cases happlied : applied s name = true
    · simp only [happlied, if_true] at h ⊢
      exact .skip name rest s _ happlied (ih s h)
    · simp only [happlied] at h ⊢
      have hwhole := hattempt name s
      rcases hrun : attempt name s with ⟨_ | _, after⟩
      · simp [hrun] at h
      · simp only [hrun, Bool.false_eq_true, if_false] at h hwhole ⊢
        obtain ⟨moment, htake⟩ := hwhole
        exact .take name rest s after _ moment (by simpa using happlied) htake (ih after h)

theorem brought_run (attempt : ν → σ → Except ε Unit × σ)
    (htake : ∀ name moment s after, effect name moment s after → attempt name s = (.ok (), after))
    (names : List ν) (s t : σ) (h : Brought applied effect names s t) :
    runSteps applied attempt names s = (.ok (), t) := by
  induction h with
  | done _ => rfl
  | skip name rest s t happlied _ ih => rw [runSteps_skip applied attempt name rest s happlied, ih]
  | take name rest s u t moment hmissing heffect _ ih =>
    simp only [runSteps, hmissing, Bool.false_eq_true, if_false, htake name moment s u heffect, ih]

theorem brought_imp (other : ν → ω → σ → σ → Prop) (names : List ν) (s t : σ)
    (himp : ∀ name ∈ names, ∀ moment s after, effect name moment s after →
      other name moment s after)
    (h : Brought applied effect names s t) : Brought applied other names s t := by
  induction h with
  | done s => exact .done s
  | skip name rest s t happlied _ ih =>
    simp only [List.mem_cons, forall_eq_or_imp] at himp
    exact .skip name rest s t happlied (ih himp.2)
  | take name rest s u t moment hmissing heffect _ ih =>
    simp only [List.mem_cons, forall_eq_or_imp] at himp
    exact .take name rest s u t moment hmissing (himp.1 moment s u heffect) (ih himp.2)

section Ledger

variable (records : ∀ name moment s after, effect name moment s after → applied after name = true)
  (retains : ∀ name moment s after other, effect name moment s after → applied s other = true →
    applied after other = true)
include retains

theorem brought_retains (names : List ν) (s t : σ) (h : Brought applied effect names s t)
    (other : ν) (hs : applied s other = true) : applied t other = true := by
  induction h with
  | done _ => exact hs
  | skip name rest s t _ _ ih => exact ih hs
  | take name rest s u t moment _ htake _ ih => exact ih (retains name moment s u other htake hs)

theorem runSteps_retains (attempt : ν → σ → Except ε Unit × σ) (hattempt : Whole effect attempt)
    (names : List ν) (s : σ) (other : ν) (hs : applied s other = true) :
    applied (runSteps applied attempt names s).2 other = true :=
  runSteps_invariant applied effect attempt (fun s => applied s other = true) hattempt
    names (fun name _ moment s after h htake => retains name moment s after other htake h) s hs

include records

theorem brought_applied (names : List ν) (s t : σ) (h : Brought applied effect names s t) :
    ∀ name ∈ names, applied t name = true := by
  induction h with
  | done _ => simp
  | skip name rest s t happlied hrest ih =>
    simp only [List.mem_cons, forall_eq_or_imp]
    exact ⟨brought_retains applied effect retains rest s t hrest name happlied, ih⟩
  | take name rest s u t moment _ htake hrest ih =>
    simp only [List.mem_cons, forall_eq_or_imp]
    exact ⟨brought_retains applied effect retains rest u t hrest name
      (records name moment s u htake), ih⟩

/-- What one run left is resumed by the next. The induction is on the steps: one that stopped the
earlier run left the state as it found it, and one that did not is skipped now. -/
theorem resume (attempt : ν → σ → Except ε Unit × σ) (hattempt : Whole effect attempt)
    (names : List ν) (s t : σ)
    (h : Brought applied effect names (runSteps applied attempt names s).2 t) :
    Brought applied effect names s t := by
  induction names generalizing s with
  | nil => exact h
  | cons name rest ih =>
    unfold runSteps at h
    by_cases happlied : applied s name = true
    · simp only [happlied, if_true] at h
      have hkept := runSteps_retains applied effect retains attempt hattempt rest s name happlied
      cases h with
      | skip _ _ _ _ _ hrest => exact .skip name rest s t happlied (ih s hrest)
      | take _ _ _ _ _ _ hmissing => simp [hkept] at hmissing
    · have hmissing : applied s name = false := by simpa using happlied
      have hwhole := hattempt name s
      simp only [happlied] at h
      rcases hrun : attempt name s with ⟨_ | _, after⟩
      · rw [hrun] at hwhole
        obtain rfl : after = s := hwhole
        simpa [hrun] using h
      · simp only [hrun, Bool.false_eq_true, if_false] at h hwhole
        obtain ⟨moment, htake⟩ := hwhole
        have hkept := runSteps_retains applied effect retains attempt hattempt rest after name
          (records name moment s after htake)
        cases h with
        | skip _ _ _ _ _ hrest => exact .take name rest s after t moment hmissing htake (ih after hrest)
        | take _ _ _ _ _ _ hmissing => simp [hkept] at hmissing

end Ledger

theorem runSteps_applied (attempt : ν → σ → Except ε Unit × σ) (names : List ν) (s : σ)
    (h : ∀ name ∈ names, applied s name = true) :
    runSteps applied attempt names s = (.ok (), s) := by
  induction names with
  | nil => rfl
  | cons name rest ih =>
    simp only [List.mem_cons, forall_eq_or_imp] at h
    rw [runSteps_skip applied attempt name rest s h.1, ih h.2]

end Glassbeetle.LedgeredSteps
