import Mathlib.Data.Nat.Notation

set_option autoImplicit false

/-!
# Transactions

Statements that may fail, transactions that leave nothing behind when one does,
and a loop that tries a transaction again.
-/
namespace Glassbeetle.Transactions

variable {σ ε α β : Type}

def statement (fault : Option ε) (effect : StateT σ (Except ε) α) : StateT σ (Except ε) α :=
  fun s => match fault with
    | some e => .error e
    | none => effect s

def autocommit (effect : StateT σ (Except ε) α) (s : σ) : Except ε α × σ :=
  match effect s with
  | .ok (a, after) => (.ok a, after)
  | .error e => (.error e, s)

def transaction (beginFault commitFault : Option ε) (body : StateT σ (Except ε) α) (s : σ) :
    Except ε α × σ :=
  autocommit (do
    statement beginFault (pure ())
    let a ← body
    statement commitFault (pure ())
    return a) s

/-- Tries once more after an error that allows it, `left` times at most. -/
def retry (again : ε → Bool) (attempt : ℕ → σ → Except ε α × σ) : ℕ → ℕ → σ → Except ε α × σ
  | 0, n, s => attempt n s
  | left + 1, n, s =>
    match attempt n s with
    | (.error e, after) =>
      if again e then retry again attempt left (n + 1) after else (.error e, after)
    | (.ok a, after) => (.ok a, after)

def settle {ε' : Type} (answer : α → β) (failure : ε → ε') : Except ε α × σ → Except ε' β × σ
  | (.ok a, after) => (.ok (answer a), after)
  | (.error e, after) => (.error (failure e), after)

def Atomic (post : σ → α → σ → Prop) (s : σ) (outcome : Except ε α × σ) : Prop :=
  match outcome with
  | (.error _, after) => after = s
  | (.ok a, after) => post s a after

theorem statement_ok (fault : Option ε) (effect : StateT σ (Except ε) α) (s : σ) (a : α) (after : σ)
    (h : statement fault effect s = .ok (a, after)) : fault = none ∧ effect s = .ok (a, after) := by
  cases fault with
  | some e => cases h
  | none => exact ⟨rfl, h⟩

theorem bind_ok (first : StateT σ (Except ε) α) (next : α → StateT σ (Except ε) β) (s : σ) (b : β)
    (after : σ) (h : (first >>= next) s = .ok (b, after)) :
    ∃ a mid, first s = .ok (a, mid) ∧ next a mid = .ok (b, after) := by
  change (first s >>= fun p => next p.1 p.2) = .ok (b, after) at h
  cases hfirst : first s with
  | error e =>
    rw [hfirst] at h
    cases h
  | ok p =>
    rw [hfirst] at h
    exact ⟨p.1, p.2, rfl, h⟩

theorem pure_ok (a b : α) (s after : σ) (h : (pure a : StateT σ (Except ε) α) s = .ok (b, after)) :
    a = b ∧ s = after := Prod.mk.inj (Except.ok.inj h)

theorem autocommit_atomic (post : σ → α → σ → Prop) (effect : StateT σ (Except ε) α) (s : σ)
    (h : ∀ a after, effect s = .ok (a, after) → post s a after) :
    Atomic post s (autocommit effect s) := by
  unfold autocommit
  cases heffect : effect s with
  | error e => rfl
  | ok p => exact h p.1 p.2 heffect

theorem transaction_atomic (post : σ → α → σ → Prop) (beginFault commitFault : Option ε)
    (body : StateT σ (Except ε) α) (s : σ)
    (h : ∀ a after, body s = .ok (a, after) → post s a after) :
    Atomic post s (transaction beginFault commitFault body s) := by
  refine autocommit_atomic post _ s fun a after hrun => ?_
  obtain ⟨_, _, hbegin, hrun⟩ := bind_ok _ _ s a after hrun
  obtain ⟨b, mid, hbody, hrun⟩ := bind_ok _ _ _ a after hrun
  obtain ⟨_, _, hcommit, hrun⟩ := bind_ok _ _ _ a after hrun
  obtain ⟨-, rfl⟩ := pure_ok _ _ s _ (statement_ok _ _ _ _ _ hbegin).2
  obtain ⟨-, rfl⟩ := pure_ok _ _ mid _ (statement_ok _ _ _ _ _ hcommit).2
  obtain ⟨rfl, rfl⟩ := pure_ok b a mid after hrun
  exact h b mid hbody

/-- The induction is on the attempts left; each of them starts from the same state. -/
theorem retry_within (post : σ → α → σ → Prop) (again : ε → Bool)
    (attempt : ℕ → σ → Except ε α × σ) (s : σ) (left n : ℕ)
    (h : ∀ k, n ≤ k → k ≤ n + left → Atomic post s (attempt k s)) :
    Atomic post s (retry again attempt left n s) := by
  induction left generalizing n with
  | zero => exact h n (Nat.le_refl n) (Nat.le_refl n)
  | succ left ih =>
    have hn := h n (Nat.le_refl n) (Nat.le_add_right n _)
    unfold retry
    match hattempt : attempt n s with
    | (.ok a, after) =>
      rw [hattempt] at hn
      exact hn
    | (.error e, after) =>
      rw [hattempt] at hn
      obtain rfl : after = s := hn
      dsimp only
      by_cases hagain : again e = true
      · rw [if_pos hagain]
        exact ih (n + 1) fun k hlow hhigh => h k (by omega) (by omega)
      · rw [if_neg hagain]
        rfl

theorem retry_atomic (post : σ → α → σ → Prop) (again : ε → Bool)
    (attempt : ℕ → σ → Except ε α × σ) (s : σ) (h : ∀ n, Atomic post s (attempt n s))
    (left n : ℕ) : Atomic post s (retry again attempt left n s) :=
  retry_within post again attempt s left n fun k _ _ => h k

theorem settle_atomic {ε' : Type} (post : σ → α → σ → Prop) (answer : α → β) (failure : ε → ε')
    (s : σ) (outcome : Except ε α × σ) (h : Atomic post s outcome) :
    Atomic (fun s b after => ∃ a, b = answer a ∧ post s a after) s (settle answer failure outcome) := by
  match outcome, h with
  | (.error _, _), h => exact h
  | (.ok a, _), h => exact ⟨a, rfl, h⟩

theorem atomic_state (post : σ → α → σ → Prop) (s : σ) (outcome : Except ε α × σ)
    (h : Atomic post s outcome) : outcome.2 = s ∨ ∃ a, outcome.1 = .ok a ∧ post s a outcome.2 := by
  match outcome, h with
  | (.error _, _), h => exact .inl h
  | (.ok a, _), h => exact .inr ⟨a, rfl, h⟩

end Glassbeetle.Transactions
