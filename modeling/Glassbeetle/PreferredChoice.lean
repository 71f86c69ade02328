import Mathlib.Data.List.Basic

set_option autoImplicit false

/-!
# Choices by preference

Several tests are tried one after another, each on the whole list; what is
found first is an element of the best rank, the first one of that rank.
-/
namespace Glassbeetle.PreferredChoice

variable {α : Type}

def rank (tests : List (α → Bool)) (x : α) : ℕ := tests.findIdx (· x)

def choose (tests : List (α → Bool)) (xs : List α) : Option α :=
  tests.findSome? fun test => xs.find? test

structure FirstBest (rank : α → ℕ) (bound : ℕ) (xs : List α) (chosen : Option α) : Prop where
  missing : chosen = none → ∀ x ∈ xs, bound ≤ rank x
  found : ∀ x, chosen = some x → rank x < bound ∧ ∃ before after, xs = before ++ x :: after ∧
    (∀ y ∈ before, rank x < rank y) ∧ ∀ y ∈ after, rank x ≤ rank y

theorem firstBest_mem (rank : α → ℕ) (bound : ℕ) (xs : List α) (x : α)
    (h : FirstBest rank bound xs (some x)) : x ∈ xs := by
  obtain ⟨-, before, after, rfl, -⟩ := h.found x rfl
  exact List.mem_append_right _ List.mem_cons_self

theorem rank_cons_pos (test : α → Bool) (tests : List (α → Bool)) (x : α) (h : test x = true) :
    rank (test :: tests) x = 0 := by
  unfold rank
  rw [List.findIdx_cons, h]
  rfl

theorem rank_cons_neg (test : α → Bool) (tests : List (α → Bool)) (x : α) (h : test x = false) :
    rank (test :: tests) x = rank tests x + 1 := by
  unfold rank
  rw [List.findIdx_cons, h]
  rfl

theorem choose_firstBest (tests : List (α → Bool)) (xs : List α) :
    FirstBest (rank tests) tests.length xs (choose tests xs) := by
  induction tests with
  | nil => exact ⟨fun _ _ _ => Nat.zero_le _, fun _ h => (nomatch h)⟩
  | cons test tests ih =>
    unfold choose at ih ⊢
    rw [List.findSome?_cons]
    cases hfind : xs.find? test with
    | some x =>
      obtain ⟨hx, before, after, hsplit, hbefore⟩ := List.find?_eq_some_iff_append.mp hfind
      have hzero := rank_cons_pos test tests x hx
      refine ⟨nofun, fun x' h => ?_⟩
      obtain rfl := Option.some.inj h
      refine ⟨?_, before, after, hsplit, fun y hy => ?_, fun y _ => ?_⟩
      · rw [hzero]
        exact Nat.zero_lt_succ _
      · rw [hzero, rank_cons_neg test tests y (by simpa using hbefore y hy)]
        exact Nat.zero_lt_succ _
      · rw [hzero]
        exact Nat.zero_le _
    | none =>
      have hrank (y : α) (hy : y ∈ xs) : rank (test :: tests) y = rank tests y + 1 :=
        rank_cons_neg test tests y (by simpa using List.find?_eq_none.mp hfind y hy)
      refine ⟨fun h x hx => ?_, fun x h => ?_⟩
      · rw [hrank x hx]
        exact Nat.succ_le_succ (ih.missing h x hx)
      · obtain ⟨hlt, before, after, rfl, hbefore, hafter⟩ := ih.found x h
        have hx := hrank x (List.mem_append_right _ List.mem_cons_self)
        refine ⟨?_, before, after, rfl, fun y hy => ?_, fun y hy => ?_⟩
        · rw [hx]
          exact Nat.succ_lt_succ hlt
        · rw [hx, hrank y (List.mem_append_left _ hy)]
          exact Nat.succ_lt_succ (hbefore y hy)
        · rw [hx, hrank y (List.mem_append_right _ (List.mem_cons_of_mem _ hy))]
          exact Nat.succ_le_succ (hafter y hy)

end Glassbeetle.PreferredChoice
