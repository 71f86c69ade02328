import Mathlib.Data.List.Lex

set_option autoImplicit false

namespace Glassbeetle.ListOrder

variable {α β : Type} [LT α]

theorem append_lt (x y u v : List α) (hlength : x.length = y.length) (h : x < y) :
    x ++ u < y ++ v := by
  induction h with
  | nil => exact absurd hlength (Nat.zero_ne_add_one _)
  | cons _ ih => exact List.Lex.cons (ih (Nat.succ.inj hlength))
  | rel hlt => exact List.Lex.rel hlt

theorem insert_lt (n : ℕ) (x y z u v : List α) (hlength : x.length = y.length) (h : x < y) :
    x.take n ++ (z ++ (x.drop n ++ u)) < y.take n ++ (z ++ (y.drop n ++ v)) := by
  induction n generalizing x y with
  | zero =>
    simp only [List.take_zero, List.drop_zero, List.nil_append]
    exact List.append_left_lt (append_lt x y u v hlength h)
  | succ n ih =>
    cases h with
    | nil => exact absurd hlength (Nat.zero_ne_add_one _)
    | cons htail => exact List.Lex.cons (ih _ _ (Nat.succ.inj hlength) htail)
    | rel hlt => exact List.Lex.rel hlt

/-- Lists are ordered as their elements are written, if these are ordered so. -/
theorem flatMap_lt [LT β] (f : α → List β) (hlength : ∀ a b, (f a).length = (f b).length)
    (hf : ∀ a b, a < b → f a < f b) (x y : List α) (hxy : x.length = y.length) (h : x < y) :
    x.flatMap f < y.flatMap f := by
  induction h with
  | nil => exact absurd hxy (Nat.zero_ne_add_one _)
  | cons _ ih =>
    rw [List.flatMap_cons, List.flatMap_cons]
    exact List.append_left_lt (ih (Nat.succ.inj hxy))
  | rel hlt =>
    rw [List.flatMap_cons, List.flatMap_cons]
    exact append_lt _ _ _ _ (hlength _ _) (hf _ _ hlt)

theorem pair_lt (a b c d : α) (h : a < c ∨ a = c ∧ b < d) : [a, b] < [c, d] := by
  rcases h with hfirst | ⟨rfl, hsecond⟩
  · exact List.Lex.rel hfirst
  · exact List.Lex.cons (List.Lex.rel hsecond)

end Glassbeetle.ListOrder
