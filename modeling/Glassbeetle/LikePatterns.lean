import Mathlib.Data.List.Infix
import Mathlib.Data.List.TakeWhile

set_option autoImplicit false

/-!
# LIKE patterns

One wildcard stands for any text, one for any character, and an escape makes the
character after it literal. Characters are compared up to a folding.
-/
namespace Glassbeetle.LikePatterns

variable {α : Type} [DecidableEq α]

structure Dialect (α : Type) where
  any : α
  one : α
  escape : α
  fold : α → α

variable (dialect : Dialect α)

/-- `next` is whether the rest of a pattern matches. -/
def oneThen (accepts : α → Bool) (next : List α → Bool) : List α → Bool
  | [] => false
  | c :: text => accepts c && next text

def like : List α → List α → Bool
  | [], text => text.isEmpty
  | p :: rest, text =>
    if p = dialect.any then text.tails.any (like rest)
    else if p = dialect.escape then
      match rest with
      | [] => false
      | literal :: rest => oneThen (fun c => dialect.fold c = dialect.fold literal) (like rest) text
    else oneThen (fun c => p = dialect.one || dialect.fold c = dialect.fold p) (like rest) text

def Dialect.special (c : α) : Prop := c = dialect.any ∨ c = dialect.one ∨ c = dialect.escape

instance (c : α) : Decidable (dialect.special c) :=
  inferInstanceAs (Decidable (c = dialect.any ∨ c = dialect.one ∨ c = dialect.escape))

def escaped (text : List α) : List α :=
  text.flatMap fun c => if dialect.special c then [dialect.escape, c] else [c]

theorem escaped_cons (c : α) (text : List α) :
    escaped dialect (c :: text) =
      if dialect.special c then dialect.escape :: c :: escaped dialect text
      else c :: escaped dialect text := by
  rw [escaped, List.flatMap_cons]
  split_ifs <;> rfl

theorem like_literal (hescape : dialect.escape ≠ dialect.any) (c : α) (literal rest text : List α) :
    like dialect (escaped dialect (c :: literal) ++ rest) text = true ↔
      ∃ d tail, text = d :: tail ∧ dialect.fold d = dialect.fold c ∧
        like dialect (escaped dialect literal ++ rest) tail = true := by
  rw [escaped_cons]
  by_cases hc : dialect.special c
  · rw [if_pos hc, List.cons_append, List.cons_append, like, if_neg hescape, if_pos rfl]
    cases text with
    | nil => simp [oneThen]
    | cons d tail => simp [oneThen, and_assoc]
  · have hany : c ≠ dialect.any := fun h => hc (.inl h)
    have hone : c ≠ dialect.one := fun h => hc (.inr (.inl h))
    rw [if_neg hc, List.cons_append, like.eq_def]
    dsimp only
    rw [if_neg hany, if_neg fun h => hc (.inr (.inr h))]
    cases text with
    | nil => simp [oneThen]
    | cons d tail => simp [oneThen, hone]

/-- A text starts with one up to folding, and the pattern matches what follows. -/
theorem like_escaped (hescape : dialect.escape ≠ dialect.any) (literal rest text : List α) :
    like dialect (escaped dialect literal ++ rest) text = true ↔
      ∃ front tail, text = front ++ tail ∧ front.map dialect.fold = literal.map dialect.fold ∧
        like dialect rest tail = true := by
  induction literal generalizing text with
  | nil =>
    constructor
    · exact fun h => ⟨[], text, rfl, rfl, h⟩
    · rintro ⟨front, tail, rfl, hfront, h⟩
      rw [List.map_nil, List.map_eq_nil_iff] at hfront
      rw [hfront]
      exact h
  | cons c literal ih =>
    rw [like_literal dialect hescape]
    constructor
    · rintro ⟨d, tail, rfl, hd, h⟩
      obtain ⟨front, tail, rfl, hfront, h⟩ := (ih tail).mp h
      exact ⟨d :: front, tail, rfl, by rw [List.map_cons, List.map_cons, hd, hfront], h⟩
    · rintro ⟨front, tail, rfl, hfront, h⟩
      cases front with
      | nil => cases hfront
      | cons d front =>
        obtain ⟨hd, hfront⟩ := List.cons.inj hfront
        exact ⟨d, front ++ tail, rfl, hd, (ih _).mpr ⟨front, tail, rfl, hfront, h⟩⟩

theorem like_any (rest text : List α) :
    like dialect (dialect.any :: rest) text = true ↔
      ∃ front tail, text = front ++ tail ∧ like dialect rest tail = true := by
  rw [like.eq_def]
  dsimp only
  rw [if_pos rfl, List.any_eq_true]
  constructor
  · rintro ⟨tail, htail, h⟩
    obtain ⟨front, rfl⟩ := (List.mem_tails _ _).mp htail
    exact ⟨front, tail, rfl, h⟩
  · rintro ⟨front, tail, rfl, h⟩
    exact ⟨tail, (List.mem_tails _ _).mpr (List.suffix_append front tail), h⟩

/-- Between two wildcards an escaped text matches just where it occurs, up to folding. -/
theorem like_contains (hescape : dialect.escape ≠ dialect.any) (literal text : List α) :
    like dialect (dialect.any :: (escaped dialect literal ++ [dialect.any])) text = true ↔
      literal.map dialect.fold <:+: text.map dialect.fold := by
  rw [like_any]
  constructor
  · rintro ⟨front, tail, rfl, h⟩
    obtain ⟨middle, back, rfl, hmiddle, -⟩ := (like_escaped dialect hescape literal _ tail).mp h
    rw [List.map_append, List.map_append, hmiddle, ← List.append_assoc]
    exact List.infix_append _ _ _
  · rintro ⟨front, back, h⟩
    obtain ⟨start, tail, rfl, hstart, htail⟩ := List.map_eq_append_iff.mp h.symm
    obtain ⟨first, middle, rfl, hfirst, hmiddle⟩ := List.map_eq_append_iff.mp hstart
    refine ⟨first, middle ++ tail, List.append_assoc _ _ _, ?_⟩
    refine (like_escaped dialect hescape literal _ _).mpr ⟨middle, tail, rfl, hmiddle, ?_⟩
    exact (like_any dialect [] tail).mpr ⟨tail, [], (List.append_nil tail).symm, rfl⟩

end Glassbeetle.LikePatterns
