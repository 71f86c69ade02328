import Mathlib.Algebra.BigOperators.Group.List.Basic
import Mathlib.Algebra.GroupWithZero.Nat

set_option autoImplicit false

/-!
# Fitting a list into a limit from its end

Items are dropped from the front while the total is over the limit and more
than one item is left.
-/
namespace Glassbeetle.SuffixFitting

variable {α : Type}

def total (base : ℕ) (cost : α → ℕ) (items : List α) : ℕ := base + (items.map cost).sum

def fit (base : ℕ) (cost : α → ℕ) (limit : ℕ) : List α → List (α × ℕ) × List α
  | item :: next :: rest =>
    if limit < total base cost (item :: next :: rest) then
      let after := fit base cost limit (next :: rest)
      ((item, total base cost (item :: next :: rest)) :: after.1, after.2)
    else ([], item :: next :: rest)
  | items => ([], items)

theorem fit_append (base : ℕ) (cost : α → ℕ) (limit : ℕ) (items : List α) :
    (fit base cost limit items).1.map Prod.fst ++ (fit base cost limit items).2 = items := by
  fun_induction fit base cost limit items with
  | case1 item next rest above after ih => simpa using ih
  | case2 item next rest fits => rfl
  | case3 items short => rfl

theorem fit_end (base : ℕ) (cost : α → ℕ) (limit : ℕ) (items : List α) :
    total base cost (fit base cost limit items).2 ≤ limit ∨
      (fit base cost limit items).2 = items.drop (items.length - 1) := by
  fun_induction fit base cost limit items with
  | case1 item next rest above after ih =>
    refine ih.imp_right fun h => ?_
    change after.2 = _
    rw [h]
    simp
  | case2 item next rest fits => exact .inl (Nat.not_lt.mp fits)
  | case3 items short =>
    match items, short with
    | [], _ => exact .inr rfl
    | [item], _ => exact .inr rfl
    | item :: next :: rest, short => exact absurd rfl (short item next rest)

theorem fit_longest (base : ℕ) (cost : α → ℕ) (limit : ℕ) (items other : List α)
    (hs : other <:+ items) (hf : total base cost other ≤ limit) :
    other.length ≤ (fit base cost limit items).2.length := by
  fun_induction fit base cost limit items with
  | case1 item next rest above after ih =>
    rcases List.suffix_cons_iff.mp hs with rfl | hs
    · exact absurd hf (Nat.not_le.mpr above)
    · exact ih hs
  | case2 item next rest fits => exact hs.length_le
  | case3 items short => exact hs.length_le

theorem total_suffix (base : ℕ) (cost : α → ℕ) (items other : List α) (h : other <:+ items) :
    total base cost other ≤ total base cost items := by
  obtain ⟨before, rfl⟩ := h
  simp only [total, List.map_append, List.sum_append]
  omega

theorem last_kept (base : ℕ) (cost : α → ℕ) (limit : ℕ) (items : List α) :
    items.drop (items.length - 1) <:+ (fit base cost limit items).2 := by
  fun_induction fit base cost limit items with
  | case1 item next rest above after ih =>
    have hd : (item :: next :: rest).drop ((item :: next :: rest).length - 1) =
        (next :: rest).drop ((next :: rest).length - 1) := by simp
    rw [hd]
    exact ih
  | case2 item next rest fits => exact List.drop_suffix _ _
  | case3 items short => exact List.drop_suffix _ _

theorem fit_over (base : ℕ) (cost : α → ℕ) (limit : ℕ) (items : List α) :
    limit < total base cost (fit base cost limit items).2 ↔
      limit < total base cost (items.drop (items.length - 1)) := by
  constructor
  · intro h
    rcases fit_end base cost limit items with hf | hf
    · omega
    · rwa [← hf]
  · intro h
    exact Nat.lt_of_lt_of_le h (total_suffix _ _ _ _ (last_kept base cost limit items))

end Glassbeetle.SuffixFitting
