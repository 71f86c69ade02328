import Mathlib.Data.List.Sort
import Mathlib.Data.Finset.Card
import Mathlib.Data.Finset.Dedup

set_option autoImplicit false

namespace Glassbeetle.CanonicalLists

variable {α : Type} [DecidableEq α] (r : α → α → Prop) [DecidableRel r]

/-- `Array.from(new Set(xs)).sort()` -/
def canonical (xs : List α) : List α := xs.eraseDups.insertionSort r

def Before (a b : α) : Prop := r a b ∧ a ≠ b

instance : DecidableRel (Before r) := fun a b => inferInstanceAs (Decidable (r a b ∧ a ≠ b))

instance : Std.Irrefl (Before r) := ⟨fun _ h => h.2 rfl⟩

instance [Std.Antisymm r] : Std.Antisymm (Before r) := ⟨fun a b h h' => Std.Antisymm.antisymm a b h.1 h'.1⟩

theorem nodup_eraseDups (n : ℕ) (xs : List α) (h : xs.length ≤ n) : xs.eraseDups.Nodup := by
  induction n generalizing xs with
  | zero =>
    rw [List.length_eq_zero_iff.mp (Nat.le_zero.mp h)]
    exact List.nodup_nil
  | succ n ih =>
    cases xs with
    | nil => exact List.nodup_nil
    | cons a rest =>
      rw [List.eraseDups_cons]
      refine List.nodup_cons.mpr ⟨fun hin => ?_, ih _ ?_⟩
      · have hne := (List.mem_filter.mp (List.mem_eraseDups.mp hin)).2
        simp at hne
      · exact (List.length_filter_le _ _).trans (Nat.le_of_succ_le_succ h)

theorem mem_canonical (xs : List α) (x : α) : x ∈ canonical r xs ↔ x ∈ xs :=
  (List.mem_insertionSort r).trans List.mem_eraseDups

section Total
variable [Std.Total r] [IsTrans α r]

theorem canonical_sorted (xs : List α) : (canonical r xs).Pairwise (Before r) := by
  have hnodup : (canonical r xs).Nodup :=
    (List.perm_insertionSort r _).nodup_iff.mpr (nodup_eraseDups xs.length xs (Nat.le_refl _))
  exact (List.pairwise_insertionSort r _).imp₂ (fun _ _ h h' => ⟨h, h'⟩) hnodup

variable [Std.Antisymm r]

theorem canonical_ext (xs ys : List α) (h : ∀ x, x ∈ xs ↔ x ∈ ys) :
    canonical r xs = canonical r ys :=
  (canonical_sorted r xs).eq_of_mem_iff (canonical_sorted r ys) fun x =>
    (mem_canonical r xs x).trans ((h x).trans (mem_canonical r ys x).symm)

theorem canonical_of_sorted (xs : List α) (h : xs.Pairwise (Before r)) : canonical r xs = xs :=
  (canonical_sorted r xs).eq_of_mem_iff h (mem_canonical r xs)

end Total

/-- The first `n` of a sorted list are those that fewer than `n` come before. -/
theorem mem_take (xs : List α) [Std.Antisymm r] (h : xs.Pairwise (Before r)) (n : ℕ)
    (x : α) : x ∈ xs.take n ↔ x ∈ xs ∧ (xs.filter (Before r · x)).length < n := by
  induction xs generalizing n with
  | nil => simp
  | cons a rest ih =>
    obtain ⟨hfirst, hrest⟩ := List.pairwise_cons.mp h
    cases n with
    | zero => simp
    | succ n =>
      rw [List.take_succ_cons, List.mem_cons, List.mem_cons, ih hrest]
      by_cases hx : x = a
      · have hnone : (a :: rest).filter (Before r · x) = [] := by
          refine List.filter_eq_nil_iff.mpr fun b hb => ?_
          rw [decide_eq_true_eq, hx]
          rintro ⟨hba, hne⟩
          rcases List.mem_cons.mp hb with rfl | hb
          · exact hne rfl
          · exact hne (Std.Antisymm.antisymm b a hba (hfirst b hb).1)
        rw [hnone]
        exact ⟨fun _ => ⟨.inl hx, Nat.succ_pos n⟩, fun _ => .inl hx⟩
      · have hcons : x ∈ rest → ((a :: rest).filter (Before r · x)).length =
            (rest.filter (Before r · x)).length + 1 := by
          intro hin
          rw [List.filter_cons, if_pos (decide_eq_true (hfirst x hin)), List.length_cons]
        constructor
        · rintro (heq | ⟨hin, hcount⟩)
          · exact absurd heq hx
          · rw [hcons hin]
            exact ⟨.inr hin, Nat.succ_lt_succ hcount⟩
        · rintro ⟨heq | hin, hcount⟩
          · exact absurd heq hx
          · rw [hcons hin] at hcount
            exact .inr ⟨hin, Nat.lt_of_succ_lt_succ hcount⟩

end Glassbeetle.CanonicalLists
