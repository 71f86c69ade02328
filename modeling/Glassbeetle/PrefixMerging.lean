import Mathlib.Data.List.Sort
import Mathlib.Data.List.Perm.Basic

set_option autoImplicit false

namespace Glassbeetle.PrefixMerging

variable {α β : Type} (r : α → α → Prop)

/-- In some order the list is followed by the rest, and it has `k` members if there are as many. -/
structure Leads (k : ℕ) (first rest : List α) : Prop where
  ordered : (first ++ rest).Pairwise r
  short : first.length ≤ k
  full : rest = [] ∨ first.length = k

/-- The first `k` members in some order. -/
def Top (k : ℕ) (all first : List α) : Prop :=
  ∃ rest, (first ++ rest).Perm all ∧ Leads r k first rest

theorem Top.map (f : β → α) (k : ℕ) (all first : List β)
    (h : Top (fun a b => r (f a) (f b)) k all first) : Top r k (all.map f) (first.map f) := by
  obtain ⟨rest, hperm, hleads⟩ := h
  refine ⟨rest.map f, ?_, ?_, ?_, ?_⟩
  · rw [← List.map_append]
    exact hperm.map f
  · rw [← List.map_append, List.pairwise_map]
    exact hleads.ordered
  · rw [List.length_map]
    exact hleads.short
  · rw [List.length_map, List.map_eq_nil_iff]
    exact hleads.full

theorem Top.nil (k : ℕ) : Top r k [] [] :=
  ⟨[], .nil, .nil, Nat.zero_le k, .inl rfl⟩

section Merging

variable [DecidableRel r] [Std.Total r] [IsTrans α r]

omit [IsTrans α r] in
theorem ahead_count (k : ℕ) (sorted : List α) (hsorted : sorted.Pairwise r) (f : α)
    (hf : f ∈ sorted.take k) : sorted.countP (fun y => ¬r f y) < k := by
  obtain ⟨before, after, hsplit⟩ := List.append_of_mem hf
  have hlength : before.length < k := by
    have hle := List.length_take_le k sorted
    rw [hsplit, List.length_append, List.length_cons] at hle
    omega
  have hwhole : sorted = before ++ f :: (after ++ sorted.drop k) := by
    calc
      sorted = sorted.take k ++ sorted.drop k := (List.take_append_drop k sorted).symm
      _ = before ++ f :: (after ++ sorted.drop k) := by rw [hsplit, List.append_assoc, List.cons_append]
  rw [hwhole, List.pairwise_append] at hsorted
  have hnone : (f :: (after ++ sorted.drop k)).countP (fun y => ¬r f y) = 0 := by
    rw [List.countP_eq_zero]
    intro y hy
    rcases List.mem_cons.mp hy with rfl | hy
    · simpa using (Std.Total.total (r := r) y y).elim id id
    · simpa using (List.pairwise_cons.mp hsorted.2.1).1 y hy
  rw [hwhole, List.countP_append, hnone, Nat.add_zero]
  exact Nat.lt_of_le_of_lt List.countP_le_length hlength

theorem rest_after (k m : ℕ) (hkm : k ≤ m) (sorted first rest : List α)
    (hsorted : sorted.Pairwise r) (hfirst : first.Subperm sorted) (hleads : Leads r m first rest)
    (f x : α) (hf : f ∈ sorted.take k) (hx : x ∈ rest) : r f x := by
  by_contra hfx
  have hxf : r x f := (Std.Total.total (r := r) f x).resolve_left hfx
  have hfull : first.length = m := hleads.full.resolve_left (List.ne_nil_of_mem hx)
  have hall : first.countP (fun y => ¬r f y) = first.length := by
    rw [List.countP_eq_length]
    intro y hy
    have hyx := (List.pairwise_append.mp hleads.ordered).2.2 y hy x hx
    simp only [decide_eq_true_eq]
    exact fun hfy => hfx (IsTrans.trans f y x hfy hyx)
  have hcount := ahead_count r k sorted hsorted f hf
  have hle := hfirst.countP_le (fun y => decide ¬r f y)
  omega

theorem top_merged (k m : ℕ) (hkm : k ≤ m) (parts : List (List α × List α))
    (hparts : ∀ part ∈ parts, Leads r m part.1 part.2) :
    Top r k (parts.flatMap fun part => part.1 ++ part.2)
      (((parts.flatMap Prod.fst).insertionSort r).take k) := by
  let sorted := (parts.flatMap Prod.fst).insertionSort r
  have hsorted : sorted.Pairwise r := List.pairwise_insertionSort r _
  have hperm : sorted.Perm (parts.flatMap Prod.fst) := List.perm_insertionSort r _
  have hsub : ∀ part ∈ parts, part.1.Subperm sorted := by
    intro part hpart
    have hpiece : part.1.Sublist (parts.map Prod.fst).flatten :=
      List.sublist_flatten_of_mem (List.mem_map_of_mem hpart)
    exact hpiece.subperm.trans hperm.symm.subperm
  have hrest := List.perm_insertionSort r (sorted.drop k ++ parts.flatMap Prod.snd)
  refine ⟨(sorted.drop k ++ parts.flatMap Prod.snd).insertionSort r, ?_, ?_, ?_, ?_⟩
  · calc
      List.Perm _ (sorted.take k ++ (sorted.drop k ++ parts.flatMap Prod.snd)) := hrest.append_left _
      List.Perm _ (sorted ++ parts.flatMap Prod.snd) := by
        rw [← List.append_assoc, List.take_append_drop]
      List.Perm _ (parts.flatMap Prod.fst ++ parts.flatMap Prod.snd) := hperm.append_right _
      List.Perm _ (parts.flatMap fun part => part.1 ++ part.2) :=
        List.flatMap_append_perm parts Prod.fst Prod.snd
  · refine List.pairwise_append.mpr ⟨hsorted.sublist (List.take_sublist k sorted),
      List.pairwise_insertionSort r _, ?_⟩
    intro f hf x hx
    rw [hrest.mem_iff, List.mem_append, List.mem_flatMap] at hx
    rcases hx with hx | ⟨part, hpart, hx⟩
    · rw [← List.take_append_drop k sorted, List.pairwise_append] at hsorted
      exact hsorted.2.2 f hf x hx
    · exact rest_after r k m hkm sorted part.1 part.2 hsorted (hsub part hpart) (hparts part hpart) f x
        hf hx
  · exact List.length_take_le k sorted
  · by_cases hlong : k ≤ sorted.length
    · exact .inr (List.length_take_of_le hlong)
    · left
      have hdrop : sorted.drop k = [] := List.drop_eq_nil_of_le (Nat.le_of_not_le hlong)
      have hnone : parts.flatMap Prod.snd = [] := by
        rw [List.flatMap_eq_nil_iff]
        intro part hpart
        have hle := (hsub part hpart).length_le
        rcases (hparts part hpart).full with hnil | hfull
        · exact hnil
        · omega
      rw [hdrop, hnone]
      rfl

end Merging

end Glassbeetle.PrefixMerging
