import Mathlib.Data.List.Lex
import Mathlib.Data.List.Nodup
import Mathlib.Order.Lattice

set_option autoImplicit false

/-!
# Pages of a sorted listing

Rows are sorted by terms, each a key and a direction. Where the terms leave a
tie the order of the rows is anybody's choice, and may change from one page to
the next.
-/
namespace Glassbeetle.SortedPages

variable {α κ : Type} [LinearOrder κ]

structure Term (α κ : Type) where
  key : α → κ
  descending : Bool

def Term.Before (term : Term α κ) (x y : α) : Prop :=
  if term.descending then term.key y < term.key x else term.key x < term.key y

def Ordered : List (Term α κ) → α → α → Prop
  | [], _, _ => True
  | term :: rest, x, y => term.Before x y ∨ term.key x = term.key y ∧ Ordered rest x y

instance (term : Term α κ) (x y : α) : Decidable (term.Before x y) :=
  inferInstanceAs (Decidable (if term.descending then term.key y < term.key x
    else term.key x < term.key y))

instance decidableOrdered : (terms : List (Term α κ)) → (x y : α) → Decidable (Ordered terms x y)
  | [], _, _ => inferInstanceAs (Decidable True)
  | term :: rest, x, y =>
    have := decidableOrdered rest x y
    inferInstanceAs (Decidable (term.Before x y ∨ term.key x = term.key y ∧ Ordered rest x y))

theorem before_trans (term : Term α κ) (x y z : α) (hxy : term.Before x y) (hyz : term.Before y z) :
    term.Before x z := by
  unfold Term.Before at hxy hyz ⊢
  split_ifs at hxy hyz ⊢
  · exact hyz.trans hxy
  · exact hxy.trans hyz

theorem before_congr (term : Term α κ) (x x' y y' : α) (hx : term.key x = term.key x')
    (hy : term.key y = term.key y') : term.Before x y ↔ term.Before x' y' := by
  unfold Term.Before
  rw [hx, hy]

theorem before_asymm (term : Term α κ) (x y : α) (hxy : term.Before x y) : ¬term.Before y x := by
  unfold Term.Before at hxy ⊢
  split_ifs at hxy ⊢
  · exact lt_asymm hxy
  · exact lt_asymm hxy

theorem before_ne (term : Term α κ) (x y : α) (hxy : term.Before x y) : term.key x ≠ term.key y := by
  unfold Term.Before at hxy
  split_ifs at hxy
  · exact hxy.ne'
  · exact hxy.ne

theorem before_total (term : Term α κ) (x y : α) :
    term.Before x y ∨ term.key x = term.key y ∨ term.Before y x := by
  unfold Term.Before
  split_ifs
  · rcases lt_trichotomy (term.key y) (term.key x) with h | h | h
    · exact .inl h
    · exact .inr (.inl h.symm)
    · exact .inr (.inr h)
  · exact lt_trichotomy (term.key x) (term.key y)

theorem ordered_trans (terms : List (Term α κ)) (x y z : α) (hxy : Ordered terms x y)
    (hyz : Ordered terms y z) : Ordered terms x z := by
  induction terms with
  | nil => trivial
  | cons term rest ih =>
    rcases hxy with hxy | ⟨hxy, hrest⟩
    · rcases hyz with hyz | ⟨hyz, -⟩
      · exact .inl (before_trans term x y z hxy hyz)
      · exact .inl ((before_congr term x x y z rfl hyz).mp hxy)
    · rcases hyz with hyz | ⟨hyz, hrest'⟩
      · exact .inl ((before_congr term x y z z hxy rfl).mpr hyz)
      · exact .inr ⟨hxy.trans hyz, ih hrest hrest'⟩

theorem ordered_total (terms : List (Term α κ)) (x y : α) : Ordered terms x y ∨ Ordered terms y x := by
  induction terms with
  | nil => exact .inl trivial
  | cons term rest ih =>
    rcases before_total term x y with h | h | h
    · exact .inl (.inl h)
    · exact ih.imp (fun hrest => .inr ⟨h, hrest⟩) (fun hrest => .inr ⟨h.symm, hrest⟩)
    · exact .inr (.inl h)

theorem ordered_antisymm (terms : List (Term α κ)) (x y : α) (hxy : Ordered terms x y)
    (hyx : Ordered terms y x) : ∀ term ∈ terms, term.key x = term.key y := by
  induction terms with
  | nil => exact List.forall_mem_nil _
  | cons term rest ih =>
    rw [List.forall_mem_cons]
    rcases hxy with hxy | ⟨hxy, hrest⟩
    · rcases hyx with hyx | ⟨hyx, -⟩
      · exact absurd hyx (before_asymm term x y hxy)
      · exact absurd hyx.symm (before_ne term x y hxy)
    · rcases hyx with hyx | ⟨-, hrest'⟩
      · exact absurd hxy.symm (before_ne term y x hyx)
      · exact ⟨hxy, ih hrest hrest'⟩

/-- A way of sorting: which of the allowed orders comes out is its own affair. -/
structure Sorter (α κ : Type) [LinearOrder κ] where
  arrange : List (Term α κ) → List α → List α
  perm : ∀ terms rows, (arrange terms rows).Perm rows
  sorted : ∀ terms rows, (arrange terms rows).Pairwise (Ordered terms)

def stable : Sorter α κ where
  arrange terms rows := rows.mergeSort fun x y => decide (Ordered terms x y)
  perm terms rows := List.mergeSort_perm rows _
  sorted terms rows := by
    have hsorted : (rows.mergeSort fun x y => decide (Ordered terms x y)).Pairwise
        fun x y => decide (Ordered terms x y) = true := List.pairwise_mergeSort
      (fun x y z hxy hyz => decide_eq_true (ordered_trans terms x y z (of_decide_eq_true hxy)
        (of_decide_eq_true hyz)))
      (fun x y => by
        rcases ordered_total terms x y with h | h
        · simp [h]
        · simp [h]) rows
    exact hsorted.imp of_decide_eq_true

theorem arrange_eq (sorter : Sorter α κ) (terms : List (Term α κ)) (rows arranged : List α)
    (hperm : arranged.Perm rows) (hsorted : arranged.Pairwise (Ordered terms))
    (hunique : ∃ term ∈ terms, ∀ x ∈ rows, ∀ y ∈ rows, term.key x = term.key y → x = y) :
    sorter.arrange terms rows = arranged := by
  obtain ⟨term, hterm, hkey⟩ := hunique
  have hrows := sorter.perm terms rows
  refine List.Perm.eq_of_pairwise (fun x y hx hy hxy hyx => ?_) (sorter.sorted terms rows) hsorted
    (hrows.trans hperm.symm)
  exact hkey x (hrows.subset hx) y (hperm.subset hy) (ordered_antisymm terms x y hxy hyx term hterm)

/-- `LIMIT size OFFSET from` of a listing. -/
def slice (listing : List α) (size start : ℕ) : List α := (listing.drop start).take size

omit [LinearOrder κ] in
theorem slice_getElem (listing : List α) (size start i : ℕ) (h : i < size) :
    (slice listing size start)[i]? = listing[start + i]? := by
  rw [slice, List.getElem?_take_of_lt h, List.getElem?_drop]

theorem mem_slice (listing : List α) (size start : ℕ) (x : α) :
    x ∈ slice listing size start ↔ ∃ i, i < size ∧ listing[start + i]? = some x := by
  rw [List.mem_iff_getElem?]
  constructor
  · rintro ⟨i, hi⟩
    by_cases hlt : i < size
    · exact ⟨i, hlt, (slice_getElem listing size start i hlt).symm.trans hi⟩
    · have hnone : (slice listing size start)[i]? = none :=
        List.getElem?_eq_none ((List.length_take_le _ _).trans (Nat.le_of_not_lt hlt))
      rw [hnone] at hi
      cases hi
  · rintro ⟨i, hlt, hi⟩
    exact ⟨i, (slice_getElem listing size start i hlt).trans hi⟩

theorem slices_disjoint (listing : List α) (hnodup : listing.Nodup) (size j k : ℕ) (hne : j ≠ k)
    (x : α) (hj : x ∈ slice listing size (j * size)) : x ∉ slice listing size (k * size) := by
  intro hk
  obtain ⟨i, hi, hix⟩ := (mem_slice listing size _ x).mp hj
  obtain ⟨i', hi', hix'⟩ := (mem_slice listing size _ x).mp hk
  obtain ⟨hlt, -⟩ := List.getElem?_eq_some_iff.mp hix
  have hsame : j * size + i = k * size + i' :=
    (List.getElem?_inj hlt hnodup).mp (hix.trans hix'.symm)
  have hpage : ∀ m n : ℕ, n < size → (m * size + n) / size = m := fun m n hn => by
    rw [Nat.mul_comm, Nat.mul_add_div (Nat.zero_lt_of_lt hn), Nat.div_eq_of_lt hn, Nat.add_zero]
  apply hne
  rw [← hpage j i hi, hsame, hpage k i' hi']

theorem slices_cover (listing : List α) (size : ℕ) (hsize : 0 < size) (x : α) (hx : x ∈ listing) :
    ∃ k, x ∈ slice listing size (k * size) := by
  obtain ⟨i, hi⟩ := List.mem_iff_getElem?.mp hx
  refine ⟨i / size, (mem_slice listing size _ x).mpr ⟨i % size, Nat.mod_lt i hsize, ?_⟩⟩
  rw [Nat.mul_comm, Nat.div_add_mod]
  exact hi

end Glassbeetle.SortedPages
