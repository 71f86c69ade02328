import Mathlib.Data.Nat.Notation

set_option autoImplicit false

/-!
# Collecting a paginated listing

A client asks for one page after another while each says there are more, up to
a limit.
-/
namespace Glassbeetle.Pagination

variable {ε α : Type}

def collect (read : ℕ → Except ε (List α × Bool)) : ℕ → ℕ → Except ε (List α)
  | 0, page => (read page).map Prod.fst
  | left + 1, page =>
    match read page with
    | .error e => .error e
    | .ok (items, true) => (collect read left (page + 1)).map (items ++ ·)
    | .ok (items, false) => .ok items

/-- The client asks for the page: every page before it said there were more. -/
def Reached (read : ℕ → Except ε (List α × Bool)) (first left page : ℕ) : Prop :=
  first ≤ page ∧ page ≤ first + left ∧
    ∀ earlier, first ≤ earlier → earlier < page → ∃ items, read earlier = .ok (items, true)

theorem reached_first (read : ℕ → Except ε (List α × Bool)) (first left : ℕ) :
    Reached read first left first :=
  ⟨Nat.le_refl _, Nat.le_add_right _ _, fun _ h1 h2 => absurd h1 (Nat.not_le.mpr h2)⟩

theorem reached_next (read : ℕ → Except ε (List α × Bool)) (first left page : ℕ) (items : List α)
    (h : read first = .ok (items, true)) :
    Reached read first (left + 1) page ↔ page = first ∨ Reached read (first + 1) left page := by
  constructor
  · rintro ⟨h1, h2, h3⟩
    rcases Nat.eq_or_lt_of_le h1 with he | hlt
    · exact .inl he.symm
    · exact .inr ⟨hlt, by omega, fun earlier h4 h5 => h3 earlier (by omega) h5⟩
  · rintro (rfl | ⟨h1, h2, h3⟩)
    · exact reached_first read page (left + 1)
    · refine ⟨by omega, by omega, fun earlier h4 h5 => ?_⟩
      rcases Nat.eq_or_lt_of_le h4 with he | hlt
      · exact ⟨items, he ▸ h⟩
      · exact h3 earlier hlt h5

theorem reached_only (read : ℕ → Except ε (List α × Bool)) (first left page : ℕ)
    (h : ∀ items, read first ≠ .ok (items, true)) (hr : Reached read first left page) :
    page = first := by
  obtain ⟨h1, -, h3⟩ := hr
  rcases Nat.eq_or_lt_of_le h1 with he | hlt
  · exact he.symm
  · obtain ⟨items, he⟩ := h3 first (Nat.le_refl _) hlt
    exact absurd he (h items)

theorem collect_error (read : ℕ → Except ε (List α × Bool)) (left first : ℕ) :
    (∃ e, collect read left first = .error e) ↔
      ∃ page, Reached read first left page ∧ ∃ e, read page = .error e := by
  induction left generalizing first with
  | zero =>
    have honly : ∀ page, Reached read first 0 page ↔ page = first := fun page =>
      ⟨fun h => Nat.le_antisymm h.2.1 h.1, fun h => h ▸ reached_first read first 0⟩
    simp only [honly, exists_eq_left, collect]
    cases read first <;> simp [Except.map]
  | succ left ih =>
    simp only [collect]
    split
    · rename_i e he
      simp only [Except.error.injEq, exists_eq', true_iff]
      exact ⟨first, reached_first read first _, e, he⟩
    · rename_i items he
      have hmap : (∃ e, (collect read left (first + 1)).map (items ++ ·) = .error e) ↔
          ∃ e, collect read left (first + 1) = .error e := by
        cases collect read left (first + 1) <;> simp [Except.map]
      rw [hmap, ih]
      simp only [reached_next read first left _ items he, or_and_right, exists_or, exists_eq_left, he,
        reduceCtorEq, exists_false, false_or]
    · rename_i items he
      simp only [reduceCtorEq, exists_false, false_iff]
      rintro ⟨page, hr, e, hp⟩
      obtain rfl := reached_only read first _ page (by simp [he]) hr
      simp [he] at hp

theorem collect_mem (read : ℕ → Except ε (List α × Bool)) (left first : ℕ) (listed : List α)
    (h : collect read left first = .ok listed) (x : α) :
    x ∈ listed ↔ ∃ page, Reached read first left page ∧ ∃ items more,
      read page = .ok (items, more) ∧ x ∈ items := by
  induction left generalizing first listed with
  | zero =>
    have honly : ∀ page, Reached read first 0 page ↔ page = first := fun page =>
      ⟨fun h => Nat.le_antisymm h.2.1 h.1, fun h => h ▸ reached_first read first 0⟩
    simp only [honly, exists_eq_left]
    simp only [collect] at h
    cases hr : read first with
    | error e => simp [hr, Except.map] at h
    | ok p =>
      obtain rfl : p.1 = listed := by simpa [hr, Except.map] using h
      exact ⟨fun hx => ⟨p.1, p.2, rfl, hx⟩, fun ⟨items, more, he, hx⟩ => by
        obtain rfl := Except.ok.inj he
        exact hx⟩
  | succ left ih =>
    simp only [collect] at h
    split at h
    · cases h
    · rename_i items he
      cases hc : collect read left (first + 1) with
      | error e => simp [hc, Except.map] at h
      | ok rest =>
        obtain rfl : items ++ rest = listed := by simpa [hc, Except.map] using h
        simp only [List.mem_append, ih (first + 1) rest hc, reached_next read first left _ items he,
          or_and_right, exists_or, exists_eq_left, he, Except.ok.injEq, Prod.mk.injEq]
        refine or_congr_left ⟨fun hx => ⟨items, true, ⟨rfl, rfl⟩, hx⟩, ?_⟩
        rintro ⟨_, _, ⟨rfl, -⟩, hx⟩
        exact hx
    · rename_i items he
      obtain rfl := Except.ok.inj h
      constructor
      · exact fun hx => ⟨first, reached_first read first _, items, false, he, hx⟩
      · rintro ⟨page, hr, other, more, hp, hx⟩
        obtain rfl := reached_only read first _ page (by simp [he]) hr
        obtain ⟨rfl, -⟩ := Prod.mk.inj (Except.ok.inj (he.symm.trans hp))
        exact hx

end Glassbeetle.Pagination
