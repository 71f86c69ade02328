import Glassbeetle.LikePatterns
import Glassbeetle.MemoryTags
import Glassbeetle.Utf8Text

set_option autoImplicit false

namespace Glassbeetle.SearchTerms
open JsText Utf8Text LikePatterns

def foldPoint (p : ℕ) : ℕ := if 0x41 ≤ p ∧ p ≤ 0x5A then p + 0x20 else p

/-- `LIKE ? ESCAPE '\'` on scalar values. -/
def sqlite : Dialect ℕ := ⟨0x25, 0x5F, 0x5C, foldPoint⟩

/-- `escapeLikePattern` of the shared query builder: `term.replace(/([\\%_])/g, '\\$1')`. -/
def escapeLikePattern (term : JsString) : JsString :=
  term.flatMap fun c => if c ∈ [0x5C, 0x25, 0x5F] then [0x5C, c] else [c]

/-- The condition of `ChatsService.findAll` on a title; a blank term sets none. -/
def titleCondition (search : Option JsString) (title : List ℕ) : Bool :=
  match search.map trim with
  | none | some [] => true
  | some search => like sqlite (toPoints (js "%" ++ escapeLikePattern search ++ js "%")) title

def unitPoint (c : CodeUnit) : ℕ := if isHigh c || isLow c then 0xFFFD else c.toNat

theorem toPoints_cons (c : CodeUnit) (s : JsString)
    (h : isHigh c = true → ∀ d, s.head? = some d → isLow d = false) :
    toPoints (c :: s) = unitPoint c :: toPoints s := by
  cases s with
  | nil =>
    rw [toPoints, toPoints, unitPoint]
    split_ifs <;> rfl
  | cons d rest =>
    have hpair : (isHigh c && isLow d) = false := by
      cases hc : isHigh c with
      | false => rfl
      | true => rw [h hc d rfl]; rfl
    rw [toPoints, hpair]
    rfl

theorem special_unit (c : CodeUnit) (h : c ∈ ([0x5C, 0x25, 0x5F] : JsString)) :
    isHigh c = false ∧ isLow c = false ∧ sqlite.special (unitPoint c) := by
  simp only [List.mem_cons, List.not_mem_nil, or_false] at h
  rcases h with rfl | rfl | rfl <;> decide

theorem plain_unit (c : CodeUnit) (h : c ∉ ([0x5C, 0x25, 0x5F] : JsString)) :
    ¬sqlite.special (unitPoint c) := by
  simp only [List.mem_cons, List.not_mem_nil, or_false, not_or, ← UInt16.toNat_inj,
    UInt16.reduceToNat] at h
  rw [unitPoint]
  split_ifs
  · decide
  · change ¬(c.toNat = 0x25 ∨ c.toNat = 0x5F ∨ c.toNat = 0x5C)
    omega

theorem escapeLikePattern_cons (c : CodeUnit) (term : JsString) :
    escapeLikePattern (c :: term) =
      (if c ∈ [0x5C, 0x25, 0x5F] then [0x5C, c] else [c]) ++ escapeLikePattern term := rfl

theorem head_escape (term : JsString) (d : CodeUnit)
    (h : (escapeLikePattern term ++ [0x25]).head? = some d) (hd : isLow d = true) :
    ∃ rest, term = d :: rest := by
  cases term with
  | nil =>
    obtain rfl := Option.some.inj h
    exact absurd hd (by decide)
  | cons c rest =>
    rw [escapeLikePattern_cons] at h
    split_ifs at h
    · obtain rfl := Option.some.inj h
      exact absurd hd (by decide)
    · obtain rfl := Option.some.inj h
      exact ⟨rest, rfl⟩

theorem toPoints_unit (c : CodeUnit) (term : JsString)
    (h : isHigh c = true → ∀ d rest, term = d :: rest → isLow d = false)
    (ih : toPoints (escapeLikePattern term ++ [0x25]) = escaped sqlite (toPoints term) ++ [0x25]) :
    toPoints (escapeLikePattern (c :: term) ++ [0x25]) =
      escaped sqlite (toPoints (c :: term)) ++ [0x25] := by
  have hlow : isHigh c = true → ∀ d, term.head? = some d → isLow d = false := by
    intro hc d hd
    cases term with
    | nil => cases hd
    | cons e rest => exact Option.some.inj hd ▸ h hc e rest rfl
  have hnext : isHigh c = true → ∀ d, (escapeLikePattern term ++ [0x25]).head? = some d →
      isLow d = false := by
    intro hc d hd
    by_contra hl
    obtain ⟨rest, hrest⟩ := head_escape term d hd (by simpa using hl)
    exact hl (h hc d rest hrest)
  rw [escapeLikePattern_cons, toPoints_cons c term hlow, escaped_cons]
  by_cases hc : c ∈ ([0x5C, 0x25, 0x5F] : JsString)
  · obtain ⟨hhigh, -, hspecial⟩ := special_unit c hc
    rw [if_pos hc, if_pos hspecial]
    change toPoints (0x5C :: c :: (escapeLikePattern term ++ [0x25])) = _
    rw [toPoints_cons 0x5C _ fun h => absurd h (by decide), toPoints_cons c _ hnext, ih]
    rfl
  · rw [if_neg hc, if_neg (plain_unit c hc), List.singleton_append, List.cons_append,
      toPoints_cons c _ hnext, ih]
    rfl

theorem toPoints_escape (term : JsString) :
    toPoints (escapeLikePattern term ++ [0x25]) = escaped sqlite (toPoints term) ++ [0x25] := by
  induction term using toPoints.induct with
  | case1 => rfl
  | case2 c hc => exact toPoints_unit c [] (fun _ _ _ h => (List.cons_ne_nil _ _ h.symm).elim) rfl
  | case3 c hc => exact toPoints_unit c [] (fun _ _ _ h => (List.cons_ne_nil _ _ h.symm).elim) rfl
  | case4 c d rest hcd ih =>
    obtain ⟨hc, hd⟩ := Bool.and_eq_true_iff.mp hcd
    have hplain : ∀ e : CodeUnit, isHigh e = true ∨ isLow e = true →
        e ∉ ([0x5C, 0x25, 0x5F] : JsString) := by
      intro e he hmem
      obtain ⟨hhigh, hlow, -⟩ := special_unit e hmem
      rw [hhigh, hlow] at he
      exact he.elim Bool.false_ne_true Bool.false_ne_true
    have hspecial : ∀ n m : ℕ, ¬sqlite.special (0x10000 + n + m) := by
      intro n m
      change ¬(0x10000 + n + m = 0x25 ∨ 0x10000 + n + m = 0x5F ∨ 0x10000 + n + m = 0x5C)
      omega
    have hkept : escapeLikePattern (c :: d :: rest) = c :: d :: escapeLikePattern rest := by
      rw [escapeLikePattern_cons, escapeLikePattern_cons, if_neg (hplain c (.inl hc)),
        if_neg (hplain d (.inr hd))]
      rfl
    have hpair : ∀ tail, toPoints (c :: d :: tail) =
        (0x10000 + (c.toNat - 0xD800) * 0x400 + (d.toNat - 0xDC00)) :: toPoints tail := by
      intro tail
      rw [toPoints, if_pos hcd]
    calc toPoints (escapeLikePattern (c :: d :: rest) ++ [0x25])
      _ = toPoints (c :: d :: (escapeLikePattern rest ++ [0x25])) := by rw [hkept]; rfl
      _ = (0x10000 + (c.toNat - 0xD800) * 0x400 + (d.toNat - 0xDC00)) ::
          (escaped sqlite (toPoints rest) ++ [0x25]) := by rw [hpair, ih]
      _ = escaped sqlite (toPoints (c :: d :: rest)) ++ [0x25] := by
        rw [hpair, escaped_cons, if_neg (hspecial _ _)]
        rfl
  | case5 c d rest hcd ih =>
    refine toPoints_unit c (d :: rest) (fun hc e tail htail => ?_) ih
    obtain ⟨rfl, rfl⟩ := List.cons.inj htail
    by_contra hd
    exact hcd (by rw [hc]; simpa using hd)

theorem toPoints_pattern (term : JsString) :
    toPoints (js "%" ++ escapeLikePattern term ++ js "%") =
      0x25 :: (escaped sqlite (toPoints term) ++ [0x25]) := by
  rw [← toPoints_escape term]
  exact toPoints_cons 0x25 _ fun h => absurd h (by decide)

theorem escapeLikePattern_same (term : JsString) :
    MemoryTags.escapeLikePattern term = escapeLikePattern term := by
  simp [MemoryTags.escapeLikePattern, escapeLikePattern]

/-- A title is found just when the trimmed term occurs in it, up to the case of ASCII letters; the
two escape functions are one. -/
theorem search_literal :
    (∀ (term : JsString) (title : List ℕ), trim term ≠ [] →
      (titleCondition (some term) title = true ↔
        (toPoints (trim term)).map foldPoint <:+: title.map foldPoint) ∧
      (like sqlite (toPoints (js "%" ++ MemoryTags.escapeLikePattern (trim term) ++ js "%")) title =
          true ↔
        (toPoints (trim term)).map foldPoint <:+: title.map foldPoint)) ∧
    ∀ term, MemoryTags.escapeLikePattern term = escapeLikePattern term := by
  refine ⟨fun term title hterm => ?_, escapeLikePattern_same⟩
  have hlike : like sqlite (toPoints (js "%" ++ escapeLikePattern (trim term) ++ js "%")) title =
      true ↔ (toPoints (trim term)).map foldPoint <:+: title.map foldPoint := by
    rw [toPoints_pattern]
    exact like_contains sqlite (by decide) (toPoints (trim term)) title
  have hcondition : titleCondition (some term) title =
      like sqlite (toPoints (js "%" ++ escapeLikePattern (trim term) ++ js "%")) title := by
    rw [titleCondition, Option.map_some]
    cases ht : trim term with
    | nil => exact absurd ht hterm
    | cons c rest => rfl
  rw [hcondition, escapeLikePattern_same]
  exact ⟨hlike, hlike⟩

theorem search_literal_percent :
    titleCondition (some (js " A\\_% ")) (toPoints (js "Plan a\\_% of all")) = true :=
  (search_literal.1 (js " A\\_% ") (toPoints (js "Plan a\\_% of all")) (by decide +kernel)).1.mpr
    ⟨toPoints (js "plan "), toPoints (js " of all"), by decide +kernel⟩

end Glassbeetle.SearchTerms
