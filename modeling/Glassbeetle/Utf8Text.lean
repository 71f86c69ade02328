import Glassbeetle.TextDecoder
import Mathlib.Data.List.TakeWhile

set_option autoImplicit false

/-!
# Strings and their octets

`Buffer.from(text, 'utf-8')` and `buffer.toString('utf-8')`: what is not a
scalar value is replaced on the way out, what is not UTF-8 on the way back.
-/
namespace Glassbeetle.Utf8Text
open JsText

/-- The scalar values of a string; a lone surrogate counts as U+FFFD. -/
def toPoints : JsString → List ℕ
  | [] => []
  | [c] => if isHigh c || isLow c then [0xFFFD] else [c.toNat]
  | c :: d :: rest =>
    if isHigh c && isLow d then
      (0x10000 + (c.toNat - 0xD800) * 0x400 + (d.toNat - 0xDC00)) :: toPoints rest
    else (if isHigh c || isLow c then 0xFFFD else c.toNat) :: toPoints (d :: rest)

def encodePoint (p : ℕ) : List UInt8 :=
  if p < 0x80 then [UInt8.ofNat p]
  else if p < 0x800 then [UInt8.ofNat (0xC0 + p / 0x40), UInt8.ofNat (0x80 + p % 0x40)]
  else if p < 0x10000 then
    [UInt8.ofNat (0xE0 + p / 0x1000), UInt8.ofNat (0x80 + p / 0x40 % 0x40),
      UInt8.ofNat (0x80 + p % 0x40)]
  else
    [UInt8.ofNat (0xF0 + p / 0x40000), UInt8.ofNat (0x80 + p / 0x1000 % 0x40),
      UInt8.ofNat (0x80 + p / 0x40 % 0x40), UInt8.ofNat (0x80 + p % 0x40)]

def utf8 (s : JsString) : List UInt8 := (toPoints s).flatMap encodePoint

def decodePoints : Option Utf8.Pending → List UInt8 → List ℕ
  | none, [] => []
  | some _, [] => [0xFFFD]
  | pending, octet :: rest =>
    (TextDecoder.points pending octet.toNat).1 ++
      decodePoints (TextDecoder.points pending octet.toNat).2 rest

def ofUtf8 (octets : List UInt8) : JsString := (decodePoints none octets).flatMap utf16

/-- No surrogate without its other half. -/
def wellFormed : JsString → Bool
  | [] => true
  | [c] => !isHigh c && !isLow c
  | c :: d :: rest =>
    if isHigh c then isLow d && wellFormed rest else !isLow c && wellFormed (d :: rest)

/-- What a database of UTF-8 texts gives back of a string written to it. -/
def stored : JsString → JsString
  | [] => []
  | [c] => if isHigh c || isLow c then [0xFFFD] else [c]
  | c :: d :: rest =>
    if isHigh c && isLow d then c :: d :: stored rest
    else (if isHigh c || isLow c then 0xFFFD else c) :: stored (d :: rest)

def IsScalar (p : ℕ) : Prop := p < 0xD800 ∨ 0xE000 ≤ p ∧ p < 0x110000

theorem decodePoints_more (pending : Option Utf8.Pending) (octet : UInt8) (q : Utf8.Pending)
    (rest : List UInt8) (h : Utf8.read pending octet.toNat = .more q) :
    decodePoints pending (octet :: rest) = decodePoints (some q) rest := by
  rw [decodePoints.eq_def]
  cases pending <;> simp only [TextDecoder.points, h, List.nil_append]

theorem decodePoints_point (pending : Option Utf8.Pending) (octet : UInt8) (p : ℕ)
    (rest : List UInt8) (h : Utf8.read pending octet.toNat = .point p) :
    decodePoints pending (octet :: rest) = p :: decodePoints none rest := by
  rw [decodePoints.eq_def]
  cases pending <;> simp only [TextDecoder.points, h, List.singleton_append]

theorem lead_two (x : ℕ) (h1 : 2 ≤ x) (h2 : x < 0x20) :
    Utf8.lead (0xC0 + x) = .more ⟨1, 0x80, 0xBF, x, by decide⟩ := by
  unfold Utf8.lead
  rw [if_neg (by omega), if_neg (by omega), if_pos (by omega)]
  simp

theorem lead_three (x : ℕ) (h : x < 0x10) :
    Utf8.lead (0xE0 + x) = .more ⟨2, if x = 0 then 0xA0 else 0x80, if x = 0xD then 0x9F else 0xBF, x,
      by split <;> decide⟩ := by
  unfold Utf8.lead
  rw [if_neg (by omega), if_neg (by omega), if_neg (by omega), if_pos (by omega)]
  have hd : 0xE0 + x = 0xED ↔ x = 0xD := by omega
  simp [hd]

theorem lead_four (x : ℕ) (h : x < 5) :
    Utf8.lead (0xF0 + x) = .more ⟨3, if x = 0 then 0x90 else 0x80, if x = 4 then 0x8F else 0xBF, x,
      by split <;> decide⟩ := by
  unfold Utf8.lead
  rw [if_neg (by omega), if_neg (by omega), if_neg (by omega), if_neg (by omega), if_pos (by omega)]
  have h4 : 0xF0 + x = 0xF4 ↔ x = 4 := by omega
  simp [h4]

theorem next_last (lower upper point y : ℕ) (high : 0x80 ≤ lower) (hl : lower ≤ 0x80 + y)
    (hu : 0x80 + y ≤ upper) :
    Utf8.next ⟨1, lower, upper, point, high⟩ (0x80 + y) = .point (point * 0x40 + y) := by
  unfold Utf8.next
  rw [if_pos ⟨hl, hu⟩, if_pos (Nat.le_refl 1), Nat.add_sub_cancel_left]

theorem next_more (needed lower upper point y : ℕ) (high : 0x80 ≤ lower) (hl : lower ≤ 0x80 + y)
    (hu : 0x80 + y ≤ upper) :
    Utf8.next ⟨needed + 2, lower, upper, point, high⟩ (0x80 + y) =
      .more ⟨needed + 1, 0x80, 0xBF, point * 0x40 + y, by decide⟩ := by
  unfold Utf8.next
  rw [if_pos ⟨hl, hu⟩, if_neg (by change ¬needed + 2 ≤ 1; omega)]
  simp

theorem octet_toNat (n : ℕ) (h : n < 256) : (UInt8.ofNat n).toNat = n := by
  rw [UInt8.toNat_ofNat', Nat.mod_eq_of_lt h]

theorem decodePoints_encodePoint (p : ℕ) (h : IsScalar p) (rest : List UInt8) :
    decodePoints none (encodePoint p ++ rest) = p :: decodePoints none rest := by
  unfold IsScalar at h
  unfold encodePoint
  split_ifs with h1 h2 h3
  · refine decodePoints_point none _ p rest ?_
    rw [octet_toNat p (by omega)]
    exact Utf8.lead_ascii p h1
  · have hlast : p / 0x40 * 0x40 + p % 0x40 = p := by omega
    refine (decodePoints_more none _ ⟨1, 0x80, 0xBF, p / 0x40, by decide⟩ _ ?_).trans
      (decodePoints_point _ _ p rest ?_)
    · rw [octet_toNat _ (by omega)]
      exact lead_two _ (by omega) (by omega)
    · rw [octet_toNat _ (by omega)]
      refine (next_last _ _ _ _ _ (by omega) (by omega)).trans ?_
      rw [hlast]
  · have hlast : (p / 0x1000 * 0x40 + p / 0x40 % 0x40) * 0x40 + p % 0x40 = p := by omega
    refine (decodePoints_more none _ ⟨2, if p / 0x1000 = 0 then 0xA0 else 0x80,
      if p / 0x1000 = 0xD then 0x9F else 0xBF, p / 0x1000, by split <;> decide⟩ _ ?_).trans
      ((decodePoints_more _ _ ⟨1, 0x80, 0xBF, p / 0x1000 * 0x40 + p / 0x40 % 0x40, by decide⟩ _
        ?_).trans (decodePoints_point _ _ p rest ?_))
    · rw [octet_toNat _ (by omega)]
      exact lead_three _ (by omega)
    · rw [octet_toNat _ (by omega)]
      exact next_more 0 _ _ _ _ _ (by split <;> omega) (by split <;> omega)
    · rw [octet_toNat _ (by omega)]
      refine (next_last _ _ _ _ _ (by omega) (by omega)).trans ?_
      rw [hlast]
  · have hlast : ((p / 0x40000 * 0x40 + p / 0x1000 % 0x40) * 0x40 + p / 0x40 % 0x40) * 0x40 +
        p % 0x40 = p := by omega
    refine (decodePoints_more none _ ⟨3, if p / 0x40000 = 0 then 0x90 else 0x80,
      if p / 0x40000 = 4 then 0x8F else 0xBF, p / 0x40000, by split <;> decide⟩ _ ?_).trans
      ((decodePoints_more _ _ ⟨2, 0x80, 0xBF, p / 0x40000 * 0x40 + p / 0x1000 % 0x40, by decide⟩ _
        ?_).trans ((decodePoints_more _ _ ⟨1, 0x80, 0xBF,
          (p / 0x40000 * 0x40 + p / 0x1000 % 0x40) * 0x40 + p / 0x40 % 0x40, by decide⟩ _
          ?_).trans (decodePoints_point _ _ p rest ?_)))
    · rw [octet_toNat _ (by omega)]
      exact lead_four _ (by omega)
    · rw [octet_toNat _ (by omega)]
      exact next_more 1 _ _ _ _ _ (by split <;> omega) (by split <;> omega)
    · rw [octet_toNat _ (by omega)]
      exact next_more 0 _ _ _ _ _ (by omega) (by omega)
    · rw [octet_toNat _ (by omega)]
      refine (next_last _ _ _ _ _ (by omega) (by omega)).trans ?_
      rw [hlast]

theorem decodePoints_points (points : List ℕ) (h : ∀ p ∈ points, IsScalar p) :
    decodePoints none (points.flatMap encodePoint) = points := by
  induction points with
  | nil => rfl
  | cons p rest ih =>
    rw [List.flatMap_cons, decodePoints_encodePoint p (h p List.mem_cons_self),
      ih fun q hq => h q (List.mem_cons_of_mem _ hq)]

theorem wellFormed_cons (c : CodeUnit) (s : JsString) (hh : isHigh c = false)
    (hl : isLow c = false) : wellFormed (c :: s) = wellFormed s := by
  cases s with
  | nil => simp [wellFormed, hh, hl]
  | cons d rest => simp [wellFormed, hh, hl]

theorem plain_wellFormed (s : JsString) (h : ∀ c ∈ s, isHigh c = false ∧ isLow c = false) :
    wellFormed s = true := by
  induction s with
  | nil => rfl
  | cons c rest ih =>
    obtain ⟨hh, hl⟩ := h c List.mem_cons_self
    rw [wellFormed_cons c rest hh hl]
    exact ih fun d hd => h d (List.mem_cons_of_mem _ hd)

theorem plain_scalar (c : CodeUnit) (hh : isHigh c = false) (hl : isLow c = false) :
    IsScalar c.toNat := by
  simp only [isHigh, isLow, Bool.and_eq_false_iff, decide_eq_false_iff_not, UInt16.le_iff_toNat_le,
    UInt16.reduceToNat] at hh hl
  have := c.toNat_lt
  unfold IsScalar
  omega

theorem utf16_plain (c : CodeUnit) : utf16 c.toNat = [c] := by
  have := c.toNat_lt
  rw [utf16, if_pos (by omega), UInt16.ofNat_toNat]

theorem high_bounds (c : CodeUnit) (h : isHigh c = true) : 0xD800 ≤ c.toNat ∧ c.toNat ≤ 0xDBFF := by
  simpa only [isHigh, Bool.and_eq_true, decide_eq_true_eq, UInt16.le_iff_toNat_le,
    UInt16.reduceToNat] using h

theorem low_bounds (c : CodeUnit) (h : isLow c = true) : 0xDC00 ≤ c.toNat ∧ c.toNat ≤ 0xDFFF := by
  simpa only [isLow, Bool.and_eq_true, decide_eq_true_eq, UInt16.le_iff_toNat_le,
    UInt16.reduceToNat] using h

theorem utf16_pair (c d : CodeUnit) (hc : isHigh c = true) (hd : isLow d = true) :
    utf16 (0x10000 + (c.toNat - 0xD800) * 0x400 + (d.toNat - 0xDC00)) = [c, d] := by
  have hcb := high_bounds c hc
  have hdb := low_bounds d hd
  rw [utf16, if_neg (by omega)]
  have h1 : 0xD800 + (0x10000 + (c.toNat - 0xD800) * 0x400 + (d.toNat - 0xDC00) - 0x10000) / 0x400 =
      c.toNat := by omega
  have h2 : 0xDC00 + (0x10000 + (c.toNat - 0xD800) * 0x400 + (d.toNat - 0xDC00) - 0x10000) % 0x400 =
      d.toNat := by omega
  rw [h1, h2, UInt16.ofNat_toNat, UInt16.ofNat_toNat]

theorem unit_scalar (c : CodeUnit) : IsScalar (if isHigh c || isLow c then 0xFFFD else c.toNat) := by
  split_ifs with h
  · exact .inr ⟨by decide, by decide⟩
  · simp only [Bool.or_eq_true, not_or, Bool.not_eq_true] at h
    exact plain_scalar c h.1 h.2

theorem unit_stored (c : CodeUnit) : utf16 (if isHigh c || isLow c then 0xFFFD else c.toNat) =
    [if isHigh c || isLow c then 0xFFFD else c] := by
  split_ifs
  · rfl
  · exact utf16_plain c

theorem toPoints_stored (s : JsString) :
    (∀ p ∈ toPoints s, IsScalar p) ∧ (toPoints s).flatMap utf16 = stored s := by
  induction s using toPoints.induct with
  | case1 => exact ⟨nofun, rfl⟩
  | case2 c hs =>
    rw [toPoints, if_pos hs, stored, if_pos hs]
    exact ⟨List.forall_mem_singleton.mpr (.inr ⟨by decide, by decide⟩), rfl⟩
  | case3 c hs =>
    rw [toPoints, if_neg hs, stored, if_neg hs]
    simp only [Bool.or_eq_true, not_or, Bool.not_eq_true] at hs
    simpa [utf16_plain] using plain_scalar c hs.1 hs.2
  | case4 c d rest hcd ih =>
    obtain ⟨hc, hd⟩ := Bool.and_eq_true_iff.mp hcd
    have hcb := high_bounds c hc
    have hdb := low_bounds d hd
    rw [toPoints, if_pos hcd, stored, if_pos hcd]
    constructor
    · have hpair : IsScalar (0x10000 + (c.toNat - 0xD800) * 0x400 + (d.toNat - 0xDC00)) := by
        unfold IsScalar
        omega
      exact List.forall_mem_cons.mpr ⟨hpair, ih.1⟩
    · rw [List.flatMap_cons, utf16_pair c d hc hd, ih.2, List.cons_append, List.singleton_append]
  | case5 c d rest hcd ih =>
    rw [toPoints, if_neg hcd, stored, if_neg hcd]
    constructor
    · exact List.forall_mem_cons.mpr ⟨unit_scalar c, ih.1⟩
    · rw [List.flatMap_cons, unit_stored, ih.2, List.singleton_append]

/-- The definition of `stored` by units is the conversion to octets and back. -/
theorem ofUtf8_utf8_eq (s : JsString) : ofUtf8 (utf8 s) = stored s := by
  obtain ⟨hscalar, htext⟩ := toPoints_stored s
  rw [ofUtf8, utf8, decodePoints_points _ hscalar, htext]

theorem stored_length (s : JsString) : (stored s).length = s.length := by
  induction s using stored.induct with
  | case1 => rfl
  | case2 c hs => rw [stored, if_pos hs]; rfl
  | case3 c hs => rw [stored, if_neg hs]
  | case4 c d rest hcd ih => rw [stored, if_pos hcd, List.length_cons, List.length_cons, ih]; rfl
  | case5 c d rest hcd ih => rw [stored, if_neg hcd, List.length_cons, ih]; rfl

theorem stored_eq_nil (s : JsString) : stored s = [] ↔ s = [] := by
  rw [← List.length_eq_zero_iff, stored_length, List.length_eq_zero_iff]

/-- A unit that a lone surrogate is replaced by is not the unit that stood there. -/
theorem replaced_ne (c : CodeUnit) (h : (isHigh c || isLow c) = true) : (0xFFFD : CodeUnit) ≠ c := by
  rintro rfl
  revert h
  decide

theorem stored_eq_self (s : JsString) : stored s = s ↔ wellFormed s = true := by
  induction s using stored.induct with
  | case1 => exact iff_of_true rfl rfl
  | case2 c hs =>
    rw [stored, if_pos hs]
    refine iff_of_false (fun h => replaced_ne c hs (List.cons.inj h).1) fun h => ?_
    obtain ⟨hh, hl⟩ := Bool.and_eq_true_iff.mp h
    simp_all
  | case3 c hs =>
    rw [stored, if_neg hs]
    simp_all [wellFormed]
  | case4 c d rest hcd ih =>
    rw [stored, if_pos hcd, List.cons_inj_right, List.cons_inj_right, ih]
    simp_all [wellFormed]
  | case5 c d rest hcd ih =>
    rw [stored, if_neg hcd]
    by_cases hs : (isHigh c || isLow c) = true
    · rw [if_pos hs]
      refine iff_of_false (fun h => replaced_ne c hs (List.cons.inj h).1) ?_
      simp only [wellFormed]
      split_ifs <;> simp_all
    · simp only [Bool.or_eq_true, not_or, Bool.not_eq_true] at hs
      rw [if_neg (by simp [hs]), List.cons_inj_right, ih, wellFormed_cons c _ hs.1 hs.2]

theorem stored_wellFormed (s : JsString) : wellFormed (stored s) = true := by
  induction s using stored.induct with
  | case1 => rfl
  | case2 c hs => rw [stored, if_pos hs]; rfl
  | case3 c hs =>
    rw [stored, if_neg hs]
    simp_all [wellFormed]
  | case4 c d rest hcd ih =>
    rw [stored, if_pos hcd]
    simp_all [wellFormed]
  | case5 c d rest hcd ih =>
    rw [stored, if_neg hcd]
    split_ifs with hs
    · rw [wellFormed_cons _ _ (by decide) (by decide), ih]
    · simp only [Bool.or_eq_true, not_or, Bool.not_eq_true] at hs
      rw [wellFormed_cons c _ hs.1 hs.2, ih]

theorem stored_stored (s : JsString) : stored (stored s) = stored s :=
  (stored_eq_self _).mpr (stored_wellFormed s)

theorem ofUtf8_utf8 (s : JsString) (h : wellFormed s = true) : ofUtf8 (utf8 s) = s :=
  (ofUtf8_utf8_eq s).trans ((stored_eq_self s).mpr h)

theorem utf8_injective (s t : JsString) (hs : wellFormed s = true) (ht : wellFormed t = true)
    (h : utf8 s = utf8 t) : s = t := by
  rw [← ofUtf8_utf8 s hs, h, ofUtf8_utf8 t ht]

theorem space_plain (c : CodeUnit) (h : isSpace c = true) : isHigh c = false ∧ isLow c = false := by
  simp only [isSpace, Bool.or_eq_true, Bool.and_eq_true, decide_eq_true_eq, beq_iff_eq,
    UInt16.le_iff_toNat_le, ← UInt16.toNat_inj, UInt16.reduceToNat] at h
  simp only [isHigh, isLow, Bool.and_eq_false_iff, decide_eq_false_iff_not, UInt16.le_iff_toNat_le,
    UInt16.reduceToNat]
  omega

theorem trimStart_wellFormed (s : JsString) (h : wellFormed s = true) :
    wellFormed (trimStart s) = true := by
  induction s with
  | nil => rfl
  | cons c rest ih =>
    by_cases hc : isSpace c = true
    · obtain ⟨hh, hl⟩ := space_plain c hc
      rw [wellFormed_cons c rest hh hl] at h
      simpa only [trimStart, List.dropWhile_cons_of_pos hc] using ih h
    · simpa only [trimStart, List.dropWhile_cons_of_neg hc] using h

theorem wellFormed_prefix (s spaces : JsString) (hspaces : ∀ c ∈ spaces, isSpace c = true)
    (h : wellFormed (s ++ spaces) = true) : wellFormed s = true := by
  induction s using toPoints.induct with
  | case1 => rfl
  | case2 c hs =>
    cases spaces with
    | nil => simpa using h
    | cons d rest =>
      have hd := space_plain d (hspaces d List.mem_cons_self)
      simp_all [wellFormed]
  | case3 c hs => simp_all [wellFormed]
  | case4 c d rest hcd ih => simp_all [wellFormed]
  | case5 c d rest hcd ih =>
    simp only [List.cons_append, wellFormed] at h ih ⊢
    split_ifs at h ⊢ with hc
    · simp_all
    · simp_all

theorem trim_wellFormed (s : JsString) (h : wellFormed s = true) : wellFormed (trim s) = true := by
  have hsplit : trim s ++ ((trimStart s).reverse.takeWhile isSpace).reverse = trimStart s := by
    rw [trim, trimEnd, ← List.reverse_append, List.takeWhile_append_dropWhile, List.reverse_reverse]
  refine wellFormed_prefix _ _ ?_ ((congrArg wellFormed hsplit).trans (trimStart_wellFormed s h))
  intro c hc
  exact List.mem_takeWhile_imp (List.mem_reverse.mp hc)

def isLasting (u : CodeUnit) : Bool := !isHigh u && !isLow u && u != 0xFFFD

theorem stored_getElem? (s : JsString) (i : ℕ) (u : CodeUnit) (hu : isLasting u = true) :
    (stored s)[i]? = some u ↔ s[i]? = some u := by
  have hreplaced : ∀ c : CodeUnit, (if isHigh c || isLow c then 0xFFFD else c) = u ↔ c = u := by
    intro c
    simp only [isLasting, Bool.and_eq_true, Bool.not_eq_true', bne_iff_ne] at hu
    split_ifs with hc
    · refine iff_of_false (fun h => hu.2 h.symm) ?_
      rintro rfl
      simp [hu] at hc
    · exact Iff.rfl
  induction s using stored.induct generalizing i with
  | case1 => rfl
  | case2 c hs =>
    cases i with
    | zero => simpa [stored, hs] using hreplaced c
    | succ i => simp [stored, hs]
  | case3 c hs =>
    rw [stored, if_neg hs]
  | case4 c d rest hcd ih =>
    rw [stored, if_pos hcd]
    match i with
    | 0 => rfl
    | 1 => rfl
    | i + 2 => exact ih i
  | case5 c d rest hcd ih =>
    rw [stored, if_neg hcd]
    cases i with
    | zero => simpa using hreplaced c
    | succ i => exact ih i

theorem includes_stored (s piece : JsString) (h : piece.all isLasting = true) :
    includes (stored s) piece = includes s piece := by
  rw [Bool.eq_iff_iff, includes_iff, includes_iff, List.infix_iff_getElem?, List.infix_iff_getElem?,
    stored_length]
  refine exists_congr fun k => and_congr_right fun _ => forall_congr' fun i => forall_congr' fun hi =>
    stored_getElem? s (i + k) piece[i] ?_
  exact List.all_eq_true.mp h _ (List.getElem_mem hi)

/-- A text without lone surrogates. -/
def Text := { s : JsString // wellFormed s = true }

theorem text_stored (text : Text) : stored text.1 = text.1 := (stored_eq_self text.1).mpr text.2

theorem map_stored_eq_self (given : Option JsString) :
    given.map stored = given ↔ ∀ text ∈ given, wellFormed text = true := by
  cases given with
  | none => simp
  | some text => simp [stored_eq_self]

end Glassbeetle.Utf8Text
