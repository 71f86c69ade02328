import Mathlib.Data.List.Infix
import Mathlib.Data.Nat.Notation
import Mathlib.Data.Int.Notation

set_option autoImplicit false

/-!
# ECMAScript strings

A string value is a list of UTF-16 code units, lone surrogates included, so
`length`, `slice` and concatenation act on code units as the language does.
-/
namespace Glassbeetle.JsText

abbrev CodeUnit := UInt16
abbrev JsString := List CodeUnit

instance : LawfulBEq JsString := inferInstance

def utf16 (point : ℕ) : JsString :=
  if point < 0x10000 then [UInt16.ofNat point]
  else [UInt16.ofNat (0xD800 + (point - 0x10000) / 0x400),
    UInt16.ofNat (0xDC00 + (point - 0x10000) % 0x400)]

def js (text : String) : JsString := text.toList.flatMap (fun c => utf16 c.toNat)

theorem each_of_all {α : Type} {p : α → Prop} [DecidablePred p] (l : List α)
    (h : l.all (fun a => decide (p a)) = true) : ∀ a ∈ l, p a :=
  fun a ha => of_decide_eq_true (List.all_eq_true.mp h a ha)

/-- `WhiteSpace` and `LineTerminator`, which `trim` removes. -/
def isSpace (c : CodeUnit) : Bool :=
  (9 ≤ c && c ≤ 13) || c == 0x20 || c == 0xA0 || c == 0x1680 || (0x2000 ≤ c && c ≤ 0x200A) ||
    c == 0x2028 || c == 0x2029 || c == 0x202F || c == 0x205F || c == 0x3000 || c == 0xFEFF

def isHigh (c : CodeUnit) : Bool := 0xD800 ≤ c && c ≤ 0xDBFF

def isLow (c : CodeUnit) : Bool := 0xDC00 ≤ c && c ≤ 0xDFFF

def hexDigit (n : ℕ) : CodeUnit := UInt16.ofNat (if n < 10 then 0x30 + n else 0x61 + (n - 10))

def hexValue (c : CodeUnit) : Option ℕ :=
  if 0x30 ≤ c ∧ c ≤ 0x39 then some (c.toNat - 0x30)
  else if 0x41 ≤ c ∧ c ≤ 0x46 then some (c.toNat - 0x41 + 10)
  else if 0x61 ≤ c ∧ c ≤ 0x66 then some (c.toNat - 0x61 + 10)
  else none

def trimStart (s : JsString) : JsString := s.dropWhile isSpace

def trimEnd (s : JsString) : JsString := (s.reverse.dropWhile isSpace).reverse

def trim (s : JsString) : JsString := trimEnd (trimStart s)

def startsWith (s piece : JsString) : Bool := piece.isPrefixOf s

def endsWith (s piece : JsString) : Bool := piece.isSuffixOf s

def includes (s piece : JsString) : Bool := s.tails.any (fun t => piece.isPrefixOf t)

def join (separator : JsString) (parts : List JsString) : JsString := separator.intercalate parts

/-- Replacement resumes after each occurrence; `skip` counts the units of one still to pass. -/
def replaceAllFrom (piece by' : JsString) : ℕ → JsString → JsString
  | _, [] => []
  | skip + 1, _ :: rest => replaceAllFrom piece by' skip rest
  | 0, c :: rest =>
    if piece.isPrefixOf (c :: rest) then by' ++ replaceAllFrom piece by' (piece.length - 1) rest
    else c :: replaceAllFrom piece by' 0 rest

def replaceAll (s piece by' : JsString) : JsString := replaceAllFrom piece by' 0 s

/-- An ASCII letter matches either case under the flag `i`. -/
def foldCase (c : CodeUnit) : CodeUnit := if 0x41 ≤ c && c ≤ 0x5A then c + 0x20 else c

/-- What follows `piece`, which has no capitals, where the text starts with it in any case. -/
def afterText (piece : JsString) (s : JsString) : Option JsString :=
  if piece = (s.take piece.length).map foldCase then some (s.drop piece.length) else none

def decimal (n : ℤ) : JsString := js (toString n)

theorem hexValue_hexDigit (n : ℕ) (h : n < 16) : hexValue (hexDigit n) = some n := by
  have all : ∀ m : Fin 16, hexValue (hexDigit m) = some m.val := by decide
  exact all ⟨n, h⟩

theorem includes_iff (s piece : JsString) : includes s piece = true ↔ piece <:+: s := by
  simp only [includes, List.any_eq_true, List.mem_tails, List.isPrefixOf_iff_prefix]
  rw [List.infix_iff_prefix_suffix]
  exact exists_congr fun t => and_comm

theorem startsWith_iff (s piece : JsString) : startsWith s piece = true ↔ piece <+: s :=
  List.isPrefixOf_iff_prefix

theorem mem_join (separator : JsString) (parts : List JsString) (c : CodeUnit)
    (h : c ∈ join separator parts) : c ∈ separator ∨ ∃ part ∈ parts, c ∈ part := by
  induction parts with
  | nil => simp [join] at h
  | cons part rest ih =>
    cases rest with
    | nil => exact .inr ⟨part, List.mem_cons_self, by simpa [join] using h⟩
    | cons next rest =>
      have hj : join separator (part :: next :: rest) =
          part ++ (separator ++ join separator (next :: rest)) := by
        simp [join, List.intercalate, List.intersperse]
      rw [hj, List.mem_append, List.mem_append] at h
      rcases h with h | h | h
      · exact .inr ⟨part, List.mem_cons_self, h⟩
      · exact .inl h
      · obtain hs | ⟨p, hp, hc⟩ := ih h
        · exact .inl hs
        · exact .inr ⟨p, List.mem_cons_of_mem _ hp, hc⟩

theorem mem_dropWhile {α : Type} (p : α → Bool) (xs : List α) (x : α) (hx : x ∈ xs)
    (hp : p x = false) : x ∈ xs.dropWhile p := by
  induction xs with
  | nil => cases hx
  | cons y ys ih =>
    by_cases hy : p y = true
    · rw [List.dropWhile_cons_of_pos hy]
      refine ih ((List.mem_cons.mp hx).resolve_left ?_)
      rintro rfl
      simp [hp] at hy
    · rwa [List.dropWhile_cons_of_neg hy]

theorem dropWhile_all {α : Type} (p : α → Bool) (xs : List α) (h : ∀ x ∈ xs, p x = true) :
    xs.dropWhile p = [] := by
  induction xs with
  | nil => rfl
  | cons x rest ih =>
    rw [List.dropWhile_cons_of_pos (h x List.mem_cons_self)]
    exact ih fun y hy => h y (List.mem_cons_of_mem _ hy)

theorem trimEnd_isPrefix (s : JsString) : trimEnd s <+: s := by
  have hsuffix := List.reverse_prefix.mpr (List.dropWhile_suffix isSpace (l := s.reverse))
  rw [List.reverse_reverse] at hsuffix
  exact hsuffix

theorem trim_isInfix (s : JsString) : trim s <:+: s :=
  (trimEnd_isPrefix (trimStart s)).isInfix.trans (List.dropWhile_suffix isSpace).isInfix

theorem trim_length (s : JsString) : (trim s).length ≤ s.length := (trim_isInfix s).length_le

theorem mem_trim (s : JsString) (c : CodeUnit) (hc : c ∈ s) (hs : isSpace c = false) :
    c ∈ trim s := by
  rw [trim, trimEnd, List.mem_reverse]
  exact mem_dropWhile _ _ _ (List.mem_reverse.mpr (mem_dropWhile _ _ _ hc hs)) hs

theorem trim_eq_nil (s : JsString) : trim s = [] ↔ ∀ c ∈ s, isSpace c = true := by
  constructor
  · intro h c hc
    by_contra hs
    exact List.ne_nil_of_mem (mem_trim s c hc (by simpa using hs)) h
  · intro h
    have hstart : trimStart s = [] := dropWhile_all isSpace s h
    rw [trim, hstart]
    rfl

theorem trimEnd_append_space (s : JsString) (c : CodeUnit) (h : isSpace c = true) :
    trimEnd (s ++ [c]) = trimEnd s := by
  rw [trimEnd, trimEnd, List.reverse_append, List.reverse_singleton, List.singleton_append,
    List.dropWhile_cons_of_pos h]

theorem trim_append_space (s : JsString) (c : CodeUnit) (h : isSpace c = true) :
    trim (s ++ [c]) = trim s := by
  have hstart : trimStart (s ++ [c]) = if (trimStart s).isEmpty then [] else trimStart s ++ [c] := by
    rw [trimStart, List.dropWhile_append, List.dropWhile_cons_of_pos h, List.dropWhile_nil]
    rfl
  rw [trim, hstart]
  cases hs : trimStart s with
  | nil => simp [trim, hs]
  | cons d rest => rw [trim, hs, ← trimEnd_append_space (d :: rest) c h]; rfl

theorem trimStart_of_head (s : JsString) (h : ∀ c, s.head? = some c → isSpace c = false) :
    trimStart s = s := by
  cases s with
  | nil => rfl
  | cons c rest =>
    exact List.dropWhile_cons_of_neg (by rw [h c rfl]; exact Bool.false_ne_true)

theorem head_trimStart (s : JsString) (c : CodeUnit) (h : (trimStart s).head? = some c) :
    isSpace c = false := by
  have hfirst := List.head?_dropWhile_not isSpace s
  unfold trimStart at h
  rw [h] at hfirst
  exact hfirst

theorem head_of_isPrefix (s t : JsString) (c : CodeUnit) (h : s <+: t) (hc : s.head? = some c) :
    t.head? = some c := by
  obtain ⟨tail, rfl⟩ := h
  cases s with
  | nil => cases hc
  | cons d rest => exact hc

theorem head_trim (s : JsString) (c : CodeUnit) (h : (trim s).head? = some c) :
    isSpace c = false :=
  head_trimStart s c (head_of_isPrefix _ _ c (trimEnd_isPrefix (trimStart s)) h)

theorem trim_trim (s : JsString) : trim (trim s) = trim s := by
  have hstart : trimStart (trim s) = trim s := trimStart_of_head _ (head_trim s)
  have hagain : trimEnd (trimEnd (trimStart s)) = trimEnd (trimStart s) := by
    change (trimStart ((trimStart (trimStart s).reverse).reverse.reverse)).reverse = _
    rw [List.reverse_reverse, trimStart_of_head _ (head_trimStart _)]
    rfl
  change trimEnd (trimStart (trim s)) = trim s
  rw [hstart]
  exact hagain

theorem dropWhile_none {α : Type} (p : α → Bool) (xs : List α) (h : ∀ x ∈ xs, p x = false) :
    xs.dropWhile p = xs := by
  cases xs with
  | nil => rfl
  | cons x rest =>
    rw [List.dropWhile_cons_of_neg]
    rw [h x List.mem_cons_self]
    exact Bool.false_ne_true

theorem trim_spaceless (s : JsString) (h : ∀ c ∈ s, isSpace c = false) : trim s = s := by
  rw [trim, trimStart, dropWhile_none isSpace s h, trimEnd,
    dropWhile_none isSpace s.reverse fun c hc => h c (List.mem_reverse.mp hc), List.reverse_reverse]

end Glassbeetle.JsText
