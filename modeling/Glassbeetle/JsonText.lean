import Glassbeetle.JsText

set_option autoImplicit false

/-!
# JSON texts of string arrays

What `JSON.stringify` writes for an array of strings, and a reader of such texts.
-/
namespace Glassbeetle.JsonText
open JsText

/-- `\uXXXX` -/
def unicodeEscape (c : CodeUnit) : JsString :=
  [0x5C, 0x75, hexDigit (c.toNat / 4096), hexDigit (c.toNat / 256 % 16), hexDigit (c.toNat / 16 % 16),
    hexDigit (c.toNat % 16)]

def letters : List (CodeUnit × CodeUnit) :=
  [(0x22, 0x22), (0x5C, 0x5C), (0x08, 0x62), (0x09, 0x74), (0x0A, 0x6E), (0x0C, 0x66), (0x0D, 0x72)]

def quoteUnit (c : CodeUnit) : JsString :=
  match letters.find? (·.1 = c) with
  | some (_, letter) => [0x5C, letter]
  | none => if c < 0x20 || isHigh c || isLow c then unicodeEscape c else [c]

/-- A surrogate is escaped unless it has its other half. -/
def quoteUnits : JsString → JsString
  | [] => []
  | [c] => quoteUnit c
  | c :: d :: rest =>
    if isHigh c && isLow d then c :: d :: quoteUnits rest else quoteUnit c ++ quoteUnits (d :: rest)

def quote (s : JsString) : JsString := 0x22 :: quoteUnits s ++ [0x22]

/-- `JSON.stringify(texts)` -/
def stringify (texts : List JsString) : JsString := 0x5B :: join [0x2C] (texts.map quote) ++ [0x5D]

/-- Where the reader of a string stands: between units, after a backslash, or before the last
`left + 1` digits of an escape. -/
inductive Mode where
  | plain
  | escaped
  | digits (left value : ℕ)

def readUnits : Mode → JsString → Option (JsString × JsString)
  | _, [] => none
  | .plain, c :: rest =>
    if c = 0x22 then some ([], rest)
    else if c = 0x5C then readUnits .escaped rest
    else (readUnits .plain rest).map fun p => (c :: p.1, p.2)
  | .escaped, c :: rest =>
    if c = 0x75 then readUnits (.digits 3 0) rest
    else match (letters.find? (·.2 = c)) with
      | some (unit, _) => (readUnits .plain rest).map fun p => (unit :: p.1, p.2)
      | none => none
  | .digits left value, c :: rest =>
    match hexValue c with
    | none => none
    | some digit =>
      if left = 0 then
        (readUnits .plain rest).map fun p => (UInt16.ofNat (value * 16 + digit) :: p.1, p.2)
      else readUnits (.digits (left - 1) (value * 16 + digit)) rest

def readItems : ℕ → JsString → Option (List JsString)
  | 0, _ => none
  | fuel + 1, text =>
    if text.head? = some 0x22 then
      match readUnits .plain text.tail with
      | none => none
      | some (s, rest) =>
        if rest = [0x5D] then some [s]
        else if rest.head? = some 0x2C then (readItems fuel rest.tail).map (s :: ·)
        else none
    else none

def parseStrings (text : JsString) : Option (List JsString) :=
  if text = [0x5B, 0x5D] then some []
  else if text.head? = some 0x5B then readItems text.length text.tail
  else none

theorem readUnits_digit (left value n : ℕ) (h : n < 16) (rest : JsString) :
    readUnits (.digits left value) (hexDigit n :: rest) =
      if left = 0 then
        (readUnits .plain rest).map fun p => (UInt16.ofNat (value * 16 + n) :: p.1, p.2)
      else readUnits (.digits (left - 1) (value * 16 + n)) rest := by
  rw [readUnits, hexValue_hexDigit n h]

theorem readUnits_digits (a b c d : ℕ) (ha : a < 16) (hb : b < 16) (hc : c < 16) (hd : d < 16)
    (rest : JsString) :
    readUnits (.digits 3 0) (hexDigit a :: hexDigit b :: hexDigit c :: hexDigit d :: rest) =
      (readUnits .plain rest).map fun p =>
        (UInt16.ofNat ((((0 * 16 + a) * 16 + b) * 16 + c) * 16 + d) :: p.1, p.2) := by
  rw [readUnits_digit 3 0 a ha, if_neg (by decide)]
  rw [readUnits_digit 2 _ b hb, if_neg (by decide)]
  rw [readUnits_digit 1 _ c hc, if_neg (by decide)]
  rw [readUnits_digit 0 _ d hd, if_pos rfl]

theorem readUnits_quoteUnit (c : CodeUnit) (rest : JsString) :
    readUnits .plain (quoteUnit c ++ rest) =
      (readUnits .plain rest).map fun p => (c :: p.1, p.2) := by
  unfold quoteUnit
  cases hletter : letters.find? (·.1 = c) with
  | some entry =>
    have hread : ∀ entry ∈ letters, entry.2 ≠ 0x75 ∧
        letters.find? (·.2 = entry.2) = some entry := by
      simp only [letters, List.forall_mem_cons]
      refine ⟨?_, ?_, ?_, ?_, ?_, ?_, ?_, fun _ h => absurd h List.not_mem_nil⟩ <;>
        exact ⟨by decide, rfl⟩
    obtain ⟨hne, hfind⟩ := hread entry (List.mem_of_find?_eq_some hletter)
    obtain rfl : entry.1 = c := by simpa using List.find?_some hletter
    change readUnits .plain (0x5C :: entry.2 :: rest) = _
    rw [readUnits, if_neg (by decide), if_pos rfl, readUnits, if_neg hne, hfind]
  | none =>
    have hnone : c ≠ 0x22 ∧ c ≠ 0x5C := by
      constructor
      · rintro rfl
        cases hletter
      · rintro rfl
        cases hletter
    dsimp only
    split_ifs
    · have hlt : c.toNat < 65536 := c.toNat_lt
      have hvalue : (((0 * 16 + c.toNat / 4096) * 16 + c.toNat / 256 % 16) * 16 +
          c.toNat / 16 % 16) * 16 + c.toNat % 16 = c.toNat := by
        omega
      have hdigits := readUnits_digits (c.toNat / 4096) (c.toNat / 256 % 16) (c.toNat / 16 % 16)
        (c.toNat % 16) (by omega) (by omega) (by omega) (by omega) rest
      rw [hvalue, UInt16.ofNat_toNat] at hdigits
      have hescape : ∀ text, readUnits .plain (0x5C :: text) = readUnits .escaped text := fun text => by
        rw [readUnits, if_neg (by decide), if_pos rfl]
      have hunicode : ∀ text, readUnits .escaped (0x75 :: text) = readUnits (.digits 3 0) text :=
        fun text => by rw [readUnits, if_pos rfl]
      exact (hescape _).trans ((hunicode _).trans hdigits)
    · change readUnits .plain (c :: rest) = _
      rw [readUnits, if_neg hnone.1, if_neg hnone.2]

theorem readUnits_surrogate (c : CodeUnit) (h : isHigh c = true ∨ isLow c = true) (rest : JsString) :
    readUnits .plain (c :: rest) = (readUnits .plain rest).map fun p => (c :: p.1, p.2) := by
  have hne : c ≠ 0x22 ∧ c ≠ 0x5C := by
    constructor
    · rintro rfl
      revert h
      decide
    · rintro rfl
      revert h
      decide
  rw [readUnits, if_neg hne.1, if_neg hne.2]

theorem readUnits_quoteUnits (s rest : JsString) :
    readUnits .plain (quoteUnits s ++ 0x22 :: rest) = some (s, rest) := by
  induction s using quoteUnits.induct with
  | case1 => rw [quoteUnits, List.nil_append, readUnits, if_pos rfl]
  | case2 c => rw [quoteUnits, readUnits_quoteUnit, readUnits, if_pos rfl]; rfl
  | case3 c d tail hpair ih =>
    obtain ⟨hhigh, hlow⟩ := Bool.and_eq_true_iff.mp hpair
    rw [quoteUnits, if_pos hpair, List.cons_append, List.cons_append,
      readUnits_surrogate c (.inl hhigh), readUnits_surrogate d (.inr hlow), ih]
    rfl
  | case4 c d tail hpair ih =>
    rw [quoteUnits, if_neg hpair, List.append_assoc, readUnits_quoteUnit, ih]
    rfl

theorem readItems_quote (fuel : ℕ) (s tail : JsString) :
    readItems (fuel + 1) (quote s ++ tail) =
      if tail = [0x5D] then some [s]
      else if tail.head? = some 0x2C then (readItems fuel tail.tail).map (s :: ·)
      else none := by
  have htext : quote s ++ tail = 0x22 :: (quoteUnits s ++ 0x22 :: tail) := by
    unfold quote
    rw [List.append_assoc, List.cons_append, List.singleton_append]
  rw [htext, readItems, List.head?_cons, if_pos rfl, List.tail_cons, readUnits_quoteUnits]

theorem join_single (s : JsString) : join [0x2C] ([s].map quote) = quote s := by
  simp [join, List.intercalate]

theorem join_quote (s t : JsString) (rest : List JsString) :
    join [0x2C] ((s :: t :: rest).map quote) =
      quote s ++ 0x2C :: join [0x2C] ((t :: rest).map quote) := by
  simp [join, List.intercalate]

theorem readItems_join (texts : List JsString) (fuel : ℕ) (hfuel : texts.length ≤ fuel)
    (hne : texts ≠ []) : readItems fuel (join [0x2C] (texts.map quote) ++ [0x5D]) = some texts := by
  induction texts generalizing fuel with
  | nil => exact absurd rfl hne
  | cons s rest ih =>
    cases fuel with
    | zero => cases hfuel
    | succ fuel =>
      cases rest with
      | nil =>
        rw [join_single, readItems_quote, if_pos rfl]
      | cons t rest =>
        have hrest := ih fuel (Nat.le_of_succ_le_succ hfuel) (List.cons_ne_nil _ _)
        have hcomma : (0x2C :: (join [0x2C] ((t :: rest).map quote) ++ [0x5D]) : JsString) ≠ [0x5D] :=
          fun h => absurd (List.cons.inj h).1 (by decide)
        rw [join_quote, List.append_assoc, List.cons_append, readItems_quote, if_neg hcomma]
        change (readItems fuel (join [0x2C] ((t :: rest).map quote) ++ [0x5D])).map (s :: ·) = _
        rw [hrest]
        rfl

theorem join_length (texts : List JsString) :
    texts.length ≤ (join [0x2C] (texts.map quote)).length := by
  induction texts with
  | nil => exact Nat.le_refl _
  | cons s rest ih =>
    cases rest with
    | nil =>
      rw [join_single]
      exact Nat.succ_le_succ (Nat.zero_le _)
    | cons t rest =>
      rw [join_quote]
      simp only [List.length_cons, List.length_append] at ih ⊢
      omega

/-- Different arrays have different texts, and the text gives the array back. -/
theorem parseStrings_stringify (texts : List JsString) :
    parseStrings (stringify texts) = some texts := by
  unfold parseStrings stringify
  cases texts with
  | nil => rfl
  | cons s rest =>
    have hlength := join_length (s :: rest)
    rw [List.cons_append, if_neg fun h => ?_, List.head?_cons, if_pos rfl, List.tail_cons,
      readItems_join _ _ ?_ (List.cons_ne_nil _ _)]
    · simp only [List.length_cons, List.length_append] at hlength ⊢
      omega
    · have htail := congrArg List.length (List.cons.inj h).2
      rw [List.length_append] at htail
      simp only [List.length_cons, List.length_nil] at htail hlength
      omega

end Glassbeetle.JsonText
