import Glassbeetle.Credentials

set_option autoImplicit false

namespace Glassbeetle.MaskedKeys
open JsText Credentials

structure MaskKeyOptions where
  suffixLength : Option ℕ
  customPrefix : Option JsString

/-- `s.slice(start)`: a negative start counts from the back. -/
def sliceFrom (s : JsString) (start : ℤ) : JsString :=
  s.drop (if start < 0 then (s.length + start).toNat else start.toNat)

def knownPrefix (key : JsString) : JsString :=
  (KNOWN_CREDENTIAL_PREFIXES.find? fun text => startsWith key text).getD []

def matchedPrefix (key : JsString) : Option JsString → JsString
  | some custom => if custom ≠ [] ∧ startsWith key custom then custom else knownPrefix key
  | none => knownPrefix key

def MaskKeyOptions.suffix (options : MaskKeyOptions) : ℕ :=
  options.suffixLength.getD DEFAULT_SUFFIX_LENGTH

def preview (key matched : JsString) (suffixLength : ℕ) : JsString :=
  if matched ≠ [] ∧ matched.length + suffixLength + 1 ≤ key.length then
    matched ++ MASK_ELLIPSIS ++ sliceFrom key (-suffixLength)
  else MASK_ELLIPSIS ++ sliceFrom key (-suffixLength)

def maskKey (key : Option JsString) (options : MaskKeyOptions) : JsString :=
  let key := key.getD []
  if key = [] then []
  else if key.length ≤ options.suffix then MASK_ELLIPSIS
  else preview key (matchedPrefix key options.customPrefix) options.suffix

/-- The prefix that may be shown: the one that was matched, which is the custom one or a known one. -/
def Recognised (key : JsString) (customPrefix : Option JsString) (shown : JsString) : Prop :=
  shown = matchedPrefix key customPrefix ∧
    (customPrefix = some shown ∨ shown ∈ KNOWN_CREDENTIAL_PREFIXES)

/-- The preview shows a recognised prefix at most and the end of the key, with something hidden
between them. -/
def Masked (key : JsString) (options : MaskKeyOptions) (text : JsString) : Prop :=
  key = [] ∧ text = [] ∨
    ∃ shown hidden suffix, key = shown ++ hidden ++ suffix ∧
      text = shown ++ MASK_ELLIPSIS ++ suffix ∧
      (shown = [] ∨ Recognised key options.customPrefix shown) ∧
      suffix.length ≤ options.suffix ∧ hidden ≠ []

theorem sliceFrom_last (s : JsString) (n : ℕ) (hn : n ≠ 0) :
    sliceFrom s (-n) = s.drop (s.length - n) := by
  unfold sliceFrom
  rw [if_pos (by omega)]
  congr 1
  omega

theorem sliceFrom_zero (s : JsString) : sliceFrom s (-(0 : ℕ)) = s := rfl

theorem matchedPrefix_startsWith (key : JsString) (customPrefix : Option JsString) :
    matchedPrefix key customPrefix <+: key := by
  have hknown : knownPrefix key <+: key := by
    unfold knownPrefix
    cases hfind : KNOWN_CREDENTIAL_PREFIXES.find? fun text => startsWith key text with
    | none => exact List.nil_prefix
    | some text => exact (startsWith_iff key text).mp (List.find?_some hfind)
  cases customPrefix with
  | none => exact hknown
  | some custom =>
    rw [matchedPrefix]
    split_ifs with hcustom
    · exact (startsWith_iff key custom).mp hcustom.2
    · exact hknown

theorem matchedPrefix_recognised (key : JsString) (customPrefix : Option JsString)
    (h : matchedPrefix key customPrefix ≠ []) :
    Recognised key customPrefix (matchedPrefix key customPrefix) := by
  refine ⟨rfl, ?_⟩
  have hknown : knownPrefix key ≠ [] → knownPrefix key ∈ KNOWN_CREDENTIAL_PREFIXES := by
    unfold knownPrefix
    cases hfind : KNOWN_CREDENTIAL_PREFIXES.find? fun text => startsWith key text with
    | none => exact fun hne => absurd rfl hne
    | some text => exact fun _ => List.mem_of_find?_eq_some hfind
  cases customPrefix with
  | none => exact .inr (hknown h)
  | some custom =>
    rw [matchedPrefix] at h ⊢
    split_ifs at h ⊢ with hcustom
    · exact .inl rfl
    · exact .inr (hknown h)

theorem between (key shown : JsString) (n : ℕ) (hfront : shown <+: key)
    (hroom : shown.length + n < key.length) :
    ∃ hidden, key = shown ++ hidden ++ key.drop (key.length - n) ∧ hidden ≠ [] := by
  obtain ⟨rest, rfl⟩ := hfront
  rw [List.length_append] at hroom
  refine ⟨rest.take (rest.length - n), ?_, ?_⟩
  · have hdrop : (shown ++ rest).length - n = shown.length + (rest.length - n) := by
      rw [List.length_append]
      omega
    rw [hdrop, ← List.drop_drop, List.drop_left, List.append_assoc, List.take_append_drop]
  · apply List.ne_nil_of_length_pos
    rw [List.length_take]
    omega

theorem masked_preview (key : JsString) (options : MaskKeyOptions)
    (hlong : options.suffix < key.length) (hsuffix : options.suffix ≠ 0) :
    Masked key options
      (preview key (matchedPrefix key options.customPrefix) options.suffix) := by
  have hlast : (key.drop (key.length - options.suffix)).length ≤ options.suffix := by
    rw [List.length_drop]
    omega
  unfold preview
  rw [sliceFrom_last key _ hsuffix]
  split_ifs with hshown
  · obtain ⟨hmatched, hroom⟩ := hshown
    obtain ⟨hidden, hkey, hne⟩ := between key _ options.suffix
      (matchedPrefix_startsWith key options.customPrefix) hroom
    exact .inr ⟨_, hidden, _, hkey, rfl,
      .inr (matchedPrefix_recognised key options.customPrefix hmatched), hlast, hne⟩
  · obtain ⟨hidden, hkey, hne⟩ := between key [] options.suffix List.nil_prefix
      (by rw [List.length_nil]; omega)
    exact .inr ⟨[], hidden, _, hkey, rfl, .inl rfl, hlast, hne⟩

theorem masked_length (key : JsString) (options : MaskKeyOptions) (text : JsString)
    (h : Masked key options text) (hkey : key ≠ []) : text.length ≤ key.length := by
  rcases h with ⟨hempty, -⟩ | ⟨shown, hidden, suffix, rfl, rfl, -, -, hhidden⟩
  · exact absurd hempty hkey
  · have hpos := List.length_pos_of_ne_nil hhidden
    have hellipsis : MASK_ELLIPSIS.length = 1 := rfl
    simp only [List.length_append, hellipsis]
    omega

theorem preview_zero_length (key matched : JsString) :
    key.length < (preview key matched 0).length := by
  have hellipsis : MASK_ELLIPSIS.length = 1 := rfl
  unfold preview
  rw [sliceFrom_zero]
  split_ifs
  · simp only [List.length_append, hellipsis]
    omega
  · simp only [List.length_append, hellipsis]
    omega

theorem not_masked_zero (key : JsString) (hkey : key ≠ []) (customPrefix : Option JsString) :
    ¬Masked key ⟨some 0, customPrefix⟩ (maskKey (some key) ⟨some 0, customPrefix⟩) := by
  intro h
  have hshort := masked_length key _ _ h hkey
  have hlong := preview_zero_length key (matchedPrefix key customPrefix)
  have hcalled : maskKey (some key) ⟨some 0, customPrefix⟩ =
      preview key (matchedPrefix key customPrefix) 0 := by
    unfold maskKey
    rw [Option.getD_some, if_neg hkey, if_neg]
    · rfl
    · exact Nat.not_le_of_lt (List.length_pos_of_ne_nil hkey)
  rw [hcalled] at hshort
  omega

theorem masked_maskKey (key : Option JsString) (options : MaskKeyOptions)
    (h : key.getD [] = [] ∨ options.suffixLength ≠ some 0) :
    Masked (key.getD []) options (maskKey key options) := by
  unfold maskKey
  dsimp only
  split_ifs with hempty hshort
  · exact .inl ⟨hempty, rfl⟩
  · exact .inr ⟨[], key.getD [], [], (List.append_nil _).symm, rfl, .inl rfl, Nat.zero_le _, hempty⟩
  · apply masked_preview _ _ (Nat.lt_of_not_le hshort)
    have hsuffix := h.resolve_left hempty
    unfold MaskKeyOptions.suffix
    cases hlength : options.suffixLength with
    | none => exact Nat.succ_ne_zero 3
    | some n =>
      rintro rfl
      exact hsuffix hlength

theorem maskKey_default (key : JsString) :
    Credentials.maskKey key = maskKey (some key) ⟨none, none⟩ := by
  change _ = if key = [] then [] else if key.length ≤ DEFAULT_SUFFIX_LENGTH then MASK_ELLIPSIS
    else preview key (matchedPrefix key none) DEFAULT_SUFFIX_LENGTH
  rw [preview, sliceFrom_last key DEFAULT_SUFFIX_LENGTH (Nat.succ_ne_zero 3)]
  rfl

theorem stored_preview_masked (key : JsString) :
    Masked key ⟨none, none⟩ (Credentials.maskKey key) := by
  rw [maskKey_default]
  exact masked_maskKey (some key) ⟨none, none⟩ (.inr (Option.some_ne_none 0).symm)

/-- A preview keeps its promise exactly when the key is empty or some suffix is asked for. -/
theorem maskKey_masks (key : Option JsString) (options : MaskKeyOptions) :
    Masked (key.getD []) options (maskKey key options) ↔
      key.getD [] = [] ∨ options.suffixLength ≠ some 0 := by
  constructor
  · intro h
    by_contra hneither
    obtain ⟨hkey, hzero⟩ := not_or.mp hneither
    obtain ⟨suffixLength, customPrefix⟩ := options
    obtain rfl : suffixLength = some 0 := Classical.not_not.mp hzero
    cases key with
    | none => exact hkey rfl
    | some key => exact not_masked_zero key hkey customPrefix h
  · exact masked_maskKey key options

/-- With a suffix of length zero the preview of a key ends with the key. -/
theorem maskKey_shows_all :
    ¬Masked (js "sk-secret") ⟨some 0, none⟩ (maskKey (some (js "sk-secret")) ⟨some 0, none⟩) :=
  not_masked_zero (js "sk-secret") (by decide) none

example : maskKey (some (js "sk-secret")) ⟨some 0, none⟩ = js "sk-…sk-secret" := by decide

end Glassbeetle.MaskedKeys
