import Glassbeetle.TextPatterns

set_option autoImplicit false

/-!
# Redaction

`redact-error.ts`: what is left of the texts of an upstream error.
-/
namespace Glassbeetle.Redaction
open JsText TextPatterns

def redactedMarker : JsString := js "[REDACTED]"

def redactedKeyMarker : JsString := js "[REDACTED_API_KEY]"

/-- `[a-zA-Z0-9_-]` -/
def isKeyUnit (c : CodeUnit) : Bool := isWord c || c == 0x2D

/-- `[a-zA-Z0-9_.-]` -/
def isTokenUnit (c : CodeUnit) : Bool := isKeyUnit c || c == 0x2E

section Regexes
open Pattern

def openaiKeyRegex : Pattern := sequence [boundary, text (js "sk-"), many 20 isKeyUnit, boundary]

def anthropicKeyRegex : Pattern :=
  sequence [boundary, text (js "sk-ant-"), many 15 isKeyUnit, boundary]

def googleKeyRegex : Pattern := sequence [boundary, text (js "AIza"), many 30 isKeyUnit, boundary]

def bearerTokenRegex : Pattern := sequence [anyCase (js "bearer"), many 1 isSpace, many 1 isTokenUnit]

def queryParamGroup : Pattern :=
  sequence [unit fun c => c == 0x3F || c == 0x26,
    either (anyCase (js "key")) (either
      (sequence [anyCase (js "api"), optional (unit fun c => c == 0x5F || c == 0x2D),
        anyCase (js "key")])
      (either (anyCase (js "secret")) (anyCase (js "token")))),
    text (js "=")]

def queryParamValue : Pattern := .many 1 fun c => !(c == 0x26 || isSpace c)

def orgIdentifierRegex : Pattern :=
  sequence [boundary, either (sequence [anyCase (js "org-"), many 8 isAlphanumeric])
    (sequence [anyCase (js "organization:"), many 0 isSpace, many 1 isKeyUnit])]

def accountIdentifierRegex : Pattern :=
  sequence [boundary, either (sequence [anyCase (js "acc-"), many 8 isAlphanumeric])
    (sequence [anyCase (js "account"), optional (anyCase (js "_id")), text (js ":"), many 0 isSpace,
      many 1 isKeyUnit])]

def projectIdentifierRegex : Pattern :=
  sequence [boundary, either (anyCase (js "projects/"))
    (sequence [anyCase (js "project"), many 1 isSpace]), many 6 isDigit, boundary]

def userIdentifierRegex : Pattern :=
  sequence [boundary, anyCase (js "user"), optional (anyCase (js "_id")), text (js ":"),
    many 0 isSpace, many 1 isKeyUnit, boundary]

end Regexes

def replaceWith (regex : Pattern) (marker text : JsString) : JsString :=
  replaceMatches (replacing .empty regex fun _ => marker) text

/-- The configured secrets, each with all its occurrences. -/
def redactKnown (knownSecrets : List JsString) (text : JsString) : JsString :=
  knownSecrets.foldl (fun result secret =>
    if 3 < (trim secret).length then replaceAll result secret redactedMarker else result) text

def redactSecrets (text : JsString) (knownSecrets : List JsString) : JsString :=
  if text = [] then []
  else
    let result := redactKnown knownSecrets text
    let result := replaceWith anthropicKeyRegex redactedKeyMarker result
    let result := replaceWith openaiKeyRegex redactedKeyMarker result
    let result := replaceWith googleKeyRegex redactedKeyMarker result
    let result := replaceWith bearerTokenRegex (js "Bearer [REDACTED]") result
    let result := replaceMatches
      (replacing queryParamGroup queryParamValue fun group => group ++ redactedMarker) result
    let result := replaceWith orgIdentifierRegex (js "[REDACTED_ORG]") result
    let result := replaceWith accountIdentifierRegex (js "[REDACTED_ACCOUNT]") result
    let result := replaceWith projectIdentifierRegex (js "[REDACTED_PROJECT]") result
    replaceWith userIdentifierRegex (js "[REDACTED_USER]") result

structure ApiKey where
  text : JsString
  units : ∀ c ∈ text, isKeyUnit c = true
  long : 3 < text.length

def markers : List JsString :=
  [redactedMarker, redactedKeyMarker, js "[REDACTED_ORG]", js "[REDACTED_ACCOUNT]",
    js "[REDACTED_PROJECT]", js "[REDACTED_USER]"]

def redactionTexts : List JsString := js "Bearer" :: markers

def redactKeys (text : JsString) (knownSecrets : List JsString) : JsString :=
  replaceWith googleKeyRegex redactedKeyMarker
    (replaceWith openaiKeyRegex redactedKeyMarker
      (replaceWith anthropicKeyRegex redactedKeyMarker (redactKnown knownSecrets text)))

def bearerTokens (text : JsString) : List (JsString × JsString) :=
  matchAll (replacing .empty bearerTokenRegex fun _ => js "Bearer [REDACTED]") text

/-- A bearer token stands after the beginning of the key, and the word that replaces its `bearer`
begins with the rest. -/
def Completed (key text : JsString) : Prop :=
  ∃ u v before token, key = u ++ v ∧ v ≠ [] ∧ v <+: js "Bearer" ∧
    (before, token) ∈ bearerTokens text ∧ u <:+ before

/-- The bearer tokens that are left once the keys are cut complete the key. -/
def Respelt (key text : JsString) : Prop := Completed key (redactKeys text [key])

theorem completed_found (key text : JsString) (h : Completed key text) : bearerTokens text ≠ [] := by
  obtain ⟨-, -, before, token, -, -, -, hmem, -⟩ := h
  exact List.ne_nil_of_mem hmem

theorem isSpace_isKeyUnit (c : CodeUnit) (hc : isSpace c = true) : isKeyUnit c = false := by
  by_contra h
  rw [Bool.not_eq_false] at h
  simp only [isSpace, isKeyUnit, isWord, isAlphanumeric, isDigit, Bool.or_eq_true, Bool.and_eq_true,
    decide_eq_true_eq, beq_iff_eq, UInt16.le_iff_toNat_le, ← UInt16.toNat_inj,
    UInt16.reduceToNat] at hc h
  omega

theorem isKeyUnit_foldCase (c : CodeUnit) (h : isKeyUnit (foldCase c) = true) :
    isKeyUnit c = true := by
  unfold foldCase at h
  split_ifs at h with hcapital
  · simp only [isKeyUnit, isWord, isAlphanumeric, hcapital, Bool.or_true, Bool.true_or]
  · exact h

theorem marker_bounded (marker : JsString) (hmarker : marker ∈ markers) :
    Bounded isKeyUnit marker := by
  simp only [markers, List.mem_cons, List.not_mem_nil, or_false] at hmarker
  rcases hmarker with rfl | rfl | rfl | rfl | rfl | rfl <;>
    exact ⟨by decide, by decide⟩

variable {w : JsString}

theorem replaceWith_word (regex : Pattern) (marker text : JsString) (hmarker : marker ∈ markers)
    (hw : ∀ c ∈ w, isKeyUnit c = true) (h : w <:+: replaceWith regex marker text) :
    w <:+: text ∨ w <:+: marker := by
  have hr := replaceMatches_rewritten .empty regex (fun _ => []) marker text
  refine marked_word (marker_bounded marker hmarker) hw (hr.mono ?_) h
  rintro before gone replacement ⟨_, ⟨_, _, _, _, rfl⟩, he⟩
  exact ⟨[], List.nil_prefix, he⟩

theorem queryParams_word (hw : ∀ c ∈ w, isKeyUnit c = true) (text : JsString)
    (h : w <:+: replaceMatches
      (replacing queryParamGroup queryParamValue fun group => group ++ redactedMarker) text) :
    w <:+: text ∨ w <:+: redactedMarker := by
  have hr := replaceMatches_rewritten queryParamGroup queryParamValue id redactedMarker text
  refine marked_word (marker_bounded _ (by simp [markers])) hw (hr.mono ?_) h
  rintro before gone replacement ⟨group, ⟨_, _, hgroup, _, rfl⟩, he⟩
  exact ⟨group, hgroup, he⟩

/-- A key that the rewriting of the bearer tokens leaves was there, or is completed by it. -/
theorem bearer_word (hw : ∀ c ∈ w, isKeyUnit c = true) (hbearer : ¬w <:+: js "Bearer")
    (hmarker : ¬w <:+: redactedMarker) (text : JsString)
    (h : w <:+: replaceWith bearerTokenRegex (js "Bearer [REDACTED]") text) :
    w <:+: text ∨ Completed w text := by
  have hsplit : js "Bearer [REDACTED]" = js "Bearer" ++ js " [REDACTED]" := by decide
  unfold Completed bearerTokens
  rw [replaceWith, hsplit] at h
  rw [hsplit]
  have hr := replaceMatches_rewritten .empty bearerTokenRegex (fun _ => js "Bearer")
    (js " [REDACTED]") text
  have hm : Bounded isKeyUnit (js " [REDACTED]") := ⟨by decide, by decide⟩
  cases rewritten_word hm hw hr h with
  | text h => exact .inl h
  | marker h =>
    have hspace : Bounded isKeyUnit (js " ") := ⟨by decide, by decide⟩
    rcases infix_bounded hspace hw [] redactedMarker h with h | h | h
    · exact absurd (List.infix_nil.mp h ▸ List.nil_infix) hmarker
    · exact absurd (infix_outside hw (js " ") (each_of_all _ (by decide)) h ▸ List.nil_infix) hmarker
    · exact absurd h hmarker
  | shown before gone shown hR hgone h =>
    obtain ⟨-, -, -, -, rfl⟩ := hR
    exact absurd h hbearer
  | completed before u v gone shown hkey hv hshown hR hu =>
    obtain ⟨hmem, -, -, -, rfl⟩ := hR
    exact .inr ⟨u, v, before ++ u, gone, hkey, hv, hshown, hmem, List.suffix_append before u⟩

theorem isKeyUnit_isTokenUnit (c : CodeUnit) (h : isKeyUnit c = true) : isTokenUnit c = true := by
  rw [isTokenUnit, h, Bool.true_or]

theorem bearer_separated (marker : JsString) :
    Separated isTokenUnit (replacing .empty bearerTokenRegex fun _ => marker) := by
  intro previous s n replacement h
  rw [replacing_empty] at h
  obtain ⟨k, hk, hpair⟩ := Option.map_eq_some_iff.mp h
  obtain ⟨rfl, rfl⟩ := Prod.mk.inj hpair
  have hgreedy : bearerTokenRegex.Greedy isTokenUnit :=
    greedy_seq _ _ _ (greedy_seq _ _ _ (greedy_last _ _ (greedy_many 1 isTokenUnit)))
  refine ⟨?_, hgreedy previous s _ hk⟩
  obtain ⟨-, bearer, tail, hs, hbearer, -⟩ :=
    lengths_matches bearerTokenRegex previous s _ (List.mem_of_head? hk)
  have hfold := (matches_anyCase (js "bearer") bearer).mp hbearer
  obtain ⟨c, bearer, rfl, hc, -⟩ := List.map_eq_cons_iff.mp hfold
  have hletter : isKeyUnit c = true := isKeyUnit_foldCase c (by rw [hc]; decide)
  cases s with
  | nil => cases hs
  | cons d rest =>
    obtain ⟨rfl, -⟩ := List.cons.inj hs
    exact isKeyUnit_isTokenUnit d hletter

theorem completed_shown (hw : ∀ c ∈ w, isKeyUnit c = true) (text : JsString)
    (h : Completed w text) : w <:+: replaceWith bearerTokenRegex (js "Bearer [REDACTED]") text := by
  obtain ⟨u, v, before, token, rfl, -, hv, hmem, hu⟩ := h
  have hunits : ∀ c ∈ u, isTokenUnit c = true := fun c hc =>
    isKeyUnit_isTokenUnit c (hw c (List.mem_append_left v hc))
  obtain ⟨n, previous, s, replacement, hmatch, hin⟩ :=
    matchAll_shown (bearer_separated _) before hmem hunits hu
  rw [replacing_empty] at hmatch
  obtain ⟨k, _, hpair⟩ := Option.map_eq_some_iff.mp hmatch
  obtain ⟨rfl, rfl⟩ := Prod.mk.inj hpair
  have hrest : v <+: js "Bearer [REDACTED]" := hv.trans ⟨js " [REDACTED]", by decide⟩
  exact ((List.prefix_append_right_inj u).mpr hrest).isInfix.trans hin

theorem key_ne_nil (key : ApiKey) : key.text ≠ [] :=
  List.length_pos_iff.mp (Nat.zero_lt_of_lt key.long)

theorem redactKnown_key (key : ApiKey) (text : JsString) :
    redactKnown [key.text] text = replaceAll text key.text redactedMarker := by
  have htrim : trim key.text = key.text := trim_spaceless key.text fun c hc => by
    by_contra h
    rw [Bool.not_eq_false] at h
    exact Bool.false_ne_true ((isSpace_isKeyUnit c h).symm.trans (key.units c hc))
  unfold redactKnown
  rw [List.foldl_cons, List.foldl_nil, htrim, if_pos key.long]

section Steps
variable (key : ApiKey) (hown : ∀ own ∈ redactionTexts, ¬key.text <:+: own)
include hown

theorem replaceWith_clear (regex : Pattern) (marker text : JsString)
    (hmarker : marker ∈ markers) (h : ¬key.text <:+: text) : ¬key.text <:+: replaceWith regex marker text := by
  intro hin
  rcases replaceWith_word regex marker text hmarker key.units hin with hin | hin
  · exact h hin
  · exact hown marker (List.mem_cons_of_mem _ hmarker) hin

theorem redactKeys_clear (text : JsString) : ¬key.text <:+: redactKeys text [key.text] := by
  apply replaceWith_clear key hown _ _ _ (by simp [markers])
  apply replaceWith_clear key hown _ _ _ (by simp [markers])
  apply replaceWith_clear key hown _ _ _ (by simp [markers])
  rw [redactKnown_key]
  exact replaceAll_removes (marker_bounded redactedMarker (by simp [markers])) key.units (key_ne_nil key)
    (hown redactedMarker (by simp [redactionTexts, markers])) text

/-- After the bearer tokens the key is there exactly if one of them completed it. -/
theorem bearer_clear_iff (text : JsString) :
    ¬key.text <:+: replaceWith bearerTokenRegex (js "Bearer [REDACTED]") (redactKeys text [key.text]) ↔
      ¬Respelt key.text text := by
  refine not_congr ⟨fun h => ?_, completed_shown key.units _⟩
  have hbearer := bearer_word key.units (hown _ (by simp [redactionTexts, markers]))
    (hown _ (by simp [redactionTexts, markers])) _ h
  exact hbearer.resolve_left (redactKeys_clear key hown text)

theorem redactSecrets_clear (text : JsString) (hspelt : ¬Respelt key.text text) :
    ¬key.text <:+: redactSecrets text [key.text] := by
  unfold redactSecrets
  split_ifs with hempty
  · exact fun h => key_ne_nil key (List.infix_nil.mp h)
  dsimp only
  apply replaceWith_clear key hown _ _ _ (by simp [markers])
  apply replaceWith_clear key hown _ _ _ (by simp [markers])
  apply replaceWith_clear key hown _ _ _ (by simp [markers])
  apply replaceWith_clear key hown _ _ _ (by simp [markers])
  intro hquery
  rcases queryParams_word key.units _ hquery with hbearer | hmarker
  · exact (bearer_clear_iff key hown text).mpr hspelt hbearer
  · exact hown redactedMarker (by simp [redactionTexts, markers]) hmarker

end Steps

example : redactSecrets (js "?token=jqzbearer tok") [js "jqzBearer"] =
    js "?token=[REDACTED] [REDACTED]" := by
  decide +kernel

end Glassbeetle.Redaction
