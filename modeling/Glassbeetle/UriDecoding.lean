import Glassbeetle.Utf8

set_option autoImplicit false

/-!
# `decodeURIComponent`

Escapes are read first, so that a multi-byte sequence is a run of adjacent
octets; a code unit standing for itself ends every run.
-/
namespace Glassbeetle.UriDecoding
open JsText

def percent : CodeUnit := 0x25

inductive Token where
  | unit (c : CodeUnit)
  | octet (b : ℕ)
  deriving DecidableEq, Repr

def tokens : JsString → Option (List Token)
  | [] => some []
  | c :: rest =>
    if c = percent then
      match rest with
      | d :: e :: rest =>
        match hexValue d, hexValue e with
        | some hi, some lo => (tokens rest).map (.octet (16 * hi + lo) :: ·)
        | _, _ => none
      | _ => none
    else (tokens rest).map (.unit c :: ·)

def decodeTokens : Option Utf8.Pending → List Token → Option JsString
  | none, [] => some []
  | some _, [] => none
  | none, .unit c :: rest => (decodeTokens none rest).map (c :: ·)
  | some _, .unit _ :: _ => none
  | pending, .octet b :: rest =>
    match Utf8.read pending b with
    | .point p => (decodeTokens none rest).map (utf16 p ++ ·)
    | .more q => decodeTokens (some q) rest
    | .invalid => none

/-- `none` is the `URIError` of malformed percent-encoding. -/
def decodeURIComponent (s : JsString) : Option JsString := (tokens s).bind (decodeTokens none)

theorem tokens_unit (c : CodeUnit) (rest : JsString) (h : c ≠ percent) :
    tokens (c :: rest) = (tokens rest).map (.unit c :: ·) := by
  conv_lhs => unfold tokens
  exact if_neg h

theorem tokens_escape (rest : JsString) (ts : List Token)
    (h : tokens (percent :: rest) = some ts) : ∃ d e tail hi lo us,
      rest = d :: e :: tail ∧ hexValue d = some hi ∧ hexValue e = some lo ∧
        tokens tail = some us ∧ ts = .octet (16 * hi + lo) :: us := by
  unfold tokens at h
  rw [if_pos rfl] at h
  match rest, h with
  | d :: e :: tail, h =>
    dsimp only at h
    split at h
    · rename_i hi lo hd he
      obtain ⟨us, hus, hts⟩ := Option.map_eq_some_iff.mp h
      exact ⟨d, e, tail, hi, lo, us, rfl, hd, he, hus, hts.symm⟩
    · cases h

theorem hexValue_percent : hexValue percent = none := by decide

theorem tokens_literal (s : JsString) (h : percent ∉ s) :
    tokens s = some (s.map .unit) := by
  induction s with
  | nil => rfl
  | cons c rest ih =>
    have hc : c ≠ percent := fun e => h (by simp [e])
    have hr : percent ∉ rest := fun e => h (by simp [e])
    rw [tokens_unit c rest hc, ih hr]
    rfl

theorem decodeTokens_literal (s : JsString) : decodeTokens none (s.map .unit) = some s := by
  induction s with
  | nil => rfl
  | cons c rest ih => simp [decodeTokens, ih]

theorem decode_literal (s : JsString) (h : percent ∉ s) : decodeURIComponent s = some s := by
  rw [decodeURIComponent, tokens_literal s h]
  exact decodeTokens_literal s

theorem utf16_length (point : ℕ) : (utf16 point).length ≤ 2 := by
  unfold utf16
  split_ifs <;> simp

theorem utf16_ascii (b : ℕ) (h : b < 0x80) : utf16 b = [UInt16.ofNat b] :=
  if_pos (by omega)

theorem decodeTokens_length (ts : List Token) (pending : Option Utf8.Pending) (d : JsString)
    (h : decodeTokens pending ts = some d) :
    d.length ≤ ts.length + (if pending.isSome then 1 else 0) := by
  induction ts generalizing pending d with
  | nil =>
    cases pending with
    | none => simp [decodeTokens] at h; simp [← h]
    | some q => simp [decodeTokens] at h
  | cons t rest ih =>
    cases t with
    | unit c =>
      cases pending with
      | none =>
        obtain ⟨e, he, rfl⟩ := Option.map_eq_some_iff.mp h
        simpa using ih none e he
      | some q => simp [decodeTokens] at h
    | octet b =>
      simp only [decodeTokens] at h
      split at h
      · rename_i p hp
        obtain ⟨e, he, rfl⟩ := Option.map_eq_some_iff.mp h
        have old := ih none e he
        have two := utf16_length p
        cases pending with
        | none =>
          obtain ⟨rfl, hb⟩ := Utf8.lead_point b p hp
          simpa [utf16_ascii p hb] using old
        | some q =>
          simp only [Option.isSome_none, Bool.false_eq_true, ↓reduceIte, Nat.add_zero] at old
          simp only [List.length_append, List.length_cons, Option.isSome_some, ↓reduceIte]
          omega
      · have old := ih _ d h
        simp only [Option.isSome_some, ↓reduceIte] at old
        simp only [List.length_cons]
        omega
      · cases h

theorem tokens_length (s : JsString) (ts : List Token) (h : tokens s = some ts) :
    ts.length ≤ s.length ∧ (percent ∈ s → ts.length + 2 ≤ s.length) := by
  induction hn : s.length using Nat.strong_induction_on generalizing s ts with
  | _ n ih =>
  cases s with
  | nil =>
    obtain rfl : ts = [] := by simpa [tokens] using h.symm
    exact ⟨by simp, fun hp => absurd hp (by simp)⟩
  | cons c rest =>
    by_cases hc : c = percent
    · subst hc
      obtain ⟨d, e, tail, hi, lo, us, rfl, _, _, hus, rfl⟩ := tokens_escape rest ts h
      have hlen : n = tail.length + 3 := by simpa using hn.symm
      have old := (ih tail.length (by omega) tail us hus rfl).1
      exact ⟨by simp only [List.length_cons]; omega, fun _ => by simp only [List.length_cons]; omega⟩
    · rw [tokens_unit c rest hc] at h
      obtain ⟨us, hus, rfl⟩ := Option.map_eq_some_iff.mp h
      have hlen : n = rest.length + 1 := by simpa using hn.symm
      obtain ⟨hle, hlt⟩ := ih rest.length (by omega) rest us hus rfl
      refine ⟨by simp only [List.length_cons]; omega, fun hp => ?_⟩
      have hr : percent ∈ rest := (List.mem_cons.mp hp).resolve_left (fun e => hc e.symm)
      have := hlt hr
      simp only [List.length_cons]
      omega

theorem decode_shorter (s d : JsString) (h : decodeURIComponent s = some d)
    (hp : percent ∈ s) : d.length < s.length := by
  obtain ⟨ts, hts, hd⟩ := Option.bind_eq_some_iff.mp h
  have ht := (tokens_length s ts hts).2 hp
  have hl : d.length ≤ ts.length := by simpa using decodeTokens_length ts none d hd
  omega

/-- A code unit that is neither `%` nor a digit ends every escape before it. -/
theorem tokens_append (a b : JsString) (c : CodeUnit) (hc : c ≠ percent)
    (hx : hexValue c = none) :
    tokens (a ++ c :: b) = (tokens a).bind fun ts => (tokens b).map fun us => ts ++ .unit c :: us := by
  induction hn : a.length using Nat.strong_induction_on generalizing a with
  | _ n ih =>
  cases a with
  | nil =>
    rw [List.nil_append, tokens_unit c b hc]
    rfl
  | cons x rest =>
    by_cases hxp : x = percent
    · subst hxp
      match rest, hn with
      | [], _ =>
        rw [show ([percent] : JsString) ++ c :: b = percent :: c :: b from rfl]
        cases b <;> simp [tokens, hx]
      | [d], _ =>
        rw [show ([percent, d] : JsString) ++ c :: b = percent :: d :: c :: b from rfl]
        simp only [tokens, ↓reduceIte, hx]
        cases hexValue d <;> rfl
      | d :: e :: tail, hn =>
        have hlen : n = tail.length + 3 := by simpa using hn.symm
        rw [show (percent :: d :: e :: tail : JsString) ++ c :: b =
          percent :: d :: e :: (tail ++ c :: b) from rfl]
        simp only [tokens, ↓reduceIte]
        rw [ih tail.length (by omega) tail rfl]
        cases hexValue d <;> cases hexValue e <;> try rfl
        cases tokens tail <;> cases tokens b <;> rfl
    · have hlen : n = rest.length + 1 := by simpa using hn.symm
      rw [List.cons_append, tokens_unit x _ hxp, tokens_unit x _ hxp, ih rest.length (by omega) rest rfl]
      cases tokens rest <;> cases tokens b <;> rfl

/-- A code unit standing for itself ends every multi-octet sequence before it. -/
theorem decodeTokens_append (ts us : List Token) (c : CodeUnit) (pending : Option Utf8.Pending) :
    decodeTokens pending (ts ++ .unit c :: us) =
      (decodeTokens pending ts).bind fun d => (decodeTokens none us).map fun e => d ++ c :: e := by
  induction ts generalizing pending with
  | nil => cases pending <;> simp [decodeTokens]
  | cons t rest ih =>
    cases t with
    | unit x =>
      cases pending with
      | none =>
        rw [List.cons_append, decodeTokens, decodeTokens, ih none]
        cases decodeTokens none rest <;> cases decodeTokens none us <;> rfl
      | some q => rfl
    | octet b =>
      simp only [List.cons_append, decodeTokens]
      split
      · rw [ih none]
        cases decodeTokens none rest <;> cases decodeTokens none us <;> simp
      · exact ih _
      · rfl

theorem decode_append (a b : JsString) (c : CodeUnit) (hc : c ≠ percent)
    (hx : hexValue c = none) (hb : percent ∉ b) :
    decodeURIComponent (a ++ c :: b) = (decodeURIComponent a).map (· ++ c :: b) := by
  rw [decodeURIComponent, tokens_append a b c hc hx, tokens_literal b hb]
  cases ha : tokens a with
  | none => simp [decodeURIComponent, ha]
  | some ts =>
    simp only [Option.map_some, Option.bind_some, decodeTokens_append, decodeTokens_literal,
      decodeURIComponent, ha]
    cases decodeTokens none ts <;> rfl

theorem tokens_zero (s : JsString) (ts : List Token) (h : tokens s = some ts)
    (hz : js "%00" <:+: s) : .octet 0 ∈ ts := by
  induction hn : s.length using Nat.strong_induction_on generalizing s ts with
  | _ n ih =>
  obtain ⟨before, after, rfl⟩ := hz
  have hjs : js "%00" = [percent, 0x30, 0x30] := by decide
  rw [hjs] at h hn
  cases before with
  | nil =>
    obtain ⟨d, e, tail, hi, lo, us, he, hd, he', -, rfl⟩ := tokens_escape _ _ h
    obtain ⟨rfl, rfl, -⟩ : d = 0x30 ∧ e = 0x30 ∧ tail = after := by simpa using he.symm
    obtain rfl : hi = 0 := by simpa [hexValue] using hd.symm
    obtain rfl : lo = 0 := by simpa [hexValue] using he'.symm
    simp
  | cons x rest =>
    have hlen : n = rest.length + after.length + 4 := by
      simp only [List.cons_append, List.length_cons, List.length_append, List.length_nil] at hn
      omega
    by_cases hx : x = percent
    · subst hx
      obtain ⟨d, e, tail, hi, lo, us, hs, hd, he, hus, rfl⟩ := tokens_escape _ _ h
      -- the digits of this escape cannot be the `%` that starts the other one
      match rest, hs, hlen with
      | [], hs, _ =>
        obtain rfl : percent = d := (List.cons.inj hs).1
        rw [hexValue_percent] at hd
        cases hd
      | [y], hs, _ =>
        obtain rfl : percent = e := (List.cons.inj (List.cons.inj hs).2).1
        rw [hexValue_percent] at he
        cases he
      | y :: z :: more, hs, hlen =>
        have htail : more ++ [percent, 0x30, 0x30] ++ after = tail :=
          (List.cons.inj (List.cons.inj hs).2).2
        have hm : js "%00" <:+: tail := ⟨more, after, by rw [hjs]; exact htail⟩
        refine List.mem_cons_of_mem _ (ih tail.length ?_ tail us hus hm rfl)
        simp only [List.length_cons, ← htail, List.length_append, List.length_nil] at hlen ⊢
        omega
    · simp only [List.cons_append] at h
      rw [tokens_unit x _ hx] at h
      obtain ⟨us, hus, rfl⟩ := Option.map_eq_some_iff.mp h
      have hm : js "%00" <:+: rest ++ [percent, 0x30, 0x30] ++ after := ⟨rest, after, by rw [hjs]⟩
      refine List.mem_cons_of_mem _ (ih _ ?_ _ us hus hm rfl)
      simp only [List.length_append, List.length_cons, List.length_nil]
      omega

theorem decodeTokens_ascii (ts : List Token) (pending : Option Utf8.Pending) (d : JsString) (b : ℕ)
    (hb : b < 0x80) (h : decodeTokens pending ts = some d) (hm : .octet b ∈ ts) :
    UInt16.ofNat b ∈ d := by
  induction ts generalizing pending d with
  | nil => cases hm
  | cons t rest ih =>
    cases t with
    | unit c =>
      have hr : Token.octet b ∈ rest := by simpa using hm
      cases pending with
      | none =>
        obtain ⟨e, he, rfl⟩ := Option.map_eq_some_iff.mp h
        exact List.mem_cons_of_mem _ (ih none e he hr)
      | some q => simp [decodeTokens] at h
    | octet x =>
      by_cases hx : x = b
      · subst hx
        cases pending with
        | none =>
          simp only [decodeTokens, Utf8.read, Utf8.lead_ascii x hb] at h
          obtain ⟨e, _, rfl⟩ := Option.map_eq_some_iff.mp h
          simp [utf16_ascii x hb]
        | some q => simp [decodeTokens, Utf8.read, Utf8.next_ascii q x hb] at h
      · have hr : Token.octet b ∈ rest := by
          rcases List.mem_cons.mp hm with e | hr
          · exact absurd (by injection e with e; exact e.symm) hx
          · exact hr
        simp only [decodeTokens] at h
        split at h
        · obtain ⟨e, he, rfl⟩ := Option.map_eq_some_iff.mp h
          exact List.mem_append_right _ (ih none e he hr)
        · exact ih _ d h hr
        · cases h

theorem decode_zero (s d : JsString) (h : decodeURIComponent s = some d)
    (hz : js "%00" <:+: s) : 0 ∈ d := by
  obtain ⟨ts, hts, hd⟩ := Option.bind_eq_some_iff.mp h
  exact decodeTokens_ascii ts none d 0 (by decide) hd (tokens_zero s ts hts hz)

end Glassbeetle.UriDecoding
