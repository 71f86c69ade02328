import Mathlib.Data.List.TakeWhile
import Glassbeetle.JsText

set_option autoImplicit false

/-!
# Regular expressions over code units

The patterns that need no look-around but word boundaries, with the choices in
the order in which a backtracking matcher takes them, and the replacement of all
their matches.
-/
namespace Glassbeetle.TextPatterns
open JsText

inductive Pattern where
  | empty
  | unit (p : CodeUnit → Bool)
  /-- As many units as there are, and then fewer. -/
  | many (least : ℕ) (p : CodeUnit → Bool)
  | seq (first second : Pattern)
  | either (first second : Pattern)
  /-- `\b` -/
  | boundary

namespace Pattern

def optional (inner : Pattern) : Pattern := .either inner .empty

def sequence : List Pattern → Pattern
  | [] => .empty
  | first :: rest => .seq first (sequence rest)

def text (s : JsString) : Pattern := sequence (s.map fun c => .unit (· = c))

/-- A text without capitals under the flag `i`. -/
def anyCase (s : JsString) : Pattern := sequence (s.map fun c => .unit (foldCase · = c))

end Pattern

def isDigit (c : CodeUnit) : Bool := 0x30 ≤ c && c ≤ 0x39

def isAlphanumeric (c : CodeUnit) : Bool :=
  isDigit c || (0x41 ≤ c && c ≤ 0x5A) || (0x61 ≤ c && c ≤ 0x7A)

/-- `\w` -/
def isWord (c : CodeUnit) : Bool := isAlphanumeric c || c == 0x5F

/-- The unit before the `n`-th of a text that follows `previous`. -/
def unitBefore (previous : Option CodeUnit) (s : JsString) : ℕ → Option CodeUnit
  | 0 => previous
  | n + 1 => s[n]?

/-- The lengths of the matches at the start of `s`, the preferred one first. -/
def Pattern.lengths (previous : Option CodeUnit) (s : JsString) : Pattern → List ℕ
  | .empty => [0]
  | .unit p => if s.head?.any p then [1] else []
  | .many least p =>
    let most := (s.takeWhile p).length
    (List.range (most + 1 - least)).map (most - ·)
  | .seq first second => (first.lengths previous s).flatMap fun n =>
    (second.lengths (unitBefore previous s n) (s.drop n)).map (n + ·)
  | .either first second => first.lengths previous s ++ second.lengths previous s
  | .boundary => if previous.any isWord = s.head?.any isWord then [] else [0]

def Pattern.Matches : Pattern → JsString → Prop
  | .empty, s => s = []
  | .unit p, s => ∃ c, s = [c] ∧ p c = true
  | .many least p, s => least ≤ s.length ∧ ∀ c ∈ s, p c = true
  | .seq first second, s => ∃ a b, s = a ++ b ∧ first.Matches a ∧ second.Matches b
  | .either first second, s => first.Matches s ∨ second.Matches s
  | .boundary, s => s = []

theorem lengths_matches (pattern : Pattern) (previous : Option CodeUnit) (s : JsString) (n : ℕ)
    (h : n ∈ pattern.lengths previous s) : n ≤ s.length ∧ pattern.Matches (s.take n) := by
  induction pattern generalizing previous s n with
  | empty =>
    rw [Pattern.lengths, List.mem_singleton] at h
    subst h
    exact ⟨Nat.zero_le _, rfl⟩
  | unit p =>
    rw [Pattern.lengths] at h
    cases s with
    | nil => cases h
    | cons c rest =>
      by_cases hc : p c = true
      · simp only [List.head?_cons, Option.any_some, hc, if_true, List.mem_singleton] at h
        subst h
        exact ⟨Nat.succ_le_succ (Nat.zero_le _), c, rfl, hc⟩
      · simp [hc] at h
  | many least p =>
    rw [Pattern.lengths] at h
    obtain ⟨k, hk, rfl⟩ := List.mem_map.mp h
    rw [List.mem_range] at hk
    have hmost : (s.takeWhile p).length ≤ s.length := (List.takeWhile_prefix p).length_le
    have htake : s.take ((s.takeWhile p).length - k) <+: s.takeWhile p :=
      List.prefix_of_prefix_length_le (List.take_prefix _ _) (List.takeWhile_prefix p) (by
        rw [List.length_take]
        omega)
    refine ⟨by omega, by rw [List.length_take]; omega, fun c hc => ?_⟩
    exact List.mem_takeWhile_imp (htake.subset hc)
  | seq first second ihFirst ihSecond =>
    rw [Pattern.lengths] at h
    obtain ⟨m, hm, h⟩ := List.mem_flatMap.mp h
    obtain ⟨k, hk, rfl⟩ := List.mem_map.mp h
    obtain ⟨hmle, hfirst⟩ := ihFirst previous s m hm
    obtain ⟨hkle, hsecond⟩ := ihSecond _ _ k hk
    rw [List.length_drop] at hkle
    exact ⟨by omega, s.take m, (s.drop m).take k, List.take_add, hfirst, hsecond⟩
  | either first second ihFirst ihSecond =>
    rw [Pattern.lengths] at h
    rcases List.mem_append.mp h with h | h
    · exact ⟨(ihFirst previous s n h).1, .inl (ihFirst previous s n h).2⟩
    · exact ⟨(ihSecond previous s n h).1, .inr (ihSecond previous s n h).2⟩
  | boundary =>
    rw [Pattern.lengths] at h
    split_ifs at h with hsame
    · cases h
    · rw [List.mem_singleton] at h
      subst h
      exact ⟨Nat.zero_le _, rfl⟩

theorem matches_anyCase (text s : JsString) :
    (Pattern.anyCase text).Matches s ↔ s.map foldCase = text := by
  induction text generalizing s with
  | nil => exact List.map_eq_nil_iff.symm
  | cons c text ih =>
    constructor
    · rintro ⟨-, rest, rfl, ⟨d, rfl, hd⟩, hrest⟩
      rw [List.singleton_append, List.map_cons, of_decide_eq_true hd, (ih rest).mp hrest]
    · intro h
      obtain ⟨d, rest, rfl, hd, hrest⟩ := List.map_eq_cons_iff.mp h
      exact ⟨[d], rest, rfl, ⟨d, rfl, decide_eq_true hd⟩, (ih rest).mpr hrest⟩

abbrev Matcher := Option CodeUnit → JsString → Option (ℕ × JsString)

def replacing (lead body : Pattern) (replacement : JsString → JsString) : Matcher :=
  fun previous s =>
    ((lead.lengths previous s).flatMap fun n =>
      (body.lengths (unitBefore previous s n) (s.drop n)).map fun k => (n, n + k)).head?.map
        fun ends => (ends.2, replacement (s.take ends.1))

theorem replacing_empty (body : Pattern) (replacement : JsString → JsString)
    (previous : Option CodeUnit) (s : JsString) :
    replacing .empty body replacement previous s =
      (body.lengths previous s).head?.map fun n => (n, replacement []) := by
  unfold replacing
  rw [Pattern.lengths, List.flatMap_singleton, List.head?_map, Option.map_map]
  simp only [unitBefore, List.drop_zero, Nat.zero_add, List.take_zero, Function.comp_def]

/-- `s.replace(regex, …)` under the flag `g`, for a pattern without empty matches; `skip` counts the
units of a match still to pass. -/
def scan (m : Matcher) : Option CodeUnit → ℕ → JsString → JsString
  | _, _, [] => []
  | _, skip + 1, c :: rest => scan m (some c) skip rest
  | previous, 0, c :: rest =>
    match m previous (c :: rest) with
    | some (n + 1, replacement) => replacement ++ scan m (some c) n rest
    | _ => c :: scan m (some c) 0 rest

def replaceMatches (m : Matcher) (s : JsString) : JsString := scan m none 0 s

def found (m : Matcher) : Option CodeUnit → ℕ → JsString → JsString → List (JsString × JsString)
  | _, _, _, [] => []
  | _, skip + 1, before, c :: rest => found m (some c) skip (before ++ [c]) rest
  | previous, 0, before, c :: rest =>
    match m previous (c :: rest) with
    | some (n + 1, _) => (before, c :: rest.take n) :: found m (some c) n (before ++ [c]) rest
    | _ => found m (some c) 0 (before ++ [c]) rest

def matchAll (m : Matcher) (s : JsString) : List (JsString × JsString) := found m none 0 [] s

/-- After `before`, the text `s` with parts of it replaced as `R` allows is `t`; what is kept is at
no place where `K` fails. -/
inductive Rewritten (K : JsString → Prop) (R : JsString → JsString → JsString → Prop) :
    JsString → JsString → JsString → Prop
  | nil (before : JsString) : Rewritten K R before [] []
  | keep (before : JsString) (c : CodeUnit) (s t : JsString) (hK : K (c :: s))
    (h : Rewritten K R (before ++ [c]) s t) : Rewritten K R before (c :: s) (c :: t)
  | cut (before gone s replacement t : JsString) (hR : R before gone replacement)
    (h : Rewritten K R (before ++ gone) s t) : Rewritten K R before (gone ++ s) (replacement ++ t)

theorem Rewritten.mono {K : JsString → Prop} {R R' : JsString → JsString → JsString → Prop}
    (hR : ∀ before gone replacement, R before gone replacement → R' before gone replacement)
    {before s t : JsString} (h : Rewritten K R before s t) : Rewritten K R' before s t := by
  induction h with
  | nil before => exact .nil before
  | keep before c s t hK _ ih => exact .keep before c s t hK ih
  | cut before gone s replacement t hgone _ ih =>
    exact .cut before gone s replacement t (hR _ _ _ hgone) ih

def Marks (marker : JsString) (Shown : JsString → JsString → JsString → Prop)
    (before gone replacement : JsString) : Prop :=
  ∃ shown, Shown before gone shown ∧ replacement = shown ++ marker

theorem scan_rewritten (Shape : JsString → JsString → Prop) (m : Matcher)
    (hshape : ∀ previous s n replacement, m previous s = some (n, replacement) →
      Shape (s.take n) replacement)
    (all : List (JsString × JsString)) (previous : Option CodeUnit) (skip : ℕ) (before s : JsString)
    (hall : ∀ x ∈ found m previous skip before s, x ∈ all) :
    Rewritten (fun _ => True) (fun before gone replacement => (before, gone) ∈ all ∧
      Shape gone replacement) (before ++ s.take skip) (s.drop skip) (scan m previous skip s) := by
  induction s generalizing previous skip before with
  | nil =>
    rw [List.drop_nil]
    exact .nil _
  | cons c rest ih =>
    cases skip with
    | succ skip =>
      have hnext := ih (some c) skip (before ++ [c]) hall
      rwa [List.append_assoc] at hnext
    | zero =>
      rw [List.take_zero, List.append_nil, List.drop_zero]
      unfold scan
      unfold found at hall
      split at hall
      next n replacement h =>
        have hfound := List.forall_mem_cons.mp hall
        have hnext := ih (some c) n (before ++ [c]) hfound.2
        rw [List.append_assoc] at hnext
        have hcut := Rewritten.cut before (c :: rest.take n) _ replacement _
          ⟨hfound.1, hshape _ _ _ _ h⟩ hnext
        rwa [List.cons_append, List.take_append_drop] at hcut
      · have hnext := ih (some c) 0 (before ++ [c]) hall
        rw [List.take_zero, List.append_nil] at hnext
        exact .keep before c rest _ trivial hnext

theorem replaceAllFrom_rewritten (piece by' : JsString) (hpiece : piece ≠ []) (skip : ℕ)
    (before s : JsString) :
    Rewritten (fun s => ¬piece <+: s) (Marks by' fun _ _ shown => shown = [])
      (before ++ s.take skip) (s.drop skip) (replaceAllFrom piece by' skip s) := by
  induction s generalizing skip before with
  | nil =>
    rw [List.drop_nil]
    exact .nil _
  | cons c rest ih =>
    cases skip with
    | succ skip =>
      have hnext := ih skip (before ++ [c])
      rwa [List.append_assoc] at hnext
    | zero =>
      rw [List.take_zero, List.append_nil, List.drop_zero, replaceAllFrom]
      split_ifs with h
      · obtain ⟨tail, htail⟩ := List.isPrefixOf_iff_prefix.mp h
        have hnext := ih (piece.length - 1) (before ++ [c])
        obtain ⟨d, piece, rfl⟩ := List.exists_cons_of_ne_nil hpiece
        rw [List.cons_append, List.cons.injEq] at htail
        obtain ⟨rfl, rfl⟩ := htail
        rw [List.length_cons, Nat.add_sub_cancel, List.drop_left, List.take_left,
          List.append_assoc] at hnext
        exact .cut before (d :: piece) tail by' _ ⟨[], rfl, rfl⟩ hnext
      · have hnext := ih 0 (before ++ [c])
        rw [List.take_zero, List.append_nil] at hnext
        exact .keep before c rest _ (fun hp => h (List.isPrefixOf_iff_prefix.mpr hp)) hnext

theorem replaceAll_rewritten (piece by' : JsString) (hpiece : piece ≠ []) (s : JsString) :
    Rewritten (fun s => ¬piece <+: s) (Marks by' fun _ _ shown => shown = []) [] s
      (replaceAll s piece by') :=
  replaceAllFrom_rewritten piece by' hpiece 0 [] s

theorem replaceMatches_rewritten (lead body : Pattern) (shown : JsString → JsString)
    (marker s : JsString) :
    Rewritten (fun _ => True) (Marks marker fun before gone text => (before, gone) ∈ matchAll
        (replacing lead body fun a => shown a ++ marker) s ∧
      ∃ a, a <+: gone ∧ lead.Matches a ∧ text = shown a) [] s
      (replaceMatches (replacing lead body fun a => shown a ++ marker) s) := by
  have hrewritten := scan_rewritten (fun gone replacement => ∃ a, a <+: gone ∧ lead.Matches a ∧
    replacement = shown a ++ marker) (replacing lead body fun a => shown a ++ marker)
    (fun previous s n replacement h => ?_) _ none 0 [] s fun _ hmem => hmem
  · refine Rewritten.mono (fun before gone replacement h => ?_) hrewritten
    obtain ⟨hmem, a, hprefix, ha, rfl⟩ := h
    exact ⟨shown a, ⟨hmem, a, hprefix, ha, rfl⟩, rfl⟩
  · obtain ⟨⟨m, total⟩, hends, hpair⟩ := Option.map_eq_some_iff.mp h
    obtain ⟨rfl, rfl⟩ := Prod.mk.inj hpair
    obtain ⟨k, hk, hends⟩ := List.mem_flatMap.mp (List.mem_of_head? hends)
    obtain ⟨l, hl, hpair⟩ := List.mem_map.mp hends
    obtain ⟨rfl, rfl⟩ := Prod.mk.inj hpair
    exact ⟨s.take k, List.take_prefix_take_left (Nat.le_add_right k l), (lengths_matches lead _ _ _ hk).2, rfl⟩

/-! ## Words that cannot run into a replacement -/

section Words
variable (inside : CodeUnit → Bool)

def opensOutside (s : JsString) : Bool := s.head?.any fun c => !inside c

def endsOutside (s : JsString) : Bool := s.getLast?.any fun c => !inside c

def Bounded (marker : JsString) : Prop :=
  opensOutside inside marker = true ∧ endsOutside inside marker = true

variable {inside} {marker w : JsString}

theorem prefix_opensOutside (hw : ∀ c ∈ w, inside c = true) (b : JsString)
    (hb : opensOutside inside b = true) (h : w <+: b) : w = [] := by
  cases b with
  | nil => exact List.prefix_nil.mp h
  | cons c rest =>
    rcases List.prefix_cons_iff.mp h with rfl | ⟨w, rfl, -⟩
    · rfl
    · simp [opensOutside, hw c List.mem_cons_self] at hb

theorem suffix_endsOutside (hw : ∀ c ∈ w, inside c = true) (a : JsString)
    (ha : endsOutside inside a = true) (h : w <:+ a) : w = [] := by
  have hreverse : opensOutside inside a.reverse = true := by
    rwa [opensOutside, List.head?_reverse]
  exact List.reverse_eq_nil_iff.mp (prefix_opensOutside (fun c hc => hw c (List.mem_reverse.mp hc))
    a.reverse hreverse (List.reverse_prefix.mpr h))

theorem infix_opensOutside (hw : ∀ c ∈ w, inside c = true) (a b : JsString)
    (hb : opensOutside inside b = true) (h : w <:+: a ++ b) : w <:+: a ∨ w <:+: b := by
  rcases List.infix_append_iff.mp h with h | h | ⟨u, v, rfl, hu, hv⟩
  · exact .inl h
  · exact .inr h
  · rw [prefix_opensOutside (fun c hc => hw c (List.mem_append_right _ hc)) b hb hv,
      List.append_nil]
    exact .inl hu.isInfix

theorem infix_endsOutside (hw : ∀ c ∈ w, inside c = true) (a b : JsString)
    (ha : endsOutside inside a = true) (h : w <:+: a ++ b) : w <:+: a ∨ w <:+: b := by
  rcases List.infix_append_iff.mp h with h | h | ⟨u, v, rfl, hu, hv⟩
  · exact .inl h
  · exact .inr h
  · rw [suffix_endsOutside (fun c hc => hw c (List.mem_append_left _ hc)) a ha hu,
      List.nil_append]
    exact .inr hv.isInfix

theorem opensOutside_append (a b : JsString) (ha : opensOutside inside a = true) :
    opensOutside inside (a ++ b) = true := by
  cases a with
  | nil => cases ha
  | cons c rest => exact ha

theorem infix_outside (hw : ∀ c ∈ w, inside c = true) (s : JsString)
    (hs : ∀ c ∈ s, inside c = false) (h : w <:+: s) : w = [] := by
  apply List.eq_nil_iff_forall_not_mem.mpr
  intro c hc
  have hin := hw c hc
  rw [hs c (h.subset hc)] at hin
  cases hin

theorem infix_bounded (hm : Bounded inside marker) (hw : ∀ c ∈ w, inside c = true)
    (a b : JsString) (h : w <:+: a ++ (marker ++ b)) : w <:+: a ∨ w <:+: marker ∨ w <:+: b := by
  rcases infix_opensOutside hw a (marker ++ b) (opensOutside_append marker b hm.1) h with h | h
  · exact .inl h
  · exact .inr (infix_endsOutside hw marker b hm.2 h)

theorem prefix_bounded (hm : Bounded inside marker) (hw : ∀ c ∈ w, inside c = true)
    (a b : JsString) (h : w <+: a ++ (marker ++ b)) : w <+: a := by
  rcases List.prefix_or_prefix_of_prefix h (List.prefix_append a _) with ha | ⟨v, rfl⟩
  · exact ha
  · rw [prefix_opensOutside (fun c hc => hw c (List.mem_append_right _ hc)) (marker ++ b)
      (opensOutside_append marker b hm.1) ((List.prefix_append_right_inj a).mp h), List.append_nil]

variable {K : JsString → Prop} {Shown : JsString → JsString → JsString → Prop}
  {before s t : JsString}

/-- A word at the start of the outcome was there, or a replacement completes it. -/
theorem rewritten_start (hm : Bounded inside marker) (hw : ∀ c ∈ w, inside c = true)
    (h : Rewritten K (Marks marker Shown) before s t) (hp : w <+: t) :
    w <+: s ∨ ∃ u v gone shown, w = u ++ v ∧ v ≠ [] ∧ v <+: shown ∧
      Shown (before ++ u) gone shown ∧ u ++ gone <+: s := by
  induction h generalizing w with
  | nil before => exact .inl hp
  | keep before c s t _ _ ih =>
    rcases List.prefix_cons_iff.mp hp with rfl | ⟨w, rfl, htail⟩
    · exact .inl (List.nil_prefix)
    · rcases ih (fun d hd => hw d (List.mem_cons_of_mem _ hd)) htail with
        h | ⟨u, v, gone, shown, rfl, hv, hshown, hR, hu⟩
      · exact .inl (List.cons_prefix_cons.mpr ⟨rfl, h⟩)
      · rw [List.append_assoc] at hR
        exact .inr ⟨c :: u, v, gone, shown, rfl, hv, hshown, hR, List.cons_prefix_cons.mpr ⟨rfl, hu⟩⟩
  | cut before gone s replacement t hR _ _ =>
    obtain ⟨shown, hshown, rfl⟩ := hR
    rw [List.append_assoc] at hp
    by_cases hnil : w = []
    · rw [hnil]
      exact .inl List.nil_prefix
    · refine .inr ⟨[], w, gone, shown, rfl, hnil, prefix_bounded hm hw _ _ hp, ?_,
        List.prefix_append gone s⟩
      rwa [List.append_nil]

inductive Origin (marker : JsString) (Shown : JsString → JsString → JsString → Prop)
    (w s : JsString) : Prop
  | text (h : w <:+: s)
  | marker (h : w <:+: marker)
  | shown (before gone shown : JsString) (hR : Shown before gone shown) (hgone : gone <:+: s)
    (h : w <:+: shown)
  | completed (before u v gone shown : JsString) (hw : w = u ++ v) (hv : v ≠ [])
    (hshown : v <+: shown) (hR : Shown (before ++ u) gone shown) (hu : u ++ gone <:+: s)

theorem Origin.within (h : Origin marker Shown w s) (hs : s <:+: t) : Origin marker Shown w t := by
  cases h with
  | text h => exact .text (h.trans hs)
  | marker h => exact .marker h
  | shown before gone shown hR hgone h => exact .shown before gone shown hR (hgone.trans hs) h
  | completed before u v gone shown hw hv hshown hR hu =>
    exact .completed before u v gone shown hw hv hshown hR (hu.trans hs)

theorem rewritten_word (hm : Bounded inside marker) (hw : ∀ c ∈ w, inside c = true)
    (h : Rewritten K (Marks marker Shown) before s t) (hi : w <:+: t) : Origin marker Shown w s := by
  induction h with
  | nil before => exact .text hi
  | keep before c s t hK h ih =>
    rcases List.infix_cons_iff.mp hi with hp | hi
    · rcases rewritten_start hm hw (.keep before c s t hK h) hp with
        hs | ⟨u, v, gone, shown, hsplit, hv, hshown, hR, hu⟩
      · exact .text hs.isInfix
      · exact .completed before u v gone shown hsplit hv hshown hR hu.isInfix
    · exact (ih hi).within (List.infix_cons (List.infix_refl s))
  | cut before gone s replacement t hR _ ih =>
    obtain ⟨shown, hshown, rfl⟩ := hR
    rw [List.append_assoc] at hi
    rcases infix_bounded hm hw _ _ hi with hi | hi | hi
    · exact .shown before gone shown hshown List.infix_append_left hi
    · exact .marker hi
    · exact (ih hi).within List.infix_append_right

theorem marked_word (hm : Bounded inside marker) (hw : ∀ c ∈ w, inside c = true)
    (h : Rewritten K (Marks marker fun _ gone shown => shown <+: gone) before s t) (hi : w <:+: t) :
    w <:+: s ∨ w <:+: marker := by
  cases rewritten_word hm hw h hi with
  | text h => exact .inl h
  | marker h => exact .inr h
  | shown before gone shown hR hgone h => exact .inl (h.trans (hR.isInfix.trans hgone))
  | completed before u v gone shown hsplit hv hshown hR hu =>
    rw [hsplit]
    exact .inl (((List.prefix_append_right_inj u).mpr (hshown.trans hR)).isInfix.trans hu)

theorem rewritten_removes (hm : Bounded inside marker) (hw : ∀ c ∈ w, inside c = true)
    (hnil : w ≠ []) (hmarker : ¬w <:+: marker)
    (hr : Rewritten (fun s => ¬w <+: s) (Marks marker fun _ _ shown => shown = []) before s t) :
    ¬w <:+: t := by
  induction hr with
  | nil before => exact fun hi => hnil (List.infix_nil.mp hi)
  | keep before c s t hK h ih =>
    intro hi
    rcases List.infix_cons_iff.mp hi with hp | hi
    · rcases rewritten_start hm hw (.keep before c s t hK h) hp with
        hs | ⟨u, v, gone, shown, -, hv, hshown, rfl, -⟩
      · exact hK hs
      · exact hv (List.prefix_nil.mp hshown)
    · exact ih hi
  | cut before gone s replacement t hR _ ih =>
    obtain ⟨shown, rfl, rfl⟩ := hR
    intro hi
    rcases infix_bounded hm hw [] t hi with hi | hi | hi
    · exact hnil (List.infix_nil.mp hi)
    · exact hmarker hi
    · exact ih hi

theorem replaceAll_removes (hm : Bounded inside marker) (hw : ∀ c ∈ w, inside c = true)
    (hnil : w ≠ []) (hmarker : ¬w <:+: marker) (s : JsString) : ¬w <:+: replaceAll s w marker :=
  rewritten_removes hm hw hnil hmarker (replaceAll_rewritten w marker hnil s)

end Words

theorem replaceAll_absent (piece by' s : JsString) (h : ¬piece <:+: s) :
    replaceAll s piece by' = s := by
  change replaceAllFrom piece by' 0 s = s
  induction s with
  | nil => rfl
  | cons c rest ih =>
    rw [List.infix_cons_iff, not_or] at h
    rw [replaceAllFrom, if_neg fun hp => h.1 (List.isPrefixOf_iff_prefix.mp hp), ih h.2]

/-! ## Where a replacement is shown -/

def Pattern.Greedy (p : CodeUnit → Bool) (pattern : Pattern) : Prop :=
  ∀ previous s n, (pattern.lengths previous s).head? = some n → (s.drop n).head?.any p = false

theorem dropWhile_head (p : CodeUnit → Bool) (s : JsString) :
    (s.dropWhile p).head?.any p = false := by
  have h := List.head?_dropWhile_not p s
  cases hhead : (s.dropWhile p).head? with
  | none => rfl
  | some c =>
    rw [hhead] at h
    exact h

theorem greedy_many (least : ℕ) (p : CodeUnit → Bool) : (Pattern.many least p).Greedy p := by
  intro previous s n h
  rw [Pattern.lengths, List.head?_map] at h
  obtain ⟨k, hk, rfl⟩ := Option.map_eq_some_iff.mp h
  have hzero : k = 0 := by
    rw [List.head?_range] at hk
    split_ifs at hk
    exact (Option.some.inj hk).symm
  have hdrop := @List.drop_left _ (s.takeWhile p) (s.dropWhile p)
  rw [List.takeWhile_append_dropWhile] at hdrop
  rw [hzero, Nat.sub_zero, hdrop]
  exact dropWhile_head p s

theorem greedy_seq (p : CodeUnit → Bool) (first second : Pattern) (h : second.Greedy p) :
    (Pattern.seq first second).Greedy p := by
  intro previous s n hn
  rw [Pattern.lengths] at hn
  generalize first.lengths previous s = firsts at hn
  induction firsts with
  | nil => cases hn
  | cons m rest ih =>
    rw [List.flatMap_cons, List.head?_append, List.head?_map] at hn
    cases hk : (second.lengths (unitBefore previous s m) (s.drop m)).head? with
    | none =>
      rw [hk] at hn
      exact ih hn
    | some k =>
      rw [hk] at hn
      obtain rfl := Option.some.inj hn
      have hend := h _ _ k hk
      rwa [List.drop_drop] at hend

theorem greedy_last (p : CodeUnit → Bool) (pattern : Pattern) (h : pattern.Greedy p) :
    (Pattern.seq pattern .empty).Greedy p := by
  intro previous s n hn
  have hsame : (Pattern.seq pattern .empty).lengths previous s = pattern.lengths previous s := by
    rw [Pattern.lengths]
    exact List.flatMap_singleton' _
  rw [hsame] at hn
  exact h previous s n hn

section Matches
variable (inside : CodeUnit → Bool)

def Separated (m : Matcher) : Prop :=
  ∀ previous s n replacement, m previous s = some (n + 1, replacement) →
    s.head?.any inside = true ∧ (s.drop (n + 1)).head?.any inside = false

def SameEnd (s t : JsString) : Prop :=
  t = s ∨ ∃ a b c end', s = a ++ c :: end' ∧ t = b ++ c :: end' ∧ inside c = false

variable {inside} {s t w : JsString}

theorem SameEnd.suffix (h : SameEnd inside s t) (hw : ∀ c ∈ w, inside c = true) (hs : w <:+ s) :
    w <:+ t := by
  rcases h with rfl | ⟨a, b, c, end', rfl, rfl, hc⟩
  · exact hs
  have hnot : ¬c :: end' <:+ w := by
    intro h
    rw [hw c (h.subset List.mem_cons_self)] at hc
    cases hc
  have hend : w <:+ c :: end' :=
    (List.suffix_or_suffix_of_suffix hs (List.suffix_append a _)).resolve_right hnot
  exact hend.trans (List.suffix_append b _)

theorem SameEnd.cons (c : CodeUnit) (h : SameEnd inside s t) : SameEnd inside (c :: s) (c :: t) := by
  rcases h with rfl | ⟨a, b, d, end', rfl, rfl, hd⟩
  · exact .inl rfl
  · exact .inr ⟨c :: a, c :: b, d, end', rfl, rfl, hd⟩

/-- Where the text opens outside of words, what stands before it does not matter. -/
theorem SameEnd.append (hs : opensOutside inside s = true) (h : SameEnd inside s t)
    (a b : JsString) : SameEnd inside (a ++ s) (b ++ t) := by
  rcases h with rfl | ⟨a', b', c, end', rfl, rfl, hc⟩
  · cases t with
    | nil => cases hs
    | cons c end' => exact .inr ⟨a, b, c, end', rfl, rfl, Bool.not_eq_true' _ |>.mp hs⟩
  · exact .inr ⟨a ++ a', b ++ b', c, end', (List.append_assoc ..).symm, (List.append_assoc ..).symm, hc⟩

/-- After `kept`, the text `s` has the match `gone`, and `t` a replacement after a text with the
same end. -/
inductive Shows (inside : CodeUnit → Bool) (m : Matcher) (s t kept gone : JsString) : Prop
  | matched (shown tail rest replacement : JsString) (n : ℕ) (previous : Option CodeUnit)
    (hs : s = kept ++ (gone ++ tail)) (ht : t = shown ++ (replacement ++ rest))
    (hmatch : m previous (gone ++ tail) = some (n + 1, replacement))
    (hend : SameEnd inside kept shown)

variable {m : Matcher} {kept gone : JsString}

theorem Shows.keep (c : CodeUnit) (h : Shows inside m s t kept gone) :
    Shows inside m (c :: s) (c :: t) (c :: kept) gone := by
  obtain ⟨shown, tail, rest, replacement, n, previous, rfl, rfl, hmatch, hend⟩ := h
  exact ⟨c :: shown, tail, rest, replacement, n, previous, rfl, rfl, hmatch, hend.cons c⟩

theorem Shows.cut (hm : Separated inside m) (a b : JsString) (hs : s.head?.any inside = false)
    (h : Shows inside m s t kept gone) : Shows inside m (a ++ s) (b ++ t) (a ++ kept) gone := by
  obtain ⟨shown, tail, rest, replacement, n, previous, rfl, rfl, hmatch, hend⟩ := h
  have hopens : opensOutside inside kept = true := by
    cases kept with
    | nil =>
      rw [List.nil_append, (hm _ _ _ _ hmatch).1] at hs
      cases hs
    | cons c kept => exact (Bool.not_eq_true' _).mpr hs
  refine ⟨b ++ shown, tail, rest, replacement, n, previous, ?_, ?_, hmatch, hend.append hopens a b⟩
  · rw [List.append_assoc]
  · rw [List.append_assoc]

/-- What stands before a match keeps the word it ends with, and the replacement follows. -/
theorem found_shown (hm : Separated inside m) (before : JsString) (previous : Option CodeUnit)
    (skip : ℕ) (start s : JsString) (h : (before, gone) ∈ found m previous skip start s) :
    ∃ kept, before = start ++ (s.take skip ++ kept) ∧
      Shows inside m (s.drop skip) (scan m previous skip s) kept gone := by
  induction s generalizing previous skip start with
  | nil => cases h
  | cons c s ih =>
    cases skip with
    | succ skip =>
      obtain ⟨kept, rfl, hshows⟩ := ih (some c) skip (start ++ [c]) h
      exact ⟨kept, by rw [List.append_assoc]; rfl, hshows⟩
    | zero =>
      unfold scan
      unfold found at h
      split at h
      next n replacement hfirst =>
        rcases List.mem_cons.mp h with hpair | h
        · obtain ⟨rfl, rfl⟩ := Prod.mk.inj hpair
          refine ⟨[], (List.append_nil before).symm, [], s.drop n, _, replacement, n, previous, ?_, rfl,
            ?_, .inl rfl⟩
          · rw [List.nil_append, List.cons_append, List.take_append_drop, List.drop_zero]
          · rwa [List.cons_append, List.take_append_drop]
        · obtain ⟨kept, rfl, hshows⟩ := ih (some c) n (start ++ [c]) h
          have hafter := (hm _ _ _ _ hfirst).2
          rw [List.drop_succ_cons] at hafter
          have hcut := hshows.cut hm (c :: s.take n) replacement hafter
          rw [List.cons_append, List.take_append_drop] at hcut
          exact ⟨_, by rw [List.append_assoc]; rfl, hcut⟩
      · obtain ⟨kept, rfl, hshows⟩ := ih (some c) 0 (start ++ [c]) h
        exact ⟨c :: kept, by rw [List.append_assoc]; rfl, hshows.keep c⟩

theorem matchAll_shown (hm : Separated inside m) (before : JsString)
    (h : (before, gone) ∈ matchAll m s) (hw : ∀ c ∈ w, inside c = true) (hend : w <:+ before) :
    ∃ n previous s' replacement, m previous s' = some (n, replacement) ∧
      w ++ replacement <:+: replaceMatches m s := by
  obtain ⟨kept, rfl, shown, tail, rest, replacement, n, previous, -, ht, hmatch, hsame⟩ :=
    found_shown hm before none 0 [] s h
  refine ⟨n + 1, previous, _, replacement, hmatch, ?_⟩
  obtain ⟨start, rfl⟩ := hsame.suffix hw hend
  rw [replaceMatches, ht]
  exact ⟨start, rest, by simp only [List.append_assoc]⟩

end Matches

end Glassbeetle.TextPatterns
