import Glassbeetle.PreferredChoice
import Glassbeetle.TeamSchedules
import Mathlib.Data.List.TakeWhile

set_option autoImplicit false

namespace Glassbeetle.HandoffTargets
open JsText Database ExecutionChain Inference TeamChat Schedules TeamSchedules PreferredChoice

section Directives

/-- One way for `\s*@?([^\]]+)` to match a text without brackets; the sign only where it is
allowed. -/
structure Split (mention : Bool) (body blanks sign group : JsString) : Prop where
  body : body = blanks ++ (sign ++ group)
  blanks : ∀ c ∈ blanks, isSpace c = true
  sign : sign = [] ∨ mention = true ∧ sign = [0x40]
  group : group ≠ []

def Captured (mention : Bool) (body group : JsString) : Prop :=
  ∃ blanks sign, Split mention body blanks sign group ∧
    ∀ blanks' sign' group', Split mention body blanks' sign' group' →
      blanks'.length < blanks.length ∨
        blanks'.length = blanks.length ∧ sign'.length ≤ sign.length

theorem captured_unique (mention : Bool) (body group group' : JsString)
    (h : Captured mention body group) (h' : Captured mention body group') : group = group' := by
  obtain ⟨blanks, sign, hsplit, hfirst⟩ := h
  obtain ⟨blanks', sign', hsplit', hfirst'⟩ := h'
  have hone := hfirst _ _ _ hsplit'
  have hother := hfirst' _ _ _ hsplit
  have hbody := hsplit.body.symm.trans hsplit'.body
  rw [← List.append_assoc, ← List.append_assoc] at hbody
  refine (List.append_inj hbody ?_).2
  rw [List.length_append, List.length_append]
  omega

theorem takeWhile_blanks (s : JsString) : ∀ c ∈ s.takeWhile isSpace, isSpace c = true :=
  fun _ h => List.mem_takeWhile_imp h

theorem blanks_trimStart (s : JsString) : s.takeWhile isSpace ++ trimStart s = s :=
  List.takeWhile_append_dropWhile

theorem split_blanks (mention : Bool) (body blanks sign group : JsString)
    (h : Split mention body blanks sign group) : blanks.length ≤ (body.takeWhile isSpace).length := by
  have hall : blanks.takeWhile isSpace = blanks := List.takeWhile_eq_self_iff.mpr h.blanks
  rw [h.body, List.takeWhile_append_of_pos h.blanks, List.length_append]
  omega

theorem split_length (mention : Bool) (body blanks sign group : JsString)
    (h : Split mention body blanks sign group) :
    blanks.length + sign.length + 1 ≤ body.length := by
  have hgroup := List.length_pos_of_ne_nil h.group
  rw [h.body, List.length_append, List.length_append]
  omega

theorem captured_blank (mention : Bool) (body : JsString) (hbody : body ≠ [])
    (hblank : trimStart body = []) : Captured mention body (body.drop (body.length - 1)) := by
  have hlength := List.length_pos_of_ne_nil hbody
  have hall := blanks_trimStart body
  rw [hblank, List.append_nil] at hall
  refine ⟨body.take (body.length - 1), [], ⟨?_, ?_, .inl rfl, ?_⟩, fun blanks sign group h => ?_⟩
  · exact (List.take_append_drop _ _).symm
  · exact fun c hc => takeWhile_blanks body c (hall.symm ▸ List.mem_of_mem_take hc)
  · refine List.ne_nil_of_length_pos ?_
    rw [List.length_drop]
    omega
  · have hle := split_length mention body blanks sign group h
    rw [List.length_take, List.length_nil]
    omega

theorem captured_plain (body : JsString) (hrest : trimStart body ≠ []) :
    Captured false body (trimStart body) := by
  refine ⟨body.takeWhile isSpace, [], ⟨(blanks_trimStart body).symm, takeWhile_blanks body,
    .inl rfl, hrest⟩, fun blanks sign group h => ?_⟩
  have hblanks := split_blanks false body blanks sign group h
  rcases h.sign with rfl | ⟨hmention, -⟩
  · rw [List.length_nil]
    omega
  · cases hmention

theorem captured_afterBlanks (body : JsString) (hbody : body ≠ []) :
    Captured false body (afterBlanks body) := by
  unfold afterBlanks
  split
  · rename_i hblank
    exact captured_blank false body hbody hblank
  · rename_i hrest
    exact captured_plain body hrest

theorem captured_sign (body : JsString) (c : CodeUnit) (rest : JsString)
    (hsign : trimStart body = 0x40 :: c :: rest) : Captured true body (c :: rest) := by
  have hbody := (blanks_trimStart body).symm
  rw [hsign] at hbody
  refine ⟨body.takeWhile isSpace, [0x40], ⟨hbody, takeWhile_blanks body, .inr ⟨rfl, rfl⟩,
    List.cons_ne_nil _ _⟩, fun blanks sign group h => ?_⟩
  have hblanks := split_blanks true body blanks sign group h
  have hsign' : sign.length ≤ 1 := by
    rcases h.sign with rfl | ⟨-, rfl⟩
    · exact Nat.zero_le 1
    · exact Nat.le_refl 1
  rw [List.length_singleton]
  omega

theorem captured_signless (body : JsString) (hrest : trimStart body ≠ [])
    (hsign : ∀ c rest, trimStart body ≠ 0x40 :: c :: rest) : Captured true body (trimStart body) := by
  refine ⟨body.takeWhile isSpace, [], ⟨(blanks_trimStart body).symm, takeWhile_blanks body,
    .inl rfl, hrest⟩, fun blanks sign group h => ?_⟩
  have hblanks := split_blanks true body blanks sign group h
  rcases h.sign with rfl | ⟨-, rfl⟩
  · rw [List.length_nil]
    omega
  · refine .inl (lt_of_le_of_ne hblanks fun hlength => ?_)
    have hbody := h.body.symm.trans (blanks_trimStart body).symm
    have hgroup := (List.append_inj hbody hlength).2
    cases hcases : group with
    | nil => exact h.group hcases
    | cons c rest =>
      rw [hcases] at hgroup
      exact hsign c rest hgroup.symm

theorem captured_afterMention (body : JsString) (hbody : body ≠ []) :
    Captured true body (afterMention body) := by
  unfold afterMention
  split
  · rename_i c rest hsign
    exact captured_sign body c rest hsign
  · rename_i hsign
    unfold afterBlanks
    split
    · rename_i hblank
      exact captured_blank true body hbody hblank
    · rename_i hrest
      exact captured_signless body hrest hsign

def Opens (mark s body : JsString) : Prop :=
  ∃ head after, s = head ++ (body ++ 0x5D :: after) ∧ head.map foldCase = mark ∧ body ≠ [] ∧
    0x5D ∉ body

def Directive (mark : JsString) (mention : Bool) (content group : JsString) : Prop :=
  ∃ before s body, content = before ++ s ∧ Opens mark s body ∧ Captured mention body group ∧
    ∀ before' s', content = before' ++ s' → before'.length < before.length →
      ∀ body', ¬Opens mark s' body'

theorem bracketBody_iff (s body : JsString) : bracketBody s = some body ↔
    ∃ after, s = body ++ 0x5D :: after ∧ body ≠ [] ∧ 0x5D ∉ body := by
  unfold bracketBody
  dsimp only
  constructor
  · intro h
    split_ifs at h with hboth
    obtain rfl := Option.some.inj h
    have hall : s.takeWhile (· ≠ 0x5D) ++ s.dropWhile (· ≠ 0x5D) = s :=
      List.takeWhile_append_dropWhile
    cases hrest : s.dropWhile (· ≠ 0x5D) with
    | nil =>
      rw [hrest, List.append_nil] at hall
      rw [hall] at hboth
      exact absurd hboth.2 (Nat.lt_irrefl _)
    | cons c after =>
      have hhead := List.head_dropWhile_not (fun c : CodeUnit => decide (c ≠ 0x5D)) (l := s)
        (by rw [hrest]; exact List.cons_ne_nil _ _)
      simp only [hrest, List.head_cons, decide_eq_false_iff_not, not_not] at hhead
      rw [hrest, hhead] at hall
      exact ⟨after, hall.symm, hboth.1, fun hin => of_decide_eq_true
        (List.mem_takeWhile_imp (p := fun c : CodeUnit => decide (c ≠ 0x5D)) hin) rfl⟩
  · rintro ⟨after, rfl, hbody, hnone⟩
    have hfront : (body ++ 0x5D :: after).takeWhile (· ≠ 0x5D) = body := by
      have hpass : ∀ c ∈ body, decide (c ≠ 0x5D) = true := fun c hc =>
        decide_eq_true fun h => hnone (h ▸ hc)
      rw [List.takeWhile_append_of_pos hpass, List.takeWhile_cons_of_neg (by decide),
        List.append_nil]
    rw [hfront]
    refine if_pos ⟨hbody, ?_⟩
    rw [List.length_append, List.length_cons]
    omega

theorem afterText_iff (mark s rest : JsString) : afterText mark s = some rest ↔
    ∃ head, s = head ++ rest ∧ head.map foldCase = mark := by
  unfold afterText
  constructor
  · intro h
    split_ifs at h with hmark
    obtain rfl := Option.some.inj h
    exact ⟨s.take mark.length, (List.take_append_drop _ _).symm, hmark.symm⟩
  · rintro ⟨head, rfl, rfl⟩
    rw [List.length_map, List.take_left, List.drop_left, if_pos rfl]

def matchHere (mark : JsString) (take : JsString → JsString) (s : JsString) : Option JsString :=
  ((afterText mark s).bind bracketBody).map take

theorem matchHere_iff (mark : JsString) (take : JsString → JsString) (s group : JsString) :
    matchHere mark take s = some group ↔ ∃ body, Opens mark s body ∧ take body = group := by
  unfold matchHere
  rw [Option.map_eq_some_iff]
  refine exists_congr fun body => and_congr_left fun _ => ?_
  rw [Option.bind_eq_some_iff]
  constructor
  · rintro ⟨rest, hmark, hbody⟩
    obtain ⟨head, rfl, hhead⟩ := (afterText_iff mark s rest).mp hmark
    obtain ⟨after, rfl, hne, hnone⟩ := (bracketBody_iff rest body).mp hbody
    exact ⟨head, after, rfl, hhead, hne, hnone⟩
  · rintro ⟨head, after, rfl, hhead, hne, hnone⟩
    exact ⟨body ++ 0x5D :: after, (afterText_iff mark _ _).mpr ⟨head, rfl, hhead⟩,
      (bracketBody_iff _ body).mpr ⟨after, rfl, hne, hnone⟩⟩

theorem matchHere_none (mark : JsString) (take : JsString → JsString) (s : JsString) :
    matchHere mark take s = none ↔ ∀ body, ¬Opens mark s body := by
  rw [Option.eq_none_iff_forall_ne_some]
  constructor
  · exact fun h body hopens => h (take body) ((matchHere_iff mark take s _).mpr ⟨body, hopens, rfl⟩)
  · intro h group hgroup
    obtain ⟨body, hopens, -⟩ := (matchHere_iff mark take s group).mp hgroup
    exact h body hopens

theorem findSome_tails (f : JsString → Option JsString) (content group : JsString) :
    content.tails.findSome? f = some group ↔ ∃ before s, content = before ++ s ∧
      f s = some group ∧ ∀ before' s', content = before' ++ s' →
        before'.length < before.length → f s' = none := by
  induction content with
  | nil =>
    change [[]].findSome? f = some group ↔ _
    rw [List.findSome?_singleton]
    constructor
    · exact fun h => ⟨[], [], rfl, h, fun _ _ _ hlt => absurd hlt (Nat.not_lt_zero _)⟩
    · rintro ⟨before, s, hsplit, h, -⟩
      obtain ⟨-, rfl⟩ := List.append_eq_nil_iff.mp hsplit.symm
      exact h
  | cons c rest ih =>
    rw [List.tails_cons, List.findSome?_cons]
    cases hhere : f (c :: rest) with
    | some found =>
      constructor
      · intro h
        exact ⟨[], c :: rest, rfl, hhere.trans h, fun _ _ _ hlt => absurd hlt (Nat.not_lt_zero _)⟩
      · rintro ⟨before, s, hsplit, h, hfirst⟩
        cases before with
        | nil =>
          have hs : s = c :: rest := hsplit.symm
          rw [hs, hhere] at h
          exact h
        | cons d before =>
          have hnone := hfirst [] (c :: rest) rfl (Nat.zero_lt_succ _)
          rw [hhere] at hnone
          cases hnone
    | none =>
      dsimp only
      rw [ih]
      constructor
      · rintro ⟨before, s, rfl, h, hfirst⟩
        refine ⟨c :: before, s, rfl, h, fun before' s' hsplit hlt => ?_⟩
        cases before' with
        | nil =>
          have hs : s' = c :: (before ++ s) := hsplit.symm
          rw [hs]
          exact hhere
        | cons d before' =>
          obtain ⟨-, hsplit⟩ := List.cons.inj hsplit
          exact hfirst before' s' hsplit (Nat.lt_of_succ_lt_succ hlt)
      · rintro ⟨before, s, hsplit, h, hfirst⟩
        cases before with
        | nil =>
          have hs : s = c :: rest := hsplit.symm
          rw [hs, hhere] at h
          cases h
        | cons d before =>
          obtain ⟨rfl, rfl⟩ := List.cons.inj hsplit
          exact ⟨before, s, rfl, h, fun before' s' hsplit hlt =>
            hfirst (c :: before') s' (congrArg (c :: ·) hsplit) (Nat.succ_lt_succ hlt)⟩

variable (mark : JsString) (mention : Bool) (take : JsString → JsString)
  (htake : ∀ body, body ≠ [] → Captured mention body (take body))

include htake in
theorem search_iff (content group : JsString) :
    content.tails.findSome? (matchHere mark take) = some group ↔
      Directive mark mention content group := by
  rw [findSome_tails]
  refine exists_congr fun before => exists_congr fun s => ?_
  constructor
  · rintro ⟨hcontent, hmatch, hfirst⟩
    obtain ⟨body, hopens, rfl⟩ := (matchHere_iff mark take s group).mp hmatch
    obtain ⟨-, -, -, -, hne, -⟩ := id hopens
    exact ⟨body, hcontent, hopens, htake body hne, fun before' s' hsplit hlt =>
      (matchHere_none mark take s').mp (hfirst before' s' hsplit hlt)⟩
  · rintro ⟨body, hcontent, hopens, hcaptured, hfirst⟩
    obtain ⟨-, -, -, -, hne, -⟩ := id hopens
    have hgroup := captured_unique mention body _ _ (htake body hne) hcaptured
    exact ⟨hcontent, (matchHere_iff mark take s group).mpr ⟨body, hopens, hgroup⟩,
      fun before' s' hsplit hlt => (matchHere_none mark take s').mpr (hfirst before' s' hsplit hlt)⟩

end Directives

/-- `[DELEGATE: …]` -/
def Delegates : JsString → JsString → Prop := Directive (js "[delegate:") false

/-- `[NEXT: @…]` -/
def Hands : JsString → JsString → Prop := Directive (js "[next:") true

theorem delegateMatch_iff (content group : JsString) :
    delegateMatch content = some group ↔ Delegates content group :=
  search_iff (js "[delegate:") false afterBlanks captured_afterBlanks content group

theorem nextMatch_iff (content group : JsString) :
    nextMatch content = some group ↔ Hands content group :=
  search_iff (js "[next:") true afterMention captured_afterMention content group

section Targets

variable (toLowerCase : JsString → JsString) (members : List TeamMember) (speaker : TeamMember)

def tests (target : JsString) : List (TeamMember → Bool) :=
  [fun m => toLowerCase m.agentId = target, fun m => toLowerCase m.agentName = target,
    fun m => includes (toLowerCase m.agentName) target || includes target (toLowerCase m.agentName)]

def Means (target : JsString) (m : TeamMember) : Prop :=
  toLowerCase m.agentId = target ∨ toLowerCase m.agentName = target ∨
    target <:+: toLowerCase m.agentName ∨ toLowerCase m.agentName <:+: target

theorem findByQuery_choose (candidates : List TeamMember) (group : JsString) :
    findByQuery toLowerCase candidates group =
      choose (tests toLowerCase (toLowerCase (trim group))) candidates := by
  unfold findByQuery choose tests
  dsimp only
  rw [List.findSome?_cons, List.findSome?_cons, List.findSome?_singleton]
  cases candidates.find? fun m => toLowerCase m.agentId = toLowerCase (trim group) with
  | some m => rfl
  | none =>
    cases candidates.find? fun m => toLowerCase m.agentName = toLowerCase (trim group) with
    | some m => rfl
    | none => rfl

theorem means_of_rank (target : JsString) (m : TeamMember)
    (h : rank (tests toLowerCase target) m < 3) : Means toLowerCase target m := by
  obtain ⟨test, htest, hm⟩ := List.findIdx_lt_length.mp h
  unfold tests at htest
  rcases List.mem_cons.mp htest with rfl | htest
  · exact .inl (of_decide_eq_true hm)
  rcases List.mem_cons.mp htest with rfl | htest
  · exact .inr (.inl (of_decide_eq_true hm))
  obtain rfl := List.mem_singleton.mp htest
  rcases Bool.or_eq_true_iff.mp hm with hm | hm
  · exact .inr (.inr (.inl ((includes_iff _ _).mp hm)))
  · exact .inr (.inr (.inr ((includes_iff _ _).mp hm)))

theorem rank_blank (m : TeamMember) : rank (tests toLowerCase []) m < 3 := by
  refine List.findIdx_lt_length.mpr ⟨fun m => includes (toLowerCase m.agentName) [] ||
    includes [] (toLowerCase m.agentName), ?_, ?_⟩
  · exact List.mem_cons_of_mem _ (List.mem_cons_of_mem _ (List.mem_singleton_self _))
  · exact Bool.or_eq_true_iff.mpr (.inl ((includes_iff _ _).mpr (List.nil_infix)))

/-- Whom a directive hands off to: a colleague it means, the best of them and the first of those,
and nobody if it is blank or not there. -/
structure HandsOff (directive : JsString → Prop) (selected : Option TeamMember) : Prop where
  colleague : ∀ m, selected = some m → m ∈ members ∧ m.agentId ≠ speaker.agentId
  named : ∀ m, selected = some m → ∃ group, directive group ∧ toLowerCase (trim group) ≠ [] ∧
    Means toLowerCase (toLowerCase (trim group)) m
  preferred : ∀ group, directive group → toLowerCase (trim group) ≠ [] →
    FirstBest (rank (tests toLowerCase (toLowerCase (trim group)))) 3 (others members speaker)
      selected
  blank : ∀ group, directive group → toLowerCase (trim group) = [] → selected = none
  unasked : (∀ group, ¬directive group) → selected = none

theorem handsOff_unasked (directive : JsString → Prop) (h : ∀ group, ¬directive group) :
    HandsOff toLowerCase members speaker directive none :=
  ⟨nofun, nofun, fun group hgroup => absurd hgroup (h group), fun _ _ _ => rfl, fun _ => rfl⟩

theorem handsOff_named (directive : JsString → Prop) (group : JsString) (hgroup : directive group)
    (hunique : ∀ other, directive other → other = group)
    (h : toLowerCase (trim group) ≠ [] ∨ others members speaker = []) :
    HandsOff toLowerCase members speaker directive
      (findByQuery toLowerCase (others members speaker) group) := by
  rw [findByQuery_choose]
  have hbest := choose_firstBest (tests toLowerCase (toLowerCase (trim group)))
    (others members speaker)
  refine ⟨fun m hm => ?_, fun m hm => ?_, fun other hother _ => ?_, fun other hother hblank => ?_,
    fun hnone => absurd hgroup (hnone group)⟩
  · rw [hm] at hbest
    have hmem := List.mem_filter.mp (firstBest_mem _ _ _ m hbest)
    exact ⟨hmem.1, of_decide_eq_true hmem.2⟩
  · refine ⟨group, hgroup, ?_, means_of_rank toLowerCase _ m (hbest.found m hm).1⟩
    rcases h with h | h
    · exact h
    · rw [hm] at hbest
      exact absurd (firstBest_mem _ _ _ m hbest) (by rw [h]; exact List.not_mem_nil)
  · rw [hunique other hother]
    exact hbest
  · rw [hunique other hother] at hblank
    rw [h.resolve_left (not_not.mpr hblank)]
    rfl

theorem handsOff_iff (directive : JsString → Prop) (found : Option JsString)
    (hfound : ∀ group, found = some group ↔ directive group) :
    HandsOff toLowerCase members speaker directive
        (found.bind (findByQuery toLowerCase (others members speaker))) ↔
      ∀ group, directive group → toLowerCase (trim group) ≠ [] ∨ others members speaker = [] := by
  cases found with
  | none =>
    have hnone (group : JsString) : ¬directive group := fun h => nomatch (hfound group).mpr h
    exact iff_of_true (handsOff_unasked toLowerCase members speaker directive hnone)
      fun group h => absurd h (hnone group)
  | some group =>
    have hgroup := (hfound group).mp rfl
    have hunique (other : JsString) (h : directive other) : other = group :=
      (Option.some.inj ((hfound other).mpr h)).symm
    constructor
    · intro h other hother
      rw [hunique other hother]
      refine or_iff_not_imp_left.mpr fun hblank => ?_
      have hnone := h.blank group hgroup (not_not.mp hblank)
      have hbest := choose_firstBest (tests toLowerCase (toLowerCase (trim group)))
        (others members speaker)
      change findByQuery toLowerCase (others members speaker) group = none at hnone
      rw [findByQuery_choose] at hnone
      refine List.eq_nil_iff_forall_not_mem.mpr fun m hm => ?_
      have hrank := hbest.missing hnone m hm
      rw [not_not.mp hblank] at hrank
      exact absurd (rank_blank toLowerCase m) (Nat.not_lt.mpr hrank)
    · exact fun h => handsOff_named toLowerCase members speaker directive group hgroup hunique
        (h group hgroup)

end Targets

def delegateTo (toLowerCase : JsString → JsString) (members : List TeamMember)
    (speaker : TeamMember) (reply : JsString) : Option TeamMember :=
  (delegateMatch reply).bind (findByQuery toLowerCase (others members speaker))

def handTo (toLowerCase : JsString → JsString) (members : List TeamMember)
    (speaker : TeamMember) (reply : JsString) : Option TeamMember :=
  (nextMatch reply).bind (findByQuery toLowerCase (others members speaker))

section Strategies

variable (toLowerCase : JsString → JsString) (team : Option TeamRow)

def upcoming : Schedule Turn JsString → Option TeamMember
  | .finish => none
  | .turn turn _ => some turn.member

/-- The schedule gives this member the turn, and a reply that lets it go on says who is next. -/
def Follows (schedule : Schedule Turn JsString) (speaker : TeamMember) (goes : JsString → Bool)
    (chosen : JsString → Option TeamMember) : Prop :=
  ∃ turn next, schedule = .turn turn next ∧ turn.member = speaker ∧
    ∀ reply, goes reply = true → upcoming (next reply) = chosen reply

theorem coordinator_upcoming (first : TeamMember) (rest : List TeamMember) (bound : ℕ)
    (hbound : 2 ≤ bound) :
    Follows (coordinatorSchedule toLowerCase team first rest bound)
      (leadMember toLowerCase first rest) (fun _ => true)
      (delegateTo toLowerCase (first :: rest) (leadMember toLowerCase first rest)) := by
  refine ⟨_, _, rfl, rfl, fun reply _ => ?_⟩
  unfold delegateTo
  by_cases hothers : (others (first :: rest) (leadMember toLowerCase first rest)).length > 0
  · rw [if_pos ⟨hbound, hothers⟩]
    cases (delegateMatch reply).bind (findByQuery toLowerCase
        (others (first :: rest) (leadMember toLowerCase first rest))) with
    | none => rfl
    | some specialist => rfl
  · rw [if_neg fun h => hothers h.2, List.eq_nil_of_length_eq_zero (Nat.eq_zero_of_not_pos hothers)]
    cases delegateMatch reply with
    | none => rfl
    | some group => rfl

theorem autonomous_upcoming (members : List TeamMember) (left : ℕ) (current : TeamMember) :
    Follows (handoffSchedule toLowerCase team members (left + 2) current) current
      (fun reply => !handoffFinished reply) (handTo toLowerCase members current) := by
  refine ⟨_, _, rfl, rfl, fun reply hgoes => ?_⟩
  rw [Bool.not_eq_true'] at hgoes
  unfold handTo
  rw [hgoes, if_neg Bool.false_ne_true]
  cases (nextMatch reply).bind (findByQuery toLowerCase (others members current)) with
  | none => rfl
  | some next => rfl

end Strategies

/-- A directive hands off as it says exactly if it is not blank or there is nobody else, and the turn
goes to whom it hands off to. -/
theorem handoff_target (toLowerCase : JsString → JsString) :
    (∀ members speaker reply,
      (HandsOff toLowerCase members speaker (Delegates reply)
          (delegateTo toLowerCase members speaker reply) ↔
        ∀ group, Delegates reply group →
          toLowerCase (trim group) ≠ [] ∨ others members speaker = []) ∧
      (HandsOff toLowerCase members speaker (Hands reply)
          (handTo toLowerCase members speaker reply) ↔
        ∀ group, Hands reply group →
          toLowerCase (trim group) ≠ [] ∨ others members speaker = [])) ∧
    (∀ team first rest bound, 2 ≤ bound →
      Follows (coordinatorSchedule toLowerCase team first rest bound)
        (leadMember toLowerCase first rest) (fun _ => true)
        (delegateTo toLowerCase (first :: rest) (leadMember toLowerCase first rest))) ∧
    ∀ team members left current,
      Follows (handoffSchedule toLowerCase team members (left + 2) current) current
        (fun reply => !handoffFinished reply) (handTo toLowerCase members current) :=
  ⟨fun members speaker reply =>
      ⟨handsOff_iff toLowerCase members speaker _ _ (delegateMatch_iff reply),
        handsOff_iff toLowerCase members speaker _ _ (nextMatch_iff reply)⟩,
    coordinator_upcoming toLowerCase, autonomous_upcoming toLowerCase⟩

def sampleMember (name : String) : TeamMember := ⟨js name, none, none, js name, false⟩

/-- Nobody is named, and Bob goes on. -/
theorem blank_target_handed :
    ¬HandsOff (fun s => s.map foldCase) [sampleMember "Ann", sampleMember "Bob"] (sampleMember "Ann")
      (Hands (js "That is all. [NEXT: ]"))
      (handTo (fun s => s.map foldCase) [sampleMember "Ann", sampleMember "Bob"] (sampleMember "Ann")
        (js "That is all. [NEXT: ]")) := by
  intro h
  have hblank : Hands (js "That is all. [NEXT: ]") (js " ") := (nextMatch_iff _ _).mp (by decide)
  have hbob : handTo (fun s => s.map foldCase) [sampleMember "Ann", sampleMember "Bob"]
      (sampleMember "Ann") (js "That is all. [NEXT: ]") = some (sampleMember "Bob") := by decide
  have hnone := h.blank (js " ") hblank (by decide)
  rw [hbob] at hnone
  cases hnone

end Glassbeetle.HandoffTargets
