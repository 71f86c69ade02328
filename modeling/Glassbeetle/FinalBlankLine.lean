import Mathlib.Data.List.TakeWhile
import Glassbeetle.StreamChunking

set_option autoImplicit false

/-!
# A last event without its blank line

At the end of a body each parser folds what follows the last line break into the
event under way, with rules of its own for what kind of line it is.
-/
namespace Glassbeetle.FinalBlankLine
open JsText JsValue AdapterTypes LineStream AdapterStreams
open StreamChunking (octets nullRuntime)

section Fields

theorem trimEnd_split (s : JsString) :
    ∃ space, s = trimEnd s ++ space ∧ ∀ c ∈ space, isSpace c = true := by
  refine ⟨(s.reverse.takeWhile isSpace).reverse, ?_, fun c hc => ?_⟩
  · rw [trimEnd, ← List.reverse_append, List.takeWhile_append_dropWhile, List.reverse_reverse]
  · exact List.mem_takeWhile_imp (List.mem_reverse.mp hc)

theorem trim_append_spaces (s space : JsString) (h : ∀ c ∈ space, isSpace c = true) :
    trim (s ++ space) = trim s := by
  induction space generalizing s with
  | nil => rw [List.append_nil]
  | cons c space ih =>
    have hc := trim_append_space s c (h c List.mem_cons_self)
    have hspace := ih (s ++ [c]) fun d hd => h d (List.mem_cons_of_mem c hd)
    rw [List.append_assoc, List.singleton_append] at hspace
    rw [hspace, hc]

theorem trimEnd_cons (c : CodeUnit) (s : JsString) (hc : isSpace c = false) :
    trimEnd (c :: s) = c :: trimEnd s := by
  have hkeep : [c].dropWhile isSpace = [c] :=
    List.dropWhile_cons_of_neg (by rw [hc]; exact Bool.false_ne_true)
  rw [trimEnd, trimEnd, List.reverse_cons, List.dropWhile_append, hkeep]
  cases hs : s.reverse.dropWhile isSpace with
  | nil => rfl
  | cons d rest => simp

/-- A field's name holds no space, and only the end of what follows it is trimmed. -/
theorem trim_field (name value : JsString) (hne : name ≠ [])
    (h : ∀ c ∈ name, isSpace c = false) : trim (name ++ value) = name ++ trimEnd value := by
  have hend : trimEnd (name ++ value) = name ++ trimEnd value := by
    clear hne
    induction name with
    | nil => rfl
    | cons c rest ih =>
      rw [List.cons_append, trimEnd_cons c _ (h c List.mem_cons_self),
        ih fun d hd => h d (List.mem_cons_of_mem c hd)]
      rfl
  cases name with
  | nil => exact absurd rfl hne
  | cons c rest =>
    have hstart : trimStart (c :: rest ++ value) = c :: rest ++ value :=
      List.dropWhile_cons_of_neg
        (by rw [h c List.mem_cons_self]; exact Bool.false_ne_true)
    rw [trim, hstart, hend]

theorem startsWith_append (name value : JsString) : startsWith (name ++ value) name = true :=
  (startsWith_iff _ _).mpr (List.prefix_append name value)

theorem startsWith_split (s name : JsString) (h : startsWith s name = true) :
    s = name ++ s.drop name.length := by
  obtain ⟨value, rfl⟩ := (startsWith_iff _ _).mp h
  rw [List.drop_left]

theorem startsWith_trim (s name : JsString) (hne : name ≠ []) (hname : ∀ c ∈ name, isSpace c = false)
    (h : startsWith s name = true) : startsWith (trim s) name = true := by
  rw [startsWith_split s name h, trim_field name _ hne hname]
  exact startsWith_append name _

theorem drop_trim (s name : JsString) (hne : name ≠ []) (hname : ∀ c ∈ name, isSpace c = false)
    (h : startsWith s name = true) :
    ∃ space, s.drop name.length = (trim s).drop name.length ++ space ∧
      ∀ c ∈ space, isSpace c = true := by
  obtain ⟨space, hsplit, hspace⟩ := trimEnd_split (s.drop name.length)
  refine ⟨space, ?_, hspace⟩
  have htrim : trim s = name ++ trimEnd (s.drop name.length) := by
    conv_lhs => rw [startsWith_split s name h]
    exact trim_field name _ hne hname
  rw [htrim, List.drop_left]
  exact hsplit

theorem join_concat (parts : List JsString) (text : JsString) (hne : parts ≠ []) :
    join (js "\n") (parts ++ [text]) = join (js "\n") parts ++ 0x0A :: text := by
  have hbreak : js "\n" = [0x0A] := rfl
  rw [hbreak]
  induction parts with
  | nil => exact absurd rfl hne
  | cons part parts ih =>
    cases parts with
    | nil => simp [join, List.intercalate]
    | cons next parts =>
      have hlater : join [0x0A] (next :: (parts ++ [text])) =
          join [0x0A] (next :: parts) ++ 0x0A :: text := ih (List.cons_ne_nil _ _)
      have hjoin : ∀ more, join [0x0A] (part :: next :: more) =
          part ++ 0x0A :: join [0x0A] (next :: more) := by
        intro more
        simp [join, List.intercalate]
      calc join [0x0A] (part :: next :: (parts ++ [text]))
          = part ++ 0x0A :: (join [0x0A] (next :: parts) ++ 0x0A :: text) := by rw [hjoin, hlater]
        _ = part ++ 0x0A :: join [0x0A] (next :: parts) ++ 0x0A :: text := by simp
        _ = join [0x0A] (part :: next :: parts) ++ 0x0A :: text := by rw [hjoin]

theorem join_last (parts : List JsString) :
    ∃ before, ∀ text, join (js "\n") (parts ++ [text]) = before ++ text := by
  by_cases hne : parts = []
  · exact ⟨[], fun text => by simp [hne, join]⟩
  · refine ⟨join (js "\n") parts ++ [0x0A], fun text => ?_⟩
    rw [join_concat parts text hne, List.append_assoc]
    rfl

theorem trim_join (parts : List JsString) (value space : JsString)
    (h : ∀ c ∈ space, isSpace c = true) :
    trim (join (js "\n") (parts ++ [trimStart (value ++ space)])) =
      trim (join (js "\n") (parts ++ [trimStart value])) := by
  obtain ⟨before, hjoin⟩ := join_last parts
  have hstart : trimStart (value ++ space) =
      if (trimStart value).isEmpty then trimStart space else trimStart value ++ space :=
    List.dropWhile_append
  rw [hjoin, hjoin, hstart]
  cases hvalue : trimStart value with
  | nil => rw [List.isEmpty_nil, if_pos rfl, trimStart, dropWhile_all isSpace space h]
  | cons c rest =>
    rw [List.isEmpty_cons, if_neg Bool.false_ne_true, ← List.append_assoc,
      trim_append_spaces _ space h]

theorem startsWith_return (line name : JsString) (h : 0x0D ∉ name) :
    startsWith (line ++ [0x0D]) name = startsWith line name := by
  apply Bool.eq_iff_iff.mpr
  rw [startsWith_iff, startsWith_iff, List.prefix_concat_iff]
  constructor
  · rintro (rfl | hline)
    · exact absurd (List.mem_append_right line (List.mem_singleton_self 0x0D)) h
    · exact hline
  · exact .inr

theorem data_trim (line : JsString) (h : startsWith line (js "data:") = true) :
    startsWith (trim line) (js "data:") = true :=
  startsWith_trim line (js "data:") (by decide) (each_of_all _ (by decide)) h

theorem comment_not_data (s : JsString) (h : startsWith s (js ":") = true) :
    startsWith s (js "data:") = false := by
  rw [startsWith_split s _ h]
  rfl

theorem blank_not_data (line : JsString) (h : trim line = []) :
    startsWith line (js "data:") = false := by
  cases hdata : startsWith line (js "data:") with
  | false => rfl
  | true =>
    have htrim := data_trim line hdata
    rw [h] at htrim
    exact htrim.symm

end Fields

section Lines

def flushed (dataLines : List JsString) (rest : JsString) : List JsString :=
  if startsWith (trim rest) (js "data:") then dataLines ++ [trimStart ((trim rest).drop 5)]
  else if trim rest ≠ [] ∧ ¬startsWith (trim rest) (js ":") then dataLines ++ [trim rest]
  else dataLines

def accepted (dataLines : List JsString) (line : JsString) : List JsString :=
  if startsWith line (js "data:") then dataLines ++ [trimStart (line.drop 5)] else dataLines

def Stray (rest : JsString) : Prop :=
  trim rest ≠ [] ∧ startsWith (trim rest) (js ":") = false ∧ startsWith rest (js "data:") = false

theorem accepted_stray (dataLines : List JsString) (line : JsString) (h : Stray line) :
    accepted dataLines line = dataLines := by
  rw [accepted, h.2.2]
  rfl

theorem flushed_accepted (dataLines : List JsString) (line : JsString) (h : ¬Stray line) :
    trim (join (js "\n") (flushed dataLines line)) =
      trim (join (js "\n") (accepted dataLines line)) := by
  cases hdata : startsWith line (js "data:") with
  | true =>
    obtain ⟨space, hdrop, hspace⟩ := drop_trim line (js "data:") (by decide) (each_of_all _ (by decide)) hdata
    change line.drop 5 = (trim line).drop 5 ++ space at hdrop
    have hflushed : flushed dataLines line = dataLines ++ [trimStart ((trim line).drop 5)] := by
      rw [flushed, data_trim line hdata, if_pos rfl]
    have haccepted : accepted dataLines line =
        dataLines ++ [trimStart ((trim line).drop 5 ++ space)] := by
      rw [accepted, hdata, if_pos rfl, hdrop]
    rw [hflushed, haccepted]
    exact (trim_join dataLines _ space hspace).symm
  | false =>
    have hsame : flushed dataLines line = dataLines := by
      by_cases hblank : trim line = []
      · rw [flushed, hblank]
        rfl
      · have hcomment : startsWith (trim line) (js ":") = true := by
          by_contra hcomment
          exact h ⟨hblank, by simpa using hcomment, hdata⟩
        rw [flushed, comment_not_data _ hcomment, hcomment]
        simp
    rw [hsame, accepted, hdata]
    rfl

/-- The line that a line break ends is the rest of the text, but for a carriage return. -/
theorem line_break (rest : JsString) (h : splitLines rest = [rest]) :
    ∃ line, splitLines (rest ++ [0x0A, 0x0A]) = [line, [], []] ∧ trim line = trim rest ∧
      ∀ name, 0x0D ∉ name → startsWith rest name = startsWith line name := by
  obtain ⟨line, hlines, hrest⟩ := splitLines_break rest h
  refine ⟨line, splitLines_blank rest line hlines, ?_⟩
  rcases hrest with rfl | rfl
  · exact ⟨rfl, fun _ _ => rfl⟩
  · exact ⟨(trim_append_space line 0x0D rfl).symm, startsWith_return line⟩

end Lines

section Folding
variable {ν : Type}

/-- `JSON.parse` refuses a document with more text after it, and whatever starts with the sentinel. -/
structure Refuses (parseJson : JsString → Option (Json ν)) : Prop where
  more : ∀ document space text, parseJson document ≠ none → space ≠ [] →
    (∀ c ∈ space, isSpace c = true) → trim text ≠ [] → parseJson (document ++ space ++ text) = none
  sentinel : ∀ text, parseJson (js "[DONE]" ++ text) = none

def folded (rest : JsString) : JsString :=
  if startsWith (trim rest) (js "data:") then trimStart ((trim rest).drop 5) else trim rest

theorem flushed_stray (dataLines : List JsString) (rest : JsString) (h : Stray rest) :
    flushed dataLines rest = dataLines ++ [folded rest] := by
  have hfold : trim rest ≠ [] ∧ ¬startsWith (trim rest) (js ":") = true :=
    ⟨h.1, by rw [h.2.1]; exact Bool.false_ne_true⟩
  rw [flushed, folded, if_pos hfold]
  split_ifs <;> rfl

def Unread (parseJson : JsString → Option (Json ν)) (data : JsString) : Prop :=
  trim data = [] ∨ trim data ≠ js "[DONE]" ∧ parseJson (trim data) = none

theorem trimEnd_append (s t : JsString) (ht : trimEnd t ≠ []) :
    trimEnd (s ++ t) = s ++ trimEnd t := by
  have hlast : t.reverse.dropWhile isSpace ≠ [] := fun h => ht (by rw [trimEnd, h]; rfl)
  have hdrop : (s ++ t).reverse.dropWhile isSpace = t.reverse.dropWhile isSpace ++ s.reverse := by
    rw [List.reverse_append, List.dropWhile_append, if_neg (by simpa using hlast)]
  rw [trimEnd, hdrop, List.reverse_append, List.reverse_reverse]
  rfl

/-- What follows a line break stands behind the trimmed text, with only space between them. -/
theorem trim_break (s t : JsString) (hs : trim s ≠ []) (ht : trim t ≠ []) :
    ∃ space, space ≠ [] ∧ (∀ c ∈ space, isSpace c = true) ∧
      trim (s ++ 0x0A :: t) = trim s ++ space ++ trimEnd t := by
  obtain ⟨space, hsplit, hspace⟩ := trimEnd_split (trimStart s)
  have hfirst : trimStart s ≠ [] := fun h => hs (by rw [trim, h]; rfl)
  have hend : trimEnd t ≠ [] := by
    intro h
    refine ht ((trim_eq_nil t).mpr fun c hc => ?_)
    obtain ⟨space, hsplit, hspace⟩ := trimEnd_split t
    rw [h, List.nil_append] at hsplit
    exact hspace c (hsplit ▸ hc)
  have hstart : trimStart (s ++ 0x0A :: t) = trimStart s ++ 0x0A :: t := by
    rw [trimStart, List.dropWhile_append, if_neg (by simpa [trimStart] using hfirst)]
    rfl
  refine ⟨space ++ [0x0A], by simp, ?_, ?_⟩
  · intro c hc
    rcases List.mem_append.mp hc with hc | hc
    · exact hspace c hc
    · rw [List.mem_singleton.mp hc]
      rfl
  · calc trim (s ++ 0x0A :: t)
        = trimEnd (trim s ++ (space ++ [0x0A]) ++ t) := by
          rw [trim, hstart, hsplit, trim]
          simp
      _ = trim s ++ (space ++ [0x0A]) ++ trimEnd t := trimEnd_append _ t hend

/-- Of the data under way and the data with a visible line folded in, one is read at most. -/
theorem unread_folded {parseJson : JsString → Option (Json ν)} (hjson : Refuses parseJson)
    (dataLines : List JsString) (value : JsString) (hvalue : trim value ≠ [])
    (h : ¬Unread parseJson (join (js "\n") dataLines)) :
    Unread parseJson (join (js "\n") (dataLines ++ [value])) := by
  obtain ⟨hvisible, hread⟩ := not_or.mp h
  have hne : dataLines ≠ [] := fun hnil => hvisible (by rw [hnil]; rfl)
  obtain ⟨space, hspace, hblank, htrim⟩ := trim_break _ value hvisible hvalue
  rw [Unread, join_concat dataLines value hne, htrim]
  refine .inr ⟨fun hdone => ?_, ?_⟩
  · obtain ⟨c, hc⟩ := List.exists_mem_of_ne_nil space hspace
    have hmem : c ∈ js "[DONE]" := hdone ▸
      List.mem_append_left _ (List.mem_append_right _ hc)
    have hdark : ∀ c ∈ js "[DONE]", isSpace c = false := each_of_all _ (by decide)
    exact Bool.false_ne_true ((hdark c hmem).symm.trans (hblank c hc))
  · by_cases hdone : trim (join (js "\n") dataLines) = js "[DONE]"
    · rw [hdone, List.append_assoc]
      exact hjson.sentinel _
    · have hdocument : parseJson (trim (join (js "\n") dataLines)) ≠ none :=
        fun hnone => hread ⟨hdone, hnone⟩
      refine hjson.more _ space _ hdocument hspace hblank ?_
      intro hend
      refine hvalue ((trim_eq_nil value).mpr fun c hc => ?_)
      obtain ⟨spaces, hsplit, hspaces⟩ := trimEnd_split value
      rw [hsplit] at hc
      rcases List.mem_append.mp hc with hc | hc
      · exact (trim_eq_nil _).mp hend c hc
      · exact hspaces c hc

/-- A reading of the data that depends on their trimmed text alone, and on nothing that is unread,
is spared by a stray line just when the line adds no text or neither form of the data is heard. -/
theorem alike_iff {β : Type} {parseJson : JsString → Option (Json ν)} (hjson : Refuses parseJson)
    (hear : List JsString → β)
    (htrim : ∀ lines other, trim (join (js "\n") lines) = trim (join (js "\n") other) →
      hear lines = hear other)
    (hunread : ∀ lines, Unread parseJson (join (js "\n") lines) → hear lines = hear [])
    (dataLines : List JsString) (rest : JsString) (hstray : Stray rest) :
    hear (flushed dataLines rest) = hear dataLines ↔
      trim (folded rest) = [] ∨ hear dataLines = hear [] ∧ hear (flushed dataLines rest) = hear [] := by
  rw [flushed_stray dataLines rest hstray]
  by_cases hvalue : trim (folded rest) = []
  · have hsame : hear (dataLines ++ [folded rest]) = hear dataLines := by
      apply htrim
      by_cases hne : dataLines = []
      · rw [hne, List.nil_append, show join (js "\n") [folded rest] = folded rest by simp [join],
          hvalue]
        rfl
      · rw [join_concat dataLines _ hne]
        exact trim_append_spaces _ (0x0A :: folded rest) (List.forall_mem_cons.mpr
          ⟨rfl, (trim_eq_nil _).mp hvalue⟩)
    exact ⟨fun _ => .inl hvalue, fun _ => hsame⟩
  · by_cases hpending : Unread parseJson (join (js "\n") dataLines)
    · have hnothing := hunread _ hpending
      constructor
      · exact fun h => .inr ⟨hnothing, h.trans hnothing⟩
      · rintro (hblank | ⟨-, h⟩)
        · exact absurd hblank hvalue
        · exact h.trans hnothing.symm
    · have hnothing := hunread _ (unread_folded hjson dataLines _ hvalue hpending)
      constructor
      · exact fun h => .inr ⟨h.symm.trans hnothing, hnothing⟩
      · rintro (hblank | ⟨h, -⟩)
        · exact absurd hblank hvalue
        · exact hnothing.trans h.symm

end Folding

section Sse
variable {ν σ : Type} (parse : Parse ν σ) (failure : TypeError → Ending)
  (final : σ → Except TypeError (List (Event ν)))

def told (parsed : Except TypeError (List (Event ν) × σ)) : List (Event ν) × Ending :=
  match parsed with
  | .error e => ([], failure e)
  | .ok (events, context) =>
    match untilTerminal events with
    | (events, true) => (events, .returned)
    | (events, false) =>
      match final context with
      | .error e => (events, failure e)
      | .ok last => (events ++ last, .returned)

def heard (context : σ) (dataLines : List JsString) : List (Event ν) × Ending :=
  told failure final (parse context (trim (join (js "\n") dataLines)))

variable (hparse : ∀ context, parse context [] = .ok ([], context))
include hparse

theorem sseLast_eq (state : SseState σ) (rest : JsString) :
    sseLast parse failure final state rest =
      heard parse failure final state.context (flushed state.dataLines rest) := by
  have hdata : parse state.context (trim (join (js "\n") (flushed state.dataLines rest))) =
      if trim (join (js "\n") (flushed state.dataLines rest)) = [] then .ok ([], state.context)
      else parse state.context (trim (join (js "\n") (flushed state.dataLines rest))) := by
    split_ifs with h
    · rw [h, hparse]
    · rfl
  rw [heard, hdata]
  rfl

theorem heard_nothing (context : σ) :
    heard parse failure final context [] = told failure final (.ok ([], context)) := by
  have hblank : trim (join (js "\n") []) = [] := rfl
  rw [heard, hblank, hparse]

theorem consume_blank (state : SseState σ) (line : JsString) (more : List JsString)
    (hblank : trim line = []) (hne : more ≠ [])
    (hmore : ∀ context, consume ⟨sseLine parse failure, sseLast parse failure final⟩ ⟨[], context⟩
      more = heard parse failure final context []) :
    consume ⟨sseLine parse failure, sseLast parse failure final⟩ state (line :: more) =
      heard parse failure final state.context state.dataLines := by
  obtain ⟨dataLines, context⟩ := state
  rw [consume_cons _ _ _ _ hne]
  by_cases hdata : dataLines = []
  · have hline : sseLine parse failure ⟨dataLines, context⟩ line = ([], .ok ⟨dataLines, context⟩) := by
      rw [sseLine, if_pos hblank, if_pos hdata]
    dsimp only
    rw [hline, hdata]
    exact hmore context
  · cases hparsed : parse context (trim (join (js "\n") dataLines)) with
    | error e =>
      have hline : sseLine parse failure ⟨dataLines, context⟩ line = ([], .error (failure e)) := by
        rw [sseLine, if_pos hblank, if_neg hdata, hparsed]
      dsimp only
      rw [hline, heard, hparsed]
      rfl
    | ok told =>
      obtain ⟨events, context'⟩ := told
      cases hevents : untilTerminal events with
      | mk yielded stopped =>
        cases stopped with
        | true =>
          have hline : sseLine parse failure ⟨dataLines, context⟩ line =
              (yielded, .error .returned) := by
            rw [sseLine, if_pos hblank, if_neg hdata, hparsed]
            dsimp only
            rw [hevents]
          dsimp only
          rw [hline, heard, hparsed, told, hevents]
        | false =>
          have hline : sseLine parse failure ⟨dataLines, context⟩ line =
              (yielded, .ok ⟨[], context'⟩) := by
            rw [sseLine, if_pos hblank, if_neg hdata, hparsed]
            dsimp only
            rw [hevents]
          dsimp only
          rw [hline]
          dsimp only
          rw [hmore context', heard_nothing parse failure final hparse, heard, hparsed, told, told,
            hevents]
          cases final context' with
          | error e => exact Prod.ext (List.append_nil yielded) rfl
          | ok last => rfl

theorem consume_accepted (state : SseState σ) (line : JsString) :
    consume ⟨sseLine parse failure, sseLast parse failure final⟩ state [line, [], []] =
      heard parse failure final state.context (accepted state.dataLines line) := by
  have hlast : ∀ context, consume ⟨sseLine parse failure, sseLast parse failure final⟩
      ⟨[], context⟩ [[]] = heard parse failure final context [] := by
    intro context
    rw [consume_single]
    exact sseLast_eq parse failure final hparse ⟨[], context⟩ []
  have hblank : ∀ state, consume ⟨sseLine parse failure, sseLast parse failure final⟩ state
      [[], []] = heard parse failure final state.context state.dataLines :=
    fun state => consume_blank parse failure final hparse state [] [[]] rfl (List.cons_ne_nil _ _)
      hlast
  by_cases hline : trim line = []
  · rw [consume_blank parse failure final hparse state line _ hline (List.cons_ne_nil _ _)
      fun context => hblank ⟨[], context⟩, accepted, blank_not_data line hline]
    rfl
  · have hstep : sseLine parse failure state line =
        ([], .ok ⟨accepted state.dataLines line, state.context⟩) := by
      rw [sseLine, if_neg hline]
      cases hcomment : startsWith line (js ":") with
      | true => rw [if_pos rfl, accepted, comment_not_data line hcomment]; rfl
      | false =>
        rw [if_neg Bool.false_ne_true, accepted]
        split_ifs <;> rfl
    rw [consume_cons _ _ _ _ (List.cons_ne_nil _ _)]
    dsimp only
    rw [hstep]
    exact hblank ⟨accepted state.dataLines line, state.context⟩

/-- The flush makes of the rest what the main loop makes of it just when it is no stray line, or one
that adds nothing to what is heard of the pending data. -/
theorem sse_rest_iff (state : SseState σ) (rest : JsString) (h : splitLines rest = [rest]) :
    (sseLast parse failure final state rest).1 =
        (consume ⟨sseLine parse failure, sseLast parse failure final⟩ state
          (splitLines (rest ++ [0x0A, 0x0A]))).1 ↔
      (Stray rest →
        (heard parse failure final state.context (flushed state.dataLines rest)).1 =
          (heard parse failure final state.context state.dataLines).1) := by
  obtain ⟨line, hlines, htrim, hstarts⟩ := line_break rest h
  have hstray : Stray rest ↔ Stray line := by
    rw [Stray, Stray, htrim, hstarts (js "data:") (by decide)]
  have hflushed : flushed state.dataLines rest = flushed state.dataLines line := by
    rw [flushed, flushed, htrim]
  rw [hlines, consume_accepted parse failure final hparse, sseLast_eq parse failure final hparse,
    hstray, hflushed]
  by_cases hline : Stray line
  · rw [accepted_stray _ line hline]
    exact ⟨fun h _ => h, fun h => h hline⟩
  · have hsame := flushed_accepted state.dataLines line hline
    refine ⟨fun _ h => absurd h hline, fun _ => ?_⟩
    rw [heard, heard, hsame]

def Idle (context : σ) (dataLines : List JsString) : Prop :=
  (heard parse failure final context dataLines).1 = (heard parse failure final context []).1

omit hparse in
theorem sse_alike_iff {parseJson : JsString → Option (Json ν)} (hjson : Refuses parseJson)
    (hunread : ∀ context data, Unread parseJson data → parse context (trim data) = .ok ([], context))
    (state : SseState σ) (rest : JsString) (hstray : Stray rest) :
    (heard parse failure final state.context (flushed state.dataLines rest)).1 =
        (heard parse failure final state.context state.dataLines).1 ↔
      trim (folded rest) = [] ∨
        Idle parse failure final state.context state.dataLines ∧
          Idle parse failure final state.context (flushed state.dataLines rest) := by
  apply alike_iff hjson (fun lines => (heard parse failure final state.context lines).1)
  · intro lines other h
    rw [heard, heard, h]
  · intro lines h
    have hnothing : Unread parseJson (join (js "\n") []) := .inl rfl
    rw [heard, heard, hunread _ _ h, hunread _ _ hnothing]
  · exact hstray

end Sse

section Anthropic
variable {ν : Type} [JsNumber ν] (settings : AdapterSettings ν)

def heardEvent (state : AnthropicStream.State ν) : List (Event ν) × Ending :=
  match AnthropicStream.parseSseEvent settings state.currentEvent state.context
      (join (js "\n") state.dataLines) with
  | .error e => ([], failed settings "Anthropic" (js "anthropic") e)
  | .ok (events, context) =>
    match context.final with
    | .error e => (events, failed settings "Anthropic" (js "anthropic") e)
    | .ok final => (events ++ final, .returned)

def flushedEvent (state : AnthropicStream.State ν) (rest : JsString) : AnthropicStream.State ν :=
  if startsWith (trim rest) (js "event:") then
    { state with currentEvent := trim ((trim rest).drop 6) }
  else { state with dataLines := flushed state.dataLines rest }

def acceptedEvent (state : AnthropicStream.State ν) (line : JsString) : AnthropicStream.State ν :=
  if startsWith line (js "event:") then { state with currentEvent := trim (line.drop 6) }
  else { state with dataLines := accepted state.dataLines line }

/-- Nor does the line start with an event field. -/
def StrayEvent (rest : JsString) : Prop := Stray rest ∧ startsWith rest (js "event:") = false

theorem parseSseEvent_trim (eventName : JsString) (context : ReplyContext ν) (data other : JsString)
    (h : trim data = trim other) :
    AnthropicStream.parseSseEvent settings eventName context data =
      AnthropicStream.parseSseEvent settings eventName context other := by
  simp only [AnthropicStream.parseSseEvent, h]

theorem parseSseEvent_unread (eventName : JsString) (context : ReplyContext ν) (data : JsString)
    (h : Unread settings.parseJson data) :
    AnthropicStream.parseSseEvent settings eventName context data = .ok ([], context) := by
  rcases h with hblank | ⟨hdone, hnone⟩
  · simp only [AnthropicStream.parseSseEvent, hblank]
    rfl
  · simp only [AnthropicStream.parseSseEvent, if_neg hdone, hnone]
    split_ifs <;> rfl

theorem parseSseEvent_blank (eventName : JsString) (context : ReplyContext ν) :
    AnthropicStream.parseSseEvent settings eventName context (join (js "\n") []) =
      .ok ([], context) := rfl

theorem last_eq (state : AnthropicStream.State ν) (rest : JsString) :
    AnthropicStream.last settings state rest = heardEvent settings (flushedEvent state rest) := by
  have hstate : flushedEvent state rest =
      if startsWith (trim rest) (js "event:") then
        { state with currentEvent := trim ((trim rest).drop 6) }
      else if startsWith (trim rest) (js "data:") then
        { state with dataLines := state.dataLines ++ [trimStart ((trim rest).drop 5)] }
      else if trim rest ≠ [] ∧ ¬startsWith (trim rest) (js ":") then
        { state with dataLines := state.dataLines ++ [trim rest] }
      else state := by
    rw [flushedEvent, flushed]
    split_ifs <;> rfl
  have hparse : ∀ event : AnthropicStream.State ν,
      AnthropicStream.parseSseEvent settings event.currentEvent event.context
          (join (js "\n") event.dataLines) =
        if event.dataLines = [] then .ok ([], event.context)
        else AnthropicStream.parseSseEvent settings event.currentEvent event.context
          (join (js "\n") event.dataLines) := by
    intro event
    split_ifs with h
    · rw [h, parseSseEvent_blank]
    · rfl
  rw [heardEvent, hparse, hstate]
  rfl

theorem consume_blank_event (state : AnthropicStream.State ν) (line : JsString)
    (more : List JsString) (hblank : trim line = []) (hne : more ≠ [])
    (hmore : ∀ context, consume (AnthropicStream.consumer settings) ⟨[], [], context⟩ more =
      heardEvent settings ⟨[], [], context⟩) :
    consume (AnthropicStream.consumer settings) state (line :: more) =
      heardEvent settings state := by
  obtain ⟨currentEvent, dataLines, context⟩ := state
  have hcons := consume_cons (AnthropicStream.consumer settings)
    ⟨currentEvent, dataLines, context⟩ line more hne
  by_cases hdata : dataLines = [] ∧ currentEvent = []
  · have hline : (AnthropicStream.consumer settings).line ⟨currentEvent, dataLines, context⟩ line =
        ([], .ok ⟨currentEvent, dataLines, context⟩) := by
      change AnthropicStream.line settings _ line = _
      rw [AnthropicStream.line, if_pos hblank, if_pos hdata]
    rw [hcons, hline, hdata.1, hdata.2]
    exact hmore context
  · cases hparsed : AnthropicStream.parseSseEvent settings currentEvent context
        (join (js "\n") dataLines) with
    | error e =>
      have hline : (AnthropicStream.consumer settings).line ⟨currentEvent, dataLines, context⟩
          line = ([], .error (failed settings "Anthropic" (js "anthropic") e)) := by
        change AnthropicStream.line settings _ line = _
        rw [AnthropicStream.line, if_pos hblank, if_neg hdata, hparsed]
      rw [hcons, hline, heardEvent, hparsed]
    | ok told =>
      obtain ⟨events, context'⟩ := told
      have hline : (AnthropicStream.consumer settings).line ⟨currentEvent, dataLines, context⟩
          line = (events, .ok ⟨[], [], context'⟩) := by
        change AnthropicStream.line settings _ line = _
        rw [AnthropicStream.line, if_pos hblank, if_neg hdata, hparsed]
      rw [hcons, hline]
      dsimp only
      rw [hmore context', heardEvent, heardEvent, hparsed]
      dsimp only
      rw [parseSseEvent_blank]
      dsimp only
      cases context'.final with
      | error e => exact Prod.ext (List.append_nil events) rfl
      | ok final => rfl

theorem event_not_data (s : JsString) (h : startsWith s (js "event:") = true) :
    startsWith s (js "data:") = false ∧ startsWith s (js ":") = false := by
  rw [startsWith_split s _ h]
  exact ⟨rfl, rfl⟩

theorem event_trim (line : JsString) (h : startsWith line (js "event:") = true) :
    startsWith (trim line) (js "event:") = true :=
  startsWith_trim line (js "event:") (by decide) (each_of_all _ (by decide)) h

theorem consume_accepted_event (state : AnthropicStream.State ν) (line : JsString) :
    consume (AnthropicStream.consumer settings) state [line, [], []] =
      heardEvent settings (acceptedEvent state line) := by
  have hlast : ∀ context, consume (AnthropicStream.consumer settings) ⟨[], [], context⟩ [[]] =
      heardEvent settings ⟨[], [], context⟩ := by
    intro context
    rw [consume_single]
    exact last_eq settings ⟨[], [], context⟩ []
  have hblank : ∀ state, consume (AnthropicStream.consumer settings) state [[], []] =
      heardEvent settings state :=
    fun state => consume_blank_event settings state [] [[]] rfl (List.cons_ne_nil _ _) hlast
  by_cases hline : trim line = []
  · have hevent : startsWith line (js "event:") = false := by
      cases hevent : startsWith line (js "event:") with
      | false => rfl
      | true =>
        have htrim := event_trim line hevent
        rw [hline] at htrim
        exact htrim.symm
    rw [consume_blank_event settings state line _ hline (List.cons_ne_nil _ _)
      fun context => hblank ⟨[], [], context⟩, acceptedEvent, hevent, accepted,
      blank_not_data line hline]
    rfl
  · have hstep : (AnthropicStream.consumer settings).line state line =
        ([], .ok (acceptedEvent state line)) := by
      change AnthropicStream.line settings state line = _
      rw [AnthropicStream.line, if_neg hline, acceptedEvent]
      cases hcomment : startsWith line (js ":") with
      | true =>
        have hevent : startsWith line (js "event:") = false := by
          rw [startsWith_split line _ hcomment]
          rfl
        rw [if_pos rfl, hevent, accepted, comment_not_data line hcomment]
        rfl
      | false =>
        rw [if_neg Bool.false_ne_true, accepted]
        split_ifs <;> rfl
    rw [consume_cons _ _ _ _ (List.cons_ne_nil _ _), hstep]
    exact hblank (acceptedEvent state line)

theorem heardEvent_accepted (state : AnthropicStream.State ν) (line : JsString)
    (h : ¬StrayEvent line) :
    heardEvent settings (flushedEvent state line) =
      heardEvent settings (acceptedEvent state line) := by
  cases hevent : startsWith line (js "event:") with
  | true =>
    obtain ⟨space, hdrop, hspace⟩ := drop_trim line (js "event:") (by decide) (each_of_all _ (by decide)) hevent
    change line.drop 6 = (trim line).drop 6 ++ space at hdrop
    have hflushed : flushedEvent state line =
        { state with currentEvent := trim ((trim line).drop 6) } := by
      rw [flushedEvent, event_trim line hevent, if_pos rfl]
    have haccepted : acceptedEvent state line =
        { state with currentEvent := trim ((trim line).drop 6 ++ space) } := by
      rw [acceptedEvent, hevent, if_pos rfl, hdrop]
    rw [hflushed, haccepted, trim_append_spaces _ space hspace]
  | false =>
    have hstray : ¬Stray line := fun hstray => h ⟨hstray, hevent⟩
    have hnamed : startsWith (trim line) (js "event:") = false := by
      by_contra hnamed
      have hevent' : startsWith (trim line) (js "event:") = true := by simpa using hnamed
      obtain ⟨hdata, hcomment⟩ := event_not_data _ hevent'
      refine hstray ⟨?_, hcomment, ?_⟩
      · intro hblank
        rw [hblank] at hevent'
        exact Bool.false_ne_true hevent'
      · cases hline : startsWith line (js "data:") with
        | false => rfl
        | true => exact (data_trim line hline).symm.trans hdata
    have hdata := flushed_accepted state.dataLines line hstray
    have hflushed : flushedEvent state line =
        { state with dataLines := flushed state.dataLines line } := by
      rw [flushedEvent, hnamed, if_neg Bool.false_ne_true]
    have haccepted : acceptedEvent state line =
        { state with dataLines := accepted state.dataLines line } := by
      rw [acceptedEvent, hevent, if_neg Bool.false_ne_true]
    rw [hflushed, haccepted, heardEvent, heardEvent, parseSseEvent_trim settings _ _ _ _ hdata]

theorem anthropic_rest_iff (state : AnthropicStream.State ν) (rest : JsString)
    (h : splitLines rest = [rest]) :
    (AnthropicStream.last settings state rest).1 =
        (consume (AnthropicStream.consumer settings) state
          (splitLines (rest ++ [0x0A, 0x0A]))).1 ↔
      (StrayEvent rest →
        (heardEvent settings (flushedEvent state rest)).1 = (heardEvent settings state).1) := by
  obtain ⟨line, hlines, htrim, hstarts⟩ := line_break rest h
  have hstray : StrayEvent rest ↔ StrayEvent line := by
    rw [StrayEvent, StrayEvent, Stray, Stray, htrim, hstarts (js "data:") (by decide),
      hstarts (js "event:") (by decide)]
  have hflushed : flushedEvent state rest = flushedEvent state line := by
    rw [flushedEvent, flushedEvent, flushed, flushed, htrim]
  rw [hlines, consume_accepted_event, last_eq, hstray, hflushed]
  by_cases hline : StrayEvent line
  · have hstate : acceptedEvent state line = state := by
      rw [acceptedEvent, hline.2, accepted_stray _ line hline.1]
      rfl
    rw [hstate]
    exact ⟨fun h _ => h, fun h => h hline⟩
  · rw [heardEvent_accepted settings state line hline]
    exact ⟨fun _ h => absurd h hline, fun _ => rfl⟩

def IdleEvent (state : AnthropicStream.State ν) : Prop :=
  (heardEvent settings state).1 = (heardEvent settings { state with dataLines := [] }).1

theorem anthropic_alike_iff (hjson : Refuses settings.parseJson) (state : AnthropicStream.State ν)
    (rest : JsString) (hstray : Stray rest) (hname : startsWith (trim rest) (js "event:") = false) :
    (heardEvent settings (flushedEvent state rest)).1 = (heardEvent settings state).1 ↔
      trim (folded rest) = [] ∨
        IdleEvent settings state ∧ IdleEvent settings (flushedEvent state rest) := by
  have hflushed : flushedEvent state rest =
      { state with dataLines := flushed state.dataLines rest } := by
    rw [flushedEvent, hname]
    rfl
  rw [hflushed]
  apply alike_iff hjson (fun lines => (heardEvent settings { state with dataLines := lines }).1)
  · intro lines other h
    rw [heardEvent, heardEvent, parseSseEvent_trim settings _ _ _ _ h]
  · intro lines h
    rw [heardEvent, heardEvent, parseSseEvent_unread settings _ _ _ h, parseSseEvent_blank]
  · exact hstray

end Anthropic

section Streams
variable {ν : Type} [JsNumber ν] (settings : AdapterSettings ν)

def OpenAiRest (model : Option JsString) (body : JsString)
    (state : SseState (OpenAiStream.Context ν)) (rest : JsString) : Prop :=
  Reaches (OpenAiStream.consumer settings)
    ⟨[], some (.string (requestedModel settings model)), .stop, none, false⟩ body state rest

def GoogleRest (model : Option JsString) (body : JsString) (state : SseState (ReplyContext ν))
    (rest : JsString) : Prop :=
  Reaches (GoogleStream.consumer settings) ⟨[], .start settings model⟩ body state rest

def AnthropicRest (model : Option JsString) (body : JsString) (state : AnthropicStream.State ν)
    (rest : JsString) : Prop :=
  Reaches (AnthropicStream.consumer settings) ⟨[], [], .start settings model⟩ body state rest

theorem openAi_unread (context : OpenAiStream.Context ν) (data : JsString)
    (h : Unread settings.parseJson data) :
    OpenAiStream.parseSseData settings context (trim data) = .ok ([], context) := by
  rw [OpenAiStream.parseSseData, trim_trim]
  rcases h with hblank | ⟨hdone, hnone⟩
  · rw [hblank]
    rfl
  · simp only [if_neg hdone, hnone]
    split_ifs <;> rfl

theorem google_unread (context : ReplyContext ν) (data : JsString)
    (h : Unread settings.parseJson data) :
    GoogleStream.parseSseChunk settings context (trim data) = .ok ([], context) := by
  rw [GoogleStream.parseSseChunk, trim_trim]
  rcases h with hblank | ⟨hdone, hnone⟩
  · rw [hblank]
    rfl
  · simp only [if_neg hdone, hnone]
    split_ifs <;> rfl

/-- A body without the blank line after its last event gives the events of the body that has it just
when a stray last line, where there is one, adds nothing to what is heard of the pending event. With
what `JSON.parse` refuses it adds nothing just when it has no text of its own, or when the pending
event is idle both without the line and with it. -/
theorem final_blank_line (model : Option JsString) (body : JsString)
    (reads terminated : List (List UInt8))
    (hreads : (TextDecoder.texts TextDecoder.fresh reads).flatten = body)
    (hterminated : (TextDecoder.texts TextDecoder.fresh terminated).flatten =
      body ++ [0x0A, 0x0A]) :
    ((OpenAiStream.stream settings model reads).1 =
        (OpenAiStream.stream settings model terminated).1 ↔
      ∀ state rest, OpenAiRest settings model body state rest → Stray rest →
        (heard (OpenAiStream.parseSseData settings) (OpenAiStream.failure settings)
            OpenAiStream.final state.context (flushed state.dataLines rest)).1 =
          (heard (OpenAiStream.parseSseData settings) (OpenAiStream.failure settings)
            OpenAiStream.final state.context state.dataLines).1) ∧
    ((GoogleStream.stream settings model reads).1 =
        (GoogleStream.stream settings model terminated).1 ↔
      ∀ state rest, GoogleRest settings model body state rest → Stray rest →
        (heard (GoogleStream.parseSseChunk settings) (GoogleStream.failure settings)
            ReplyContext.final state.context (flushed state.dataLines rest)).1 =
          (heard (GoogleStream.parseSseChunk settings) (GoogleStream.failure settings)
            ReplyContext.final state.context state.dataLines).1) ∧
    ((AnthropicStream.stream settings model reads).1 =
        (AnthropicStream.stream settings model terminated).1 ↔
      ∀ state rest, AnthropicRest settings model body state rest → StrayEvent rest →
        (heardEvent settings (flushedEvent state rest)).1 = (heardEvent settings state).1) ∧
    (Refuses settings.parseJson → ∀ rest, Stray rest →
      (∀ state : SseState (OpenAiStream.Context ν),
        (heard (OpenAiStream.parseSseData settings) (OpenAiStream.failure settings)
            OpenAiStream.final state.context (flushed state.dataLines rest)).1 =
          (heard (OpenAiStream.parseSseData settings) (OpenAiStream.failure settings)
            OpenAiStream.final state.context state.dataLines).1 ↔
        trim (folded rest) = [] ∨
          Idle (OpenAiStream.parseSseData settings) (OpenAiStream.failure settings)
            OpenAiStream.final state.context state.dataLines ∧
          Idle (OpenAiStream.parseSseData settings) (OpenAiStream.failure settings)
            OpenAiStream.final state.context (flushed state.dataLines rest)) ∧
      (∀ state : SseState (ReplyContext ν),
        (heard (GoogleStream.parseSseChunk settings) (GoogleStream.failure settings)
            ReplyContext.final state.context (flushed state.dataLines rest)).1 =
          (heard (GoogleStream.parseSseChunk settings) (GoogleStream.failure settings)
            ReplyContext.final state.context state.dataLines).1 ↔
        trim (folded rest) = [] ∨
          Idle (GoogleStream.parseSseChunk settings) (GoogleStream.failure settings)
            ReplyContext.final state.context state.dataLines ∧
          Idle (GoogleStream.parseSseChunk settings) (GoogleStream.failure settings)
            ReplyContext.final state.context (flushed state.dataLines rest)) ∧
      (startsWith (trim rest) (js "event:") = false → ∀ state : AnthropicStream.State ν,
        (heardEvent settings (flushedEvent state rest)).1 = (heardEvent settings state).1 ↔
        trim (folded rest) = [] ∨
          IdleEvent settings state ∧ IdleEvent settings (flushedEvent state rest))) := by
  refine ⟨?_, ?_, ?_, fun hjson rest hstray => ⟨?_, ?_, ?_⟩⟩
  · refine (readLoop_suffix_events_iff _ _ _ _ _ _ hreads hterminated).trans ?_
    exact forall_congr' fun state => forall_congr' fun rest => forall_congr' fun hrest =>
      sse_rest_iff _ _ _ (fun _ => rfl) state rest hrest.rest
  · refine (readLoop_suffix_events_iff _ _ _ _ _ _ hreads hterminated).trans ?_
    exact forall_congr' fun state => forall_congr' fun rest => forall_congr' fun hrest =>
      sse_rest_iff _ _ _ (fun _ => rfl) state rest hrest.rest
  · refine (readLoop_suffix_events_iff _ _ _ _ _ _ hreads hterminated).trans ?_
    exact forall_congr' fun state => forall_congr' fun rest => forall_congr' fun hrest =>
      anthropic_rest_iff settings state rest hrest.rest
  · exact fun state => sse_alike_iff _ _ _ hjson (openAi_unread settings) state rest hstray
  · exact fun state => sse_alike_iff _ _ _ hjson (google_unread settings) state rest hstray
  · exact fun hname state => anthropic_alike_iff settings hjson state rest hstray hname

end Streams

def chunkText : JsString :=
  js "\x7b\"choices\":[\x7b\"delta\":\x7b\"content\":\"a\"\x7d\x7d]\x7d"

def chunkRuntime : AdapterSettings ℤ where
  parseJson text :=
    if text = chunkText then
      some (.object [(js "choices",
        .array [.object [(js "delta", .object [(js "content", .string (js "a"))])]])])
    else none
  toLowerCase := id
  describe _ := js "TypeError"
  apiKey := []
  defaultModel := js "gpt-4o"
  providerKind := js "openai"

theorem chunkRuntime_refuses : Refuses chunkRuntime.parseJson where
  more document space text hdocument hspace _ _ := by
    have hchunk : document = chunkText := by
      by_contra hne
      exact hdocument (if_neg hne)
    refine if_neg fun h => hspace ?_
    rw [hchunk, List.append_assoc] at h
    exact (List.append_eq_nil_iff.mp (List.append_right_eq_self.mp h)).1
  sentinel text := by
    have hne : js "[DONE]" ++ text ≠ chunkText := by
      intro h
      have hfirst := congrArg List.head? h
      revert hfirst
      change some 0x5B = some 0x7B → False
      decide
    simp only [chunkRuntime, if_neg hne]

theorem final_blank_line_done :
    (OpenAiStream.stream nullRuntime none [octets (js "data: [DONE]")]).1 =
      (OpenAiStream.stream nullRuntime none [octets (js "data: [DONE]"), [0x0A, 0x0A]]).1 ∧
    (heard (OpenAiStream.parseSseData chunkRuntime) (OpenAiStream.failure chunkRuntime)
        OpenAiStream.final ⟨none, .stop, none, false⟩ (flushed [] (js "id: 7"))).1 =
      (heard (OpenAiStream.parseSseData chunkRuntime) (OpenAiStream.failure chunkRuntime)
        OpenAiStream.final ⟨none, .stop, none, false⟩ []).1 := by
  constructor
  · have hparity := final_blank_line nullRuntime none (js "data: [DONE]")
      [octets (js "data: [DONE]")] [octets (js "data: [DONE]"), [0x0A, 0x0A]] (by decide +kernel)
      (by decide +kernel)
    refine hparity.1.mpr ?_
    rintro state rest ⟨lines, events, hlines, -⟩ hstray
    have hsplit : splitLines (js "data: [DONE]") = [] ++ [js "data: [DONE]"] := by decide +kernel
    obtain ⟨-, hrest⟩ := List.append_inj' (hlines.symm.trans hsplit) rfl
    have hdata : startsWith rest (js "data:") = true := by
      rw [List.singleton_inj.mp hrest]
      decide +kernel
    exact absurd (hdata.symm.trans hstray.2.2) (by decide)
  · have hparity := final_blank_line chunkRuntime none [] [] [[0x0A, 0x0A]] rfl (by decide +kernel)
    have hstray : Stray (js "id: 7") := ⟨by decide +kernel, by decide +kernel, by decide +kernel⟩
    exact ((hparity.2.2.2 chunkRuntime_refuses (js "id: 7") hstray).1 ⟨[], _⟩).mpr (.inr ⟨rfl, rfl⟩)

def strayBody : JsString := js "data: " ++ chunkText ++ js "\nid: 7"

/-- The text of the last event is lost when the line after it is taken for more of its data. -/
theorem stray_line_lost :
    (OpenAiStream.stream chunkRuntime none [octets strayBody]).1 ≠
      (OpenAiStream.stream chunkRuntime none [octets strayBody, [0x0A, 0x0A]]).1 := by
  intro h
  have hcount : (OpenAiStream.stream chunkRuntime none [octets strayBody]).1.length ≠
      (OpenAiStream.stream chunkRuntime none [octets strayBody, [0x0A, 0x0A]]).1.length := by
    decide +kernel
  exact hcount (by rw [h])

end Glassbeetle.FinalBlankLine
