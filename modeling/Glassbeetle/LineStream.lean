import Mathlib.Data.List.Basic
import Glassbeetle.JsText

set_option autoImplicit false

/-!
# Reading a text line by line

A reader hands over the pieces of a text as they arrive. A consumer takes the
complete lines one by one and, at the end, what follows the last line break. What
it makes of the text does not depend on the pieces.
-/
namespace Glassbeetle.LineStream
open JsText

/-- `text.split(/\r?\n/)` -/
def splitLines : JsString → List JsString
  | [] => [[]]
  | 0x0D :: 0x0A :: rest => [] :: splitLines rest
  | 0x0A :: rest => [] :: splitLines rest
  | c :: rest =>
    match splitLines rest with
    | [] => [[c]]
    | line :: lines => (c :: line) :: lines

/-- What a consumer does with each line, until it stops of its own accord, and with the rest. -/
structure Consumer (σ ε τ : Type) where
  line : σ → JsString → List ε × Except τ σ
  last : σ → JsString → List ε × τ

variable {σ ε τ : Type} (consumer : Consumer σ ε τ)

def feed (s : σ) : List JsString → List ε × Except τ σ
  | [] => ([], .ok s)
  | line :: rest =>
    match consumer.line s line with
    | (events, .error stop) => (events, .error stop)
    | (events, .ok s) => (events ++ (feed s rest).1, (feed s rest).2)

/-- The read loop: `buffer` is what the pieces so far have left after their last line break. -/
def readLoop (s : σ) (buffer : JsString) : List JsString → List ε × τ
  | [] => consumer.last s buffer
  | piece :: rest =>
    let lines := splitLines (buffer ++ piece)
    match feed consumer s lines.dropLast with
    | (events, .error stop) => (events, stop)
    | (events, .ok s) =>
      let (later, stop) := readLoop s (lines.getLastD []) rest
      (events ++ later, stop)

def consume (s : σ) (lines : List JsString) : List ε × τ :=
  match feed consumer s lines.dropLast with
  | (events, .error stop) => (events, stop)
  | (events, .ok s) =>
    let (later, stop) := consumer.last s (lines.getLastD [])
    (events ++ later, stop)

theorem splitLines_ne_nil (text : JsString) : splitLines text ≠ [] := by
  fun_cases splitLines text <;> simp

theorem splitLines_cons (c : CodeUnit) (rest line : JsString) (lines : List JsString)
    (h1 : c ≠ 0x0A) (h2 : ∀ tail, c = 0x0D → rest ≠ 0x0A :: tail)
    (h : splitLines rest = line :: lines) : splitLines (c :: rest) = (c :: line) :: lines := by
  rw [splitLines]
  · rw [h]
  · exact fun tail hc hr => h2 tail hc hr
  · exact h1

def OneLine (s : JsString) : Prop := ∀ c ∈ s, c ≠ 0x0A ∧ c ≠ 0x0D

theorem oneLine_append (s t : JsString) (hs : OneLine s) (ht : OneLine t) : OneLine (s ++ t) :=
  fun c hc => (List.mem_append.mp hc).elim (hs c) (ht c)

theorem splitLines_text (s rest line : JsString) (lines : List JsString) (hs : OneLine s)
    (h : splitLines rest = line :: lines) : splitLines (s ++ rest) = (s ++ line) :: lines := by
  induction s with
  | nil => exact h
  | cons c s ih =>
    obtain ⟨hc, hs⟩ := List.forall_mem_cons.mp hs
    exact splitLines_cons c _ _ _ hc.1 (fun _ hcr => absurd hcr hc.2) (ih hs)

theorem splitLines_two (first second : JsString) (hfirst : OneLine first)
    (hsecond : OneLine second) :
    splitLines (first ++ 0x0A :: second) = [first, second] := by
  have hline := splitLines_text second [] [] [] hsecond rfl
  rw [List.append_nil] at hline
  have hbreak : splitLines (0x0A :: second) = [[], second] := by
    rw [splitLines, hline]
  have htext := splitLines_text first (0x0A :: second) [] [second] hfirst hbreak
  rwa [List.append_nil] at htext

theorem splitLines_single (text rest : JsString) (h : splitLines text = [rest]) : text = rest := by
  induction text generalizing rest with
  | nil =>
    obtain rfl := (List.cons.inj h).1
    rfl
  | cons c text ih =>
    cases hs : splitLines text with
    | nil => exact absurd hs (splitLines_ne_nil text)
    | cons line lines =>
      unfold splitLines at h
      split at h
      · cases ‹c :: text = []›
      · exact absurd (List.cons.inj h).2 (splitLines_ne_nil _)
      · exact absurd (List.cons.inj h).2 (splitLines_ne_nil _)
      · rename_i heq
        obtain ⟨rfl, rfl⟩ := List.cons.inj heq
        simp only [hs] at h
        obtain ⟨rfl, rfl⟩ := List.cons.inj h
        rw [ih line hs]

theorem splitLines_decompose (text : JsString) : ∃ lines rest, splitLines text = lines ++ [rest] :=
  ⟨_, _, (List.dropLast_concat_getLast (splitLines_ne_nil text)).symm⟩

theorem splitLines_append (text more : JsString) (lines : List JsString) (rest : JsString)
    (h : splitLines text = lines ++ [rest]) :
    splitLines (text ++ more) = lines ++ splitLines (rest ++ more) := by
  fun_induction splitLines text generalizing lines with
  | case1 =>
    obtain ⟨rfl, rfl⟩ : lines = [] ∧ rest = [] := by
      cases lines <;> simp_all
    rfl
  | case2 text ih =>
    cases lines with
    | nil => exact absurd (List.cons.inj h).2 (splitLines_ne_nil _)
    | cons line lines =>
      obtain ⟨rfl, htail⟩ := List.cons.inj h
      exact congrArg ([] :: ·) (ih lines htail)
  | case3 text ih =>
    cases lines with
    | nil => exact absurd (List.cons.inj h).2 (splitLines_ne_nil _)
    | cons line lines =>
      obtain ⟨rfl, htail⟩ := List.cons.inj h
      exact congrArg ([] :: ·) (ih lines htail)
  | case4 c text h1 h2 hs ih => exact absurd hs (splitLines_ne_nil _)
  | case5 c text h1 h2 line tail hs ih =>
    cases lines with
    | nil =>
      obtain ⟨rfl, rfl⟩ := List.cons.inj h
      rw [splitLines_single text line hs]
      rfl
    | cons head lines =>
      obtain ⟨rfl, rfl⟩ := List.cons.inj h
      have hmore := ih (line :: lines) hs
      refine splitLines_cons c (text ++ more) line _ h2 (fun tail hc ht => ?_) hmore
      cases text with
      | nil => simp [splitLines] at hs
      | cons d text =>
        exact h1 text hc (by rw [(List.cons.inj ht).1])

theorem splitLines_rest (text : JsString) (lines : List JsString) (rest : JsString)
    (h : splitLines text = lines ++ [rest]) : splitLines rest = [rest] := by
  have happ := splitLines_append text [] lines rest h
  rw [List.append_nil, List.append_nil, h] at happ
  exact (List.append_cancel_left happ).symm

theorem splitLines_tail (c : CodeUnit) (rest : JsString)
    (h : splitLines (c :: rest) = [c :: rest]) : c ≠ 0x0A ∧ splitLines rest = [rest] := by
  have hc : c ≠ 0x0A := by
    intro hc
    rw [hc, splitLines] at h
    exact splitLines_ne_nil rest (List.cons.inj h).2
  have hbreak : ∀ tail, c = 0x0D → rest ≠ 0x0A :: tail := by
    intro tail hr ht
    rw [hr, ht, splitLines] at h
    exact splitLines_ne_nil tail (List.cons.inj h).2
  refine ⟨hc, ?_⟩
  cases hs : splitLines rest with
  | nil => exact absurd hs (splitLines_ne_nil rest)
  | cons line lines =>
    rw [splitLines_cons c rest line lines hc hbreak hs] at h
    rw [(List.cons.inj h).2, (List.cons.inj (List.cons.inj h).1).2]

/-- A line break ends the line before it; a carriage return there is part of the break. -/
theorem splitLines_break (rest : JsString) (h : splitLines rest = [rest]) :
    ∃ line, splitLines (rest ++ [0x0A]) = [line, []] ∧
      (rest = line ∨ rest = line ++ [0x0D]) := by
  induction rest with
  | nil => exact ⟨[], rfl, .inl rfl⟩
  | cons c rest ih =>
    obtain ⟨hc, htail⟩ := splitLines_tail c rest h
    obtain ⟨line, hline, hrest⟩ := ih htail
    by_cases hbreak : c = 0x0D ∧ rest = []
    · rw [hbreak.1, hbreak.2]
      exact ⟨[], rfl, .inr rfl⟩
    · have hnext : ∀ tail, c = 0x0D → rest ++ [0x0A] ≠ 0x0A :: tail := by
        intro tail hr ht
        cases rest with
        | nil => exact hbreak ⟨hr, rfl⟩
        | cons d rest => exact (splitLines_tail d rest htail).1 (List.cons.inj ht).1
      refine ⟨c :: line, splitLines_cons c _ line [[]] hc hnext hline, ?_⟩
      rcases hrest with rfl | rfl
      · exact .inl rfl
      · exact .inr rfl

theorem splitLines_blank (rest line : JsString) (h : splitLines (rest ++ [0x0A]) = [line, []]) :
    splitLines (rest ++ [0x0A, 0x0A]) = [line, [], []] := by
  have happ := splitLines_append (rest ++ [0x0A]) [0x0A] [line] [] h
  rw [List.append_assoc] at happ
  exact happ

theorem feed_append (s : σ) (lines more : List JsString) :
    feed consumer s (lines ++ more) =
      match feed consumer s lines with
      | (events, .error stop) => (events, .error stop)
      | (events, .ok s) => (events ++ (feed consumer s more).1, (feed consumer s more).2) := by
  induction lines generalizing s with
  | nil => simp [feed]
  | cons line rest ih =>
    simp only [List.cons_append, feed]
    rcases consumer.line s line with ⟨events, stop | s⟩
    · rfl
    · simp only [ih]
      rcases feed consumer s rest with ⟨later, stop | s⟩
      · rfl
      · simp only [List.append_assoc]

theorem consume_append (s : σ) (lines more : List JsString) (hmore : more ≠ []) :
    consume consumer s (lines ++ more) =
      match feed consumer s lines with
      | (events, .error stop) => (events, stop)
      | (events, .ok s) => (events ++ (consume consumer s more).1, (consume consumer s more).2) := by
  have hlast : (lines ++ more).getLastD [] = more.getLastD [] := by
    rw [List.getLastD_eq_getLast?, List.getLast?_append, List.getLastD_eq_getLast?]
    cases h : more.getLast? with
    | none => exact absurd (List.getLast?_eq_none_iff.mp h) hmore
    | some _ => rfl
  unfold consume
  rw [List.dropLast_append_of_ne_nil hmore, feed_append, hlast]
  rcases feed consumer s lines with ⟨events, stop | s⟩
  · rfl
  · simp only
    rcases feed consumer s more.dropLast with ⟨later, stop | s⟩
    · rfl
    · simp only [List.append_assoc]

theorem consume_single (s : σ) (rest : JsString) :
    consume consumer s [rest] = consumer.last s rest := by
  simp [consume, feed]

theorem consume_cons (s : σ) (line : JsString) (more : List JsString) (hmore : more ≠ []) :
    consume consumer s (line :: more) =
      match consumer.line s line with
      | (events, .error stop) => (events, stop)
      | (events, .ok s) => (events ++ (consume consumer s more).1, (consume consumer s more).2) := by
  have happ := consume_append consumer s [line] more hmore
  rw [List.singleton_append] at happ
  rw [happ, feed]
  rcases consumer.line s line with ⟨events, stop | s⟩
  · rfl
  · simp only [feed, List.append_nil]

def Reaches (s : σ) (text : JsString) (t : σ) (rest : JsString) : Prop :=
  ∃ lines events, splitLines text = lines ++ [rest] ∧ feed consumer s lines = (events, .ok t)

theorem Reaches.rest {s t : σ} {text rest : JsString} (h : Reaches consumer s text t rest) :
    splitLines rest = [rest] := by
  obtain ⟨lines, events, hlines, hfeed⟩ := h
  exact splitLines_rest text lines rest hlines

theorem Reaches.unique {s t u : σ} {text rest other : JsString}
    (h : Reaches consumer s text t rest) (hother : Reaches consumer s text u other) :
    u = t ∧ other = rest := by
  obtain ⟨lines, events, hlines, hfeed⟩ := h
  obtain ⟨lines', events', hlines', hfeed'⟩ := hother
  obtain ⟨rfl, hrest⟩ := List.append_inj' (hlines'.symm.trans hlines) rfl
  obtain ⟨-, ht⟩ := Prod.mk.inj (hfeed'.symm.trans hfeed)
  exact ⟨Except.ok.inj ht, List.singleton_inj.mp hrest⟩

/-- The consumer stops within the complete lines, or what comes after them decides. -/
theorem consume_suffix (s : σ) (text suffix : JsString) :
    (consume consumer s (splitLines text) = consume consumer s (splitLines (text ++ suffix)) ∧
      ∀ t rest, ¬Reaches consumer s text t rest) ∨
    ∃ t rest events, Reaches consumer s text t rest ∧
      consume consumer s (splitLines text) =
        (events ++ (consumer.last t rest).1, (consumer.last t rest).2) ∧
      consume consumer s (splitLines (text ++ suffix)) =
        (events ++ (consume consumer t (splitLines (rest ++ suffix))).1,
          (consume consumer t (splitLines (rest ++ suffix))).2) := by
  obtain ⟨lines, rest, hlines⟩ := splitLines_decompose text
  have hshort := consume_append consumer s lines [rest] (List.cons_ne_nil rest [])
  have hlong := consume_append consumer s lines _ (splitLines_ne_nil (rest ++ suffix))
  rw [← hlines] at hshort
  rw [← splitLines_append text suffix lines rest hlines] at hlong
  cases hfeed : feed consumer s lines with
  | mk events next =>
    rw [hfeed] at hshort hlong
    cases next with
    | error stop =>
      refine .inl ⟨hshort.trans hlong.symm, ?_⟩
      rintro t other ⟨lines', events', hlines', hok⟩
      obtain ⟨rfl, -⟩ := List.append_inj' (hlines'.symm.trans hlines) rfl
      rw [hfeed] at hok
      cases hok
    | ok t =>
      dsimp only at hshort
      rw [consume_single] at hshort
      exact .inr ⟨t, rest, events, ⟨lines, events, hlines, hfeed⟩, hshort, hlong⟩

theorem consume_suffix_iff (s : σ) (text suffix : JsString) :
    consume consumer s (splitLines text) = consume consumer s (splitLines (text ++ suffix)) ↔
      ∀ t rest, Reaches consumer s text t rest →
        consumer.last t rest = consume consumer t (splitLines (rest ++ suffix)) := by
  rcases consume_suffix consumer s text suffix with
    ⟨heq, hnone⟩ | ⟨t, rest, events, hreach, hshort, hlong⟩
  · exact ⟨fun _ t rest h => absurd h (hnone t rest), fun _ => heq⟩
  · rw [hshort, hlong]
    constructor
    · intro heq u other hother
      obtain ⟨rfl, rfl⟩ := hreach.unique consumer hother
      obtain ⟨hevents, hstop⟩ := Prod.mk.inj heq
      exact Prod.ext (List.append_cancel_left hevents) hstop
    · intro h
      rw [h t rest hreach]

/-- More text changes no event just when it changes none that follows from the rest. -/
theorem consume_suffix_events_iff (s : σ) (text suffix : JsString) :
    (consume consumer s (splitLines text)).1 =
        (consume consumer s (splitLines (text ++ suffix))).1 ↔
      ∀ t rest, Reaches consumer s text t rest →
        (consumer.last t rest).1 = (consume consumer t (splitLines (rest ++ suffix))).1 := by
  rcases consume_suffix consumer s text suffix with
    ⟨heq, hnone⟩ | ⟨t, rest, events, hreach, hshort, hlong⟩
  · exact ⟨fun _ t rest h => absurd h (hnone t rest), fun _ => congrArg Prod.fst heq⟩
  · rw [hshort, hlong]
    constructor
    · intro heq u other hother
      obtain ⟨rfl, rfl⟩ := hreach.unique consumer hother
      exact List.append_cancel_left heq
    · intro h
      dsimp only
      rw [h t rest hreach]

/-- What holds of the events and the state before a line holds after it, and what the last step makes
of it holds at the end. -/
theorem consume_rule (M : List ε → σ → Prop) (Done : List ε → τ → Prop)
    (hok : ∀ events s line more t, M events s → consumer.line s line = (more, .ok t) →
      M (events ++ more) t)
    (hstop : ∀ events s line more stop, M events s → consumer.line s line = (more, .error stop) →
      Done (events ++ more) stop)
    (hlast : ∀ events s rest, M events s →
      Done (events ++ (consumer.last s rest).1) (consumer.last s rest).2)
    (events : List ε) (s : σ) (lines : List JsString) (hlines : lines ≠ []) (h : M events s) :
    Done (events ++ (consume consumer s lines).1) (consume consumer s lines).2 := by
  induction lines generalizing events s with
  | nil => exact absurd rfl hlines
  | cons line more ih =>
    by_cases hmore : more = []
    · rw [hmore, consume_single]
      exact hlast events s line h
    · rw [consume_cons consumer s line more hmore]
      cases hline : consumer.line s line with
      | mk produced next =>
        cases next with
        | error stop => exact hstop events s line produced stop h hline
        | ok t =>
          dsimp only
          rw [← List.append_assoc]
          exact ih (events ++ produced) t hmore (hok events s line produced t h hline)

theorem readLoop_eq (s : σ) (buffer : JsString) (pieces : List JsString)
    (hbuffer : splitLines buffer = [buffer]) :
    readLoop consumer s buffer pieces =
      consume consumer s (splitLines (buffer ++ pieces.flatten)) := by
  induction pieces generalizing s buffer with
  | nil =>
    rw [List.flatten_nil, List.append_nil, hbuffer]
    simp [readLoop, consume, feed]
  | cons piece rest ih =>
    obtain ⟨lines, tail, hlines⟩ := splitLines_decompose (buffer ++ piece)
    have hwhole : splitLines (buffer ++ (piece :: rest).flatten) =
        lines ++ splitLines (tail ++ rest.flatten) := by
      rw [List.flatten_cons, ← List.append_assoc]
      exact splitLines_append _ _ lines tail hlines
    rw [hwhole, consume_append consumer s lines _ (splitLines_ne_nil _)]
    simp only [readLoop, hlines, List.dropLast_concat, List.getLastD_concat]
    rcases feed consumer s lines with ⟨events, stop | s⟩
    · rfl
    · simp only [ih s tail (splitLines_rest _ lines tail hlines)]

theorem readLoop_whole (s : σ) (pieces : List JsString) (text : JsString)
    (h : pieces.flatten = text) :
    readLoop consumer s [] pieces = consume consumer s (splitLines text) := by
  rw [readLoop_eq consumer s [] pieces rfl, List.nil_append, h]

theorem readLoop_suffix_iff (s : σ) (pieces terminated : List JsString) (text suffix : JsString)
    (hpieces : pieces.flatten = text) (hterminated : terminated.flatten = text ++ suffix) :
    readLoop consumer s [] pieces = readLoop consumer s [] terminated ↔
      ∀ t rest, Reaches consumer s text t rest →
        consumer.last t rest = consume consumer t (splitLines (rest ++ suffix)) := by
  rw [readLoop_whole consumer s _ _ hpieces, readLoop_whole consumer s _ _ hterminated]
  exact consume_suffix_iff consumer s text suffix

theorem readLoop_suffix_events_iff (s : σ) (pieces terminated : List JsString)
    (text suffix : JsString) (hpieces : pieces.flatten = text)
    (hterminated : terminated.flatten = text ++ suffix) :
    (readLoop consumer s [] pieces).1 = (readLoop consumer s [] terminated).1 ↔
      ∀ t rest, Reaches consumer s text t rest →
        (consumer.last t rest).1 = (consume consumer t (splitLines (rest ++ suffix))).1 := by
  rw [readLoop_whole consumer s _ _ hpieces, readLoop_whole consumer s _ _ hterminated]
  exact consume_suffix_events_iff consumer s text suffix

theorem readLoop_pieces (s : σ) (pieces others : List JsString)
    (h : pieces.flatten = others.flatten) :
    readLoop consumer s [] pieces = readLoop consumer s [] others := by
  rw [readLoop_eq consumer s [] pieces rfl, readLoop_eq consumer s [] others rfl, h]

end Glassbeetle.LineStream
