import Mathlib.Data.List.DropRight
import Glassbeetle.FinalBlankLine

set_option autoImplicit false

namespace Glassbeetle.SseBodies
open JsText JsValue AdapterTypes LineStream AdapterStreams FinalBlankLine

def frame (text : JsString) : JsString := js "data: " ++ text ++ js "\n\n"

theorem trim_trimStart (s : JsString) : trim (trimStart s) = trim s := by
  rw [trim, trim, trimStart, trimStart, List.dropWhile_idempotent]

theorem splitLines_frame (text more : JsString) (h : OneLine text) :
    splitLines (frame text ++ more) = (js "data: " ++ text) :: [] :: splitLines more := by
  have hdata : OneLine (js "data: " ++ text) :=
    oneLine_append _ _ (each_of_all (js "data: ") (by decide)) h
  have hline := splitLines_text _ (0x0A :: 0x0A :: more) [] ([] :: splitLines more) hdata rfl
  rw [List.append_nil] at hline
  rw [← hline, frame, List.append_assoc]
  rfl

section Sse
variable {ν σ : Type} (parse : Parse ν σ) (failure : TypeError → Ending)
  (final : σ → Except TypeError (List (Event ν)))

def outcome (context : σ) : List JsString → List (Event ν) × Ending
  | [] => told failure final (.ok ([], context))
  | text :: rest =>
    match parse context text with
    | .error e => ([], failure e)
    | .ok (events, context) =>
      match untilTerminal events with
      | (events, true) => (events, .returned)
      | (events, false) => (events ++ (outcome context rest).1, (outcome context rest).2)

theorem sseLine_data (context : σ) (text : JsString) :
    sseLine parse failure ⟨[], context⟩ (js "data: " ++ text) =
      ([], .ok ⟨[trimStart text], context⟩) := by
  have hfilled : trim (js "data: " ++ text) ≠ [] := by
    intro h
    exact absurd ((trim_eq_nil _).mp h 0x64 List.mem_cons_self) (by decide)
  have hcomment : startsWith (js "data: " ++ text) (js ":") = false := rfl
  have hdata : startsWith (js "data: " ++ text) (js "data:") = true := rfl
  rw [sseLine, if_neg hfilled, hcomment, hdata]
  rfl

theorem join_one (text : JsString) : join (js "\n") [trimStart text] = trimStart text := by
  simp [join]

variable (hparse : ∀ context, parse context [] = .ok ([], context))
include hparse

theorem consume_frames (context : σ) (texts : List JsString) (h : ∀ text ∈ texts, OneLine text) :
    consume ⟨sseLine parse failure, sseLast parse failure final⟩ ⟨[], context⟩
        (splitLines (texts.map frame).flatten) =
      outcome parse failure final context (texts.map trim) := by
  induction texts generalizing context with
  | nil =>
    change consume _ _ [[]] = _
    rw [consume_single]
    exact (sseLast_eq parse failure final hparse ⟨[], context⟩ []).trans
      (heard_nothing parse failure final hparse context)
  | cons text rest ih =>
    obtain ⟨htext, hrest⟩ := List.forall_mem_cons.mp h
    have hdata : trim (join (js "\n") [trimStart text]) = trim text := by
      rw [join_one, trim_trimStart]
    rw [List.map_cons, List.map_cons, List.flatten_cons, splitLines_frame text _ htext,
      consume_cons _ _ _ _ (List.cons_ne_nil _ _), outcome]
    dsimp only
    rw [sseLine_data]
    dsimp only
    rw [consume_cons _ _ _ _ (splitLines_ne_nil _), List.nil_append]
    dsimp only
    have hblank : trim ([] : JsString) = [] := rfl
    cases hparsed : parse context (trim text) with
    | error e =>
      have hline : sseLine parse failure ⟨[trimStart text], context⟩ [] =
          ([], .error (failure e)) := by
        rw [sseLine, if_pos hblank, if_neg (List.cons_ne_nil _ _), hdata, hparsed]
      rw [hline]
    | ok told =>
      obtain ⟨events, context'⟩ := told
      cases hevents : untilTerminal events with
      | mk yielded stopped =>
        have hread : ∀ state : SseState σ, state = ⟨[trimStart text], context⟩ →
            sseLine parse failure state [] =
              if stopped then (yielded, .error .returned) else (yielded, .ok ⟨[], context'⟩) := by
          rintro _ rfl
          rw [sseLine, if_pos hblank, if_neg (List.cons_ne_nil _ _), hdata, hparsed]
          dsimp only
          rw [hevents]
          cases stopped <;> rfl
        rw [hread _ rfl]
        dsimp only
        rw [hevents]
        cases stopped with
        | true => rfl
        | false =>
          rw [if_neg Bool.false_ne_true]
          dsimp only
          rw [ih context' hrest]

end Sse

end Glassbeetle.SseBodies
