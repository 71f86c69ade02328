import Glassbeetle.EventTransport

set_option autoImplicit false

namespace Glassbeetle.FrameCuts
open JsText LineStream JsonStringify EventFrames EventTransport
open JsValue (Json JsNumber)

variable {ν : Type} [JsNumber ν]

/-! ### A frame that is cut off -/

theorem splitBlocks_line (s tail : JsString) (hs : OneLine s) (htail : splitBlocks tail = [tail]) :
    splitBlocks (s ++ tail) = [s ++ tail] :=
  splitBlocks_text s tail tail [] hs htail

theorem oneLine_take (s : JsString) (n : ℕ) (hs : OneLine s) : OneLine (s.take n) :=
  fun c hc => hs c (List.mem_of_mem_take hc)

theorem splitBlocks_end (n : ℕ) : splitBlocks ([0x0A].take n) = [[0x0A].take n] := by
  cases n with
  | zero => rfl
  | succ n =>
    rw [List.take_of_length_le (by simp)]
    rfl

/-- The blank line at the end of a frame is the only one, so what lacks a part of it is one block. -/
theorem splitBlocks_torn (first second : JsString) (c : CodeUnit) (n : ℕ) (hfirst : OneLine first)
    (hc : c ≠ 0x0A ∧ c ≠ 0x0D) (hsecond : OneLine second) :
    splitBlocks ((first ++ 0x0A :: c :: second ++ [0x0A]).take n) =
      [(first ++ 0x0A :: c :: second ++ [0x0A]).take n] := by
  rw [List.append_assoc, List.take_append]
  apply splitBlocks_line _ _ (oneLine_take first n hfirst)
  generalize n - first.length = m
  cases m with
  | zero => rfl
  | succ m =>
    cases m with
    | zero => rfl
    | succ m =>
      have htail : splitBlocks ((second ++ [0x0A]).take m) = [(second ++ [0x0A]).take m] := by
        rw [List.take_append]
        exact splitBlocks_line _ _ (oneLine_take second m hsecond) (splitBlocks_end _)
      exact splitBlocks_break c _ _ [] hc (splitBlocks_unit c _ _ [] hc htail)

def wholeFrames : List (SseCompletionEvent ν) → ℕ → List (SseCompletionEvent ν)
  | [], _ => []
  | event :: rest, n =>
    if (formatSseEvent event).length ≤ n then
      event :: wholeFrames rest (n - (formatSseEvent event).length)
    else []

theorem wholeFrames_initial (events : List (SseCompletionEvent ν)) (n : ℕ) :
    wholeFrames events n <+: events := by
  induction events generalizing n with
  | nil => exact List.nil_prefix
  | cons event rest ih =>
    rw [wholeFrames]
    split
    · exact (List.prefix_cons_inj event).mpr (ih _)
    · exact List.nil_prefix

section Events

variable (hnumber : ∀ n : ν, Printed (JsNumber.text n))
include hnumber

theorem format_torn (event : SseCompletionEvent ν) (n : ℕ) (h : n < (formatSseEvent event).length) :
    splitBlocks ((formatSseEvent event).take n) = [(formatSseEvent event).take n] := by
  have hframe : formatSseEvent event = (js "event: " ++ event.type) ++
      0x0A :: 0x64 :: (js "ata: " ++ dataString event.data) ++ [0x0A] ++ [0x0A] := by
    have hfield : js "\ndata: " = 0x0A :: 0x64 :: js "ata: " := rfl
    have hend : js "\n\n" = [0x0A, 0x0A] := rfl
    rw [formatSseEvent, hfield, hend]
    simp only [List.append_assoc, List.cons_append, List.nil_append]
  rw [hframe, List.length_append, List.length_singleton] at h
  rw [hframe, List.take_append_of_le_length (Nat.le_of_lt_succ h)]
  exact splitBlocks_torn _ _ 0x64 n (type_oneLine event) (by decide) (dataLine_oneLine hnumber event)

/-- The blocks of a body that is cut off: those of the whole frames, and one more. -/
theorem splitBlocks_cut (events : List (SseCompletionEvent ν)) (n : ℕ) :
    ∃ torn, splitBlocks ((events.map formatSseEvent).flatten.take n) =
      (wholeFrames events n).map block ++ [torn] := by
  induction events generalizing n with
  | nil => exact ⟨[], by simp [splitBlocks, wholeFrames]⟩
  | cons event rest ih =>
    rw [List.map_cons, List.flatten_cons, wholeFrames]
    by_cases h : (formatSseEvent event).length ≤ n
    · obtain ⟨torn, htorn⟩ := ih (n - (formatSseEvent event).length)
      refine ⟨torn, ?_⟩
      have hcut : (formatSseEvent event ++ (rest.map formatSseEvent).flatten).take n =
          formatSseEvent event ++
            (rest.map formatSseEvent).flatten.take (n - (formatSseEvent event).length) := by
        rw [List.take_append, List.take_of_length_le h]
      rw [hcut, splitBlocks_format hnumber, htorn, if_pos h, List.map_cons, List.cons_append]
    · refine ⟨(formatSseEvent event).take n, ?_⟩
      rw [List.take_append_of_le_length (Nat.le_of_not_le h), if_neg h]
      exact format_torn hnumber event n (Nat.lt_of_not_le h)

theorem parse_block (parseJson : JsString → Option (Json ν)) (event : SseCompletionEvent ν)
    (hparse : ∀ type data, event = .payload type data →
      parseJson (stringify (.object data)) = some (.object data))
    (hsentinel : parseJson (js "[DONE]") = none) :
    parseBlock parseJson (block event) = (event.type, event.data) := by
  rw [parseBlock_block hnumber]
  cases event with
  | payload type data =>
    change (type.name, (parseJson (stringify (.object data))).getD _) = _
    rw [hparse type data rfl]
    rfl
  | done =>
    change (js "done", (parseJson (js "[DONE]")).getD _) = _
    rw [hsentinel]
    rfl

end Events

/-- Whatever part of the body has come through, it reads as the events whose frames came whole, in
order and once each, with at most one more for the frame that was cut off. -/
theorem received_events (hnumber : ∀ n : ν, Printed (JsNumber.text n))
    (parseJson : JsString → Option (Json ν)) (aborted : Bool) (turns : List (Turn ν))
    (hrun : Run aborted turns)
    (hparse : ∀ type data, .payload type data ∈ delivered turns →
      parseJson (stringify (.object data)) = some (.object data))
    (hsentinel : parseJson (js "[DONE]") = none) (n : ℕ) :
    ∃ torn, torn.length ≤ 1 ∧
      parseSseEvents parseJson ((reached aborted turns).response.body.take n) =
        (wholeFrames (delivered turns) n).map (fun event => (event.type, event.data)) ++ torn := by
  have hbody : (reached aborted turns).response.body =
      ((delivered turns).map formatSseEvent).flatten := by
    rw [reached, run_body (start aborted) turns (start_consistent aborted) hrun]
    rfl
  obtain ⟨torn, htorn⟩ := splitBlocks_cut hnumber (delivered turns) n
  have hfilled : ((wholeFrames (delivered turns) n).map block).filter (trim · ≠ []) =
      (wholeFrames (delivered turns) n).map block := by
    rw [List.filter_eq_self]
    intro b hb
    obtain ⟨event, -, rfl⟩ := List.mem_map.mp hb
    exact decide_eq_true (block_filled event)
  have hread : ((wholeFrames (delivered turns) n).map block).map (parseBlock parseJson) =
      (wholeFrames (delivered turns) n).map fun event => (event.type, event.data) := by
    rw [List.map_map]
    apply List.map_congr_left
    intro event hevent
    have hmem := (wholeFrames_initial (delivered turns) n).subset hevent
    exact parse_block hnumber parseJson event (fun type data h => hparse type data (h ▸ hmem)) hsentinel
  refine ⟨([torn].filter (trim · ≠ [])).map (parseBlock parseJson), ?_, ?_⟩
  · rw [List.length_map]
    exact List.length_filter_le _ _
  · calc parseSseEvents parseJson ((reached aborted turns).response.body.take n)
        = (((wholeFrames (delivered turns) n).map block ++ [torn]).filter (trim · ≠ [])).map
            (parseBlock parseJson) := by rw [hbody, parseSseEvents, htorn]
      _ = _ := by rw [List.filter_append, List.map_append, hfilled, hread]

theorem received_events_torn :
    ∃ torn, torn.length ≤ 1 ∧
      parseSseEvents sampleParse ((reached false leavingTurns).response.body.take 20) =
        (wholeFrames (delivered leavingTurns) 20).map (fun event => (event.type, event.data)) ++
          torn := by
  refine received_events intText_printed sampleParse false leavingTurns leavingTurns_run
    (fun type data h => ?_) rfl 20
  cases List.mem_singleton.mp h
  exact if_pos rfl

end Glassbeetle.FrameCuts
