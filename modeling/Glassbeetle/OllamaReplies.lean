import Glassbeetle.AdapterReplies
import Glassbeetle.OllamaStream
import Glassbeetle.OllamaLastLine

set_option autoImplicit false

namespace Glassbeetle.OllamaReplies
open JsText JsValue AdapterTypes AdapterStreams AdapterReplies OllamaStream LineStream

variable {ν : Type} [JsNumber ν]

def complete (settings : AdapterSettings ν) (status : ℕ) (model : Option JsString)
    (data : Json ν) : Except Refusal (CompletionResponse ν) := do
  let targetModel := requestedModel settings model
  let error ← language (get (some data) "error")
  match present error with
  | some error => refuse (mapError settings status error targetModel)
  | none =>
    let message := optional (some data) "message"
    let inTok := orZero (optional (some data) "prompt_eval_count")
    let outTok := orZero (optional (some data) "eval_count")
    let totalTok ← language (plus inTok outTok)
    return {
      content := (coalesce (optional message "content") none).getD (.string [])
      reasoningContent :=
        present (orElse (optional message "thinking") (optional message "reasoning_content"))
      finishReason := mapDoneReason (optional (some data) "done_reason")
      usage := ⟨inTok, outTok, totalTok, none⟩
      model := orElse (optional (some data) "model") (some (.string targetModel)) }

structure Speech where
  content : JsString
  thinking : JsString
  reasoningContent : JsString

structure Says (data : Json ν) (speech : Speech) : Prop where
  object : ∃ fields, data = .object fields
  noError : optional (some data) "error" = none
  content : IsText (optional (optional (some data) "message") "content") speech.content
  thinking : IsText (optional (optional (some data) "message") "thinking") speech.thinking
  reasoningContent : IsText (optional (optional (some data) "message") "reasoning_content")
    speech.reasoningContent

structure Report (ν : Type) where
  model : JsString
  doneReason : JsString
  promptEvalCount : ν
  evalCount : ν

structure Reports (data : Json ν) (report : Report ν) : Prop where
  model : optional (some data) "model" = some (.string report.model)
  doneReason : IsText (optional (some data) "done_reason") report.doneReason
  promptEvalCount : optional (some data) "prompt_eval_count" = some (.number report.promptEvalCount)
  evalCount : optional (some data) "eval_count" = some (.number report.evalCount)

structure GoesOn (data : Json ν) (report : Report ν) : Prop where
  model : optional (some data) "model" = none ∨
    optional (some data) "model" = some (.string report.model)
  doneReason : IsText (optional (some data) "done_reason") []
  noPromptEvalCount : optional (some data) "prompt_eval_count" = none
  noEvalCount : optional (some data) "eval_count" = none
  notDone : truthy (optional (some data) "done") = false

structure IsLine (settings : AdapterSettings ν) (text : JsString) (data : Json ν) : Prop where
  line : OneLine text
  filled : trim text ≠ []
  parsed : settings.parseJson (trim text) = some data

structure Delivered (settings : AdapterSettings ν) (data : Json ν) (report : Report ν)
    (speeches : List Speech) (last : Speech) (texts : List JsString) (final : JsString)
    (reads : List (List UInt8)) : Prop where
  whole : Says data ⟨(speeches ++ [last]).flatMap (·.content),
    (speeches ++ [last]).flatMap (·.thinking), (speeches ++ [last]).flatMap (·.reasoningContent)⟩
  reports : Reports data report
  chunks : List.Forall₂ (fun text speech => ∃ chunk, IsLine settings text chunk ∧
    Says chunk speech ∧ GoesOn chunk report) texts speeches
  done : ∃ chunk, IsLine settings final chunk ∧ Says chunk last ∧ Reports chunk report ∧
    optional (some chunk) "done" = some (.bool true)
  body : (TextDecoder.texts TextDecoder.fresh reads).flatten =
    ((texts ++ [final]).map fun text => text ++ js "\n").flatten

def Speech.thoughts (speech : Speech) : JsString :=
  if speech.thinking = [] then speech.reasoningContent else speech.thinking

omit [JsNumber ν] in
theorem coalesce_text (value : Value ν) (text : JsString) (h : IsText value text) :
    (coalesce value none).getD (.string []) = .string text := by
  rcases h with rfl | ⟨rfl | rfl, rfl⟩ <;> rfl

theorem truthy_text (value : Value ν) (text : JsString) (h : IsText value text) :
    truthy value = decide (text ≠ []) := by
  rcases h with rfl | ⟨rfl | rfl, rfl⟩ <;> rfl

theorem present_text (value : Value ν) (text : JsString) (h : IsText value text) :
    present value = if text = [] then none else some (.string text) := by
  rcases h with rfl | ⟨rfl | rfl, rfl⟩
  · cases text <;> rfl
  · rfl
  · rfl

theorem thoughts_says (data : Json ν) (speech : Speech) (h : Says data speech) :
    present (orElse (optional (optional (some data) "message") "thinking")
        (optional (optional (some data) "message") "reasoning_content")) =
      if speech.thoughts = [] then none else some (.string speech.thoughts) := by
  rw [orElse, truthy_text _ _ h.thinking, Speech.thoughts]
  by_cases hempty : speech.thinking = []
  · rw [if_neg (by simpa using hempty), present_text _ _ h.reasoningContent, if_pos hempty]
  · rw [if_pos (by simpa using hempty), present_text _ _ h.thinking, if_neg hempty, if_neg hempty,
      if_neg hempty]

omit [JsNumber ν] in
theorem textOf_optional (text : JsString) :
    textOf (if text = [] then none else some (Json.string (ν := ν) text)) = text := by
  cases text <;> rfl

omit [JsNumber ν] in
theorem get_error (data : Json ν) (speech : Speech) (h : Says data speech) :
    get (some data) "error" = .ok none := by
  obtain ⟨fields, hfields⟩ := h.object
  have hnone := h.noError
  rw [hfields] at hnone ⊢
  exact congrArg Except.ok hnone

section Complete
variable (settings : AdapterSettings ν) (status : ℕ) (model : Option JsString) (data : Json ν)
  (speech : Speech) (report : Report ν)

theorem complete_response (h : Says data speech) (hreport : Reports data report) :
    ∃ response, complete settings status model data = .ok response ∧
      response.content = .string speech.content ∧
      textOf response.reasoningContent = speech.thoughts ∧
      response.finishReason = mapDoneReason (optional (some data) "done_reason") ∧
      response.usage = ⟨.number report.promptEvalCount, .number report.evalCount,
        .number (JsNumber.add report.promptEvalCount report.evalCount), none⟩ ∧
      response.model = orElse (some (.string report.model))
        (some (.string (requestedModel settings model))) := by
  have hplus : plus (orZero (optional (some data) "prompt_eval_count"))
      (orZero (optional (some data) "eval_count")) =
      .ok (.number (JsNumber.add report.promptEvalCount report.evalCount)) := by
    rw [hreport.promptEvalCount, hreport.evalCount]
    rfl
  have hnone : present (none : Value ν) = none := rfl
  rw [complete, get_error data speech h, language_bind, hnone]
  dsimp only
  rw [hplus, language_bind, coalesce_text _ _ h.content, thoughts_says data speech h,
    hreport.promptEvalCount, hreport.evalCount, hreport.model]
  exact ⟨_, rfl, rfl, textOf_optional speech.thoughts, rfl, rfl, rfl⟩

end Complete

section Stream
variable (settings : AdapterSettings ν) (status : ℕ) (targetModel : JsString) (state : State ν)
  (chunk : Json ν) (speech : Speech) (report : Report ν)

theorem tells_deltas (h : Says chunk speech) :
    Tells (thinking (some chunk) ++ text (some chunk)) speech.content speech.thoughts := by
  have hthinking : Tells (thinking (some chunk)) [] speech.thoughts := by
    rw [thinking, thoughts_says chunk speech h]
    split_ifs with hempty
    · rw [hempty]
      exact tells_nil
    · exact tells_thought speech.thoughts
  have htext : Tells (text (some chunk)) speech.content [] := by
    rw [text, present_text _ _ h.content]
    split_ifs with hempty
    · rw [hempty]
      exact tells_nil
    · exact tells_text speech.content
  have htells := tells_append _ _ _ _ _ _ hthinking htext
  rwa [List.nil_append, List.append_nil] at htells

/-- A chunk that the response goes on after changes at most the model that is known. -/
theorem readChunk_goesOn (h : Says chunk speech) (hon : GoesOn chunk report) :
    ∃ told later, readChunk settings status targetModel state chunk = (told, .ok later) ∧
      Tells told speech.content speech.thoughts ∧ later.finishReason = state.finishReason ∧
      (later.model = state.model ∨
        (report.model ≠ [] ∧ later.model = some (.string report.model))) := by
  have hreason : truthy (optional (some chunk) "done_reason") = false :=
    truthy_text _ _ hon.doneReason
  have husage : readUsage (some chunk) = .ok none := by
    rw [readUsage, hon.noPromptEvalCount, hon.noEvalCount]
  have hmodel : (present (optional (some chunk) "model")).or state.model = state.model ∨
      (report.model ≠ [] ∧ (present (optional (some chunk) "model")).or state.model =
        some (.string report.model)) := by
    rcases hon.model with hnone | hsome
    · rw [hnone]
      exact .inl rfl
    · rw [hsome]
      cases report.model with
      | nil => exact .inl rfl
      | cons c rest => exact .inr ⟨List.cons_ne_nil c rest, rfl⟩
  have hnone : present (none : Value ν) = none := rfl
  refine ⟨_, ⟨(present (optional (some chunk) "model")).or state.model, state.finishReason,
    state.currentUsage⟩, ?_, tells_deltas chunk speech h, rfl, hmodel⟩
  rw [readChunk, get_error chunk speech h]
  dsimp only
  rw [hnone]
  dsimp only
  rw [husage, hreason, hon.notDone]
  dsimp only
  rw [if_neg Bool.false_ne_true, if_neg Bool.false_ne_true]
  simp only [Option.toList_none, List.map_nil, List.append_nil, Option.none_or]

theorem readChunk_done (h : Says chunk speech) (hreport : Reports chunk report)
    (hdone : optional (some chunk) "done" = some (.bool true)) :
    ∃ told, readChunk settings status targetModel state chunk =
        (told ++ [.complete (if truthy (optional (some chunk) "done_reason") then
            mapDoneReason (optional (some chunk) "done_reason") else state.finishReason)
          (some ⟨.number report.promptEvalCount, .number report.evalCount,
            .number (JsNumber.add report.promptEvalCount report.evalCount), none⟩)
          ((present (some (.string report.model))).or state.model)], .error .returned) ∧
      Tells told speech.content speech.thoughts := by
  have husage : readUsage (some chunk) = .ok (some ⟨.number report.promptEvalCount,
      .number report.evalCount, .number (JsNumber.add report.promptEvalCount report.evalCount),
      none⟩) := by
    rw [readUsage, hreport.promptEvalCount, hreport.evalCount]
    rfl
  have hnone : present (none : Value ν) = none := rfl
  have htells := tells_append _ _ _ _ _ _ (tells_deltas chunk speech h)
    (tells_usage ⟨.number report.promptEvalCount, .number report.evalCount,
      .number (JsNumber.add report.promptEvalCount report.evalCount), none⟩)
  rw [List.append_nil, List.append_nil] at htells
  refine ⟨_, ?_, htells⟩
  rw [readChunk, get_error chunk speech h]
  dsimp only
  rw [hnone]
  dsimp only
  rw [husage, hdone, hreport.model]
  rfl

end Stream

section Run
variable (settings : AdapterSettings ν) (status : ℕ) (targetModel : JsString) (report : Report ν)

def toldThoughts (speeches : List Speech) : JsString := speeches.flatMap Speech.thoughts

theorem splitLines_line (text more : JsString) (h : OneLine text) :
    splitLines (text ++ js "\n" ++ more) = text :: splitLines more := by
  have hline := splitLines_text text (0x0A :: more) [] (splitLines more) h rfl
  rw [List.append_nil] at hline
  rw [← hline, List.append_assoc]
  rfl

theorem line_chunk (state : State ν) (text : JsString) (chunk : Json ν)
    (h : IsLine settings text chunk) :
    line settings status targetModel state text =
      readChunk settings status targetModel state chunk := by
  rw [line, if_neg h.filled, h.parsed]

def Knows (state : State ν) : Prop :=
  state.finishReason = .stop ∧ (state.model = some (.string targetModel) ∨
    (report.model ≠ [] ∧ state.model = some (.string report.model)))

omit [JsNumber ν] in
theorem knows_goesOn (state later : State ν) (h : Knows targetModel report state)
    (hreason : later.finishReason = state.finishReason)
    (hmodel : later.model = state.model ∨
      (report.model ≠ [] ∧ later.model = some (.string report.model))) :
    Knows targetModel report later := by
  refine ⟨hreason.trans h.1, ?_⟩
  rcases hmodel with hsame | hnamed
  · rw [hsame]
    exact h.2
  · exact .inr hnamed

theorem reason_done (state : State ν) (h : Knows targetModel report state) (reason : Value ν) :
    (if truthy reason then mapDoneReason reason else state.finishReason) = mapDoneReason reason := by
  split_ifs with htruthy
  · rfl
  · rw [h.1, OllamaLastLine.mapDoneReason_falsy reason (by simpa using htruthy)]

theorem model_done (state : State ν) (h : Knows targetModel report state) :
    (present (some (.string report.model))).or state.model =
      orElse (some (.string report.model)) (some (.string targetModel)) := by
  obtain ⟨-, hknown⟩ := h
  cases hmodel : report.model with
  | nil =>
    rcases hknown with htarget | ⟨hne, -⟩
    · exact htarget
    · exact absurd hmodel hne
  | cons c rest => rfl

theorem consume_chunks (state : State ν) (hstate : Knows targetModel report state)
    (speeches : List Speech) (last : Speech) (texts : List JsString) (final : JsString)
    (hchunks : List.Forall₂ (fun text speech => ∃ chunk, IsLine settings text chunk ∧
      Says chunk speech ∧ GoesOn chunk report) texts speeches)
    (chunk : Json ν) (hfinal : IsLine settings final chunk) (hsaid : Says chunk last)
    (hreport : Reports chunk report) (hdone : optional (some chunk) "done" = some (.bool true)) :
    ∃ told, consume (consumer settings status targetModel) state
        (splitLines ((texts ++ [final]).map fun text => text ++ js "\n").flatten) =
      (told ++ [.complete (mapDoneReason (optional (some chunk) "done_reason"))
          (some ⟨.number report.promptEvalCount, .number report.evalCount,
            .number (JsNumber.add report.promptEvalCount report.evalCount), none⟩)
          (orElse (some (.string report.model)) (some (.string targetModel)))], .returned) ∧
      Tells told ((speeches ++ [last]).flatMap (·.content)) (toldThoughts (speeches ++ [last])) := by
  induction hchunks generalizing state with
  | nil =>
    obtain ⟨told, hread, htells⟩ := readChunk_done settings status targetModel state chunk last
      report hsaid hreport hdone
    refine ⟨told, ?_, ?_⟩
    · rw [List.nil_append, List.map_singleton, List.flatten_cons, splitLines_line _ _ hfinal.line,
        consume_cons _ _ _ _ (splitLines_ne_nil _)]
      dsimp only [consumer]
      rw [line_chunk settings status targetModel state final chunk hfinal, hread,
        reason_done targetModel report state hstate, model_done targetModel report state hstate]
    · rw [List.nil_append, toldThoughts, List.flatMap_singleton, List.flatMap_singleton]
      exact htells
  | @cons text speech texts speeches htext hrest ih =>
    obtain ⟨data, hline, hsaid, hon⟩ := htext
    obtain ⟨told, later, hread, htells, hreason, hmodel⟩ := readChunk_goesOn settings status
      targetModel state data speech report hsaid hon
    obtain ⟨more, hmore, htellsMore⟩ := ih later
      (knows_goesOn targetModel report state later hstate hreason hmodel)
    refine ⟨told ++ more, ?_, tells_append _ _ _ _ _ _ htells htellsMore⟩
    rw [List.cons_append, List.map_cons, List.flatten_cons, splitLines_line _ _ hline.line,
      consume_cons _ _ _ _ (splitLines_ne_nil _)]
    dsimp only [consumer] at hmore ⊢
    rw [line_chunk settings status targetModel state text data hline, hread]
    dsimp only
    rw [hmore, List.append_assoc]

end Run

section Parity

theorem thoughts_length (speeches : List Speech) :
    (speeches.flatMap (·.thinking)).length ≤ (toldThoughts speeches).length := by
  induction speeches with
  | nil => exact le_rfl
  | cons speech rest ih =>
    have hfirst : speech.thinking.length ≤ speech.thoughts.length := by
      unfold Speech.thoughts
      split_ifs with hempty
      · rw [hempty]
        exact Nat.zero_le _
      · exact le_rfl
    rw [toldThoughts, List.flatMap_cons, List.flatMap_cons, List.length_append, List.length_append]
    exact Nat.add_le_add hfirst ih

theorem thinking_iff (speeches : List Speech) :
    toldThoughts speeches = speeches.flatMap (·.thinking) ↔
      ∀ speech ∈ speeches, speech.thinking = [] → speech.reasoningContent = [] := by
  induction speeches with
  | nil => exact ⟨fun _ _ hmem => (nomatch hmem), fun _ => rfl⟩
  | cons speech rest ih =>
    rw [List.forall_mem_cons, ← ih, toldThoughts, List.flatMap_cons, List.flatMap_cons,
      Speech.thoughts]
    by_cases hempty : speech.thinking = []
    · rw [if_pos hempty, hempty, List.nil_append]
      constructor
      · intro h
        have hlength := congrArg List.length h
        have hle := thoughts_length rest
        rw [List.length_append] at hlength
        unfold toldThoughts at hle
        have hnone : speech.reasoningContent = [] := List.eq_nil_of_length_eq_zero (by omega)
        rw [hnone] at h
        exact ⟨fun _ => hnone, h⟩
      · rintro ⟨hnone, h⟩
        rw [hnone rfl]
        exact h
    · rw [if_neg hempty, List.append_cancel_left_eq]
      exact ⟨fun h => ⟨fun hnone => absurd hnone hempty, h⟩, fun h => h.2⟩

/-- What the stream tells of the thoughts is what the whole response says just where no chunk
replaces a missing part of its thinking. -/
theorem thoughts_iff (speeches : List Speech) :
    toldThoughts speeches = Speech.thoughts ⟨speeches.flatMap (·.content),
      speeches.flatMap (·.thinking), speeches.flatMap (·.reasoningContent)⟩ ↔
      (∀ speech ∈ speeches, speech.thinking = []) ∨
        ∀ speech ∈ speeches, speech.thinking = [] → speech.reasoningContent = [] := by
  rw [← thinking_iff, ← List.flatMap_eq_nil_iff, Speech.thoughts]
  by_cases hempty : speeches.flatMap (·.thinking) = []
  · rw [if_pos hempty]
    have hsame : toldThoughts speeches = speeches.flatMap (·.reasoningContent) := by
      rw [List.flatMap_eq_nil_iff] at hempty
      exact List.flatMap_congr fun speech hspeech => if_pos (hempty speech hspeech)
    exact ⟨fun _ => .inl hempty, fun _ => hsame⟩
  · rw [if_neg hempty]
    exact ⟨.inr, fun h => h.elim (fun hnone => absurd hnone hempty) id⟩

variable {ν : Type} [JsNumber ν]

theorem mapDoneReason_text (value : Value ν) (reason : JsString) (h : IsText value reason) :
    mapDoneReason value = mapDoneReason (some (Json.string (ν := ν) reason)) := by
  rcases h with rfl | ⟨hnone, rfl⟩
  · rfl
  · have hfalsy : truthy value = false := by rcases hnone with rfl | rfl <;> rfl
    rw [OllamaLastLine.mapDoneReason_falsy value hfalsy,
      OllamaLastLine.mapDoneReason_falsy (some (Json.string (ν := ν) [])) rfl]

theorem ollama_parity (settings : AdapterSettings ν) (status : ℕ) (model : Option JsString)
    (data : Json ν) (report : Report ν) (speeches : List Speech) (last : Speech)
    (texts : List JsString) (final : JsString) (reads : List (List UInt8))
    (h : Delivered settings data report speeches last texts final reads) :
    Same (complete settings status model data) (stream settings status model reads) ↔
      (∀ speech ∈ speeches ++ [last], speech.thinking = []) ∨
        ∀ speech ∈ speeches ++ [last], speech.thinking = [] → speech.reasoningContent = [] := by
  obtain ⟨response, hcomplete, hcontent, hthoughts, hreason, husage, hmodel⟩ :=
    complete_response settings status model data _ report h.whole h.reports
  obtain ⟨chunk, hfinal, hsaid, hreport, hdone⟩ := h.done
  obtain ⟨told, hconsume, htells⟩ := consume_chunks settings status (requestedModel settings model)
    report ⟨some (.string (requestedModel settings model)), .stop, none⟩ ⟨rfl, .inl rfl⟩ speeches
    last texts final h.chunks chunk hfinal hsaid hreport hdone
  have hrun : stream settings status model reads =
      consume (consumer settings status (requestedModel settings model))
        ⟨some (.string (requestedModel settings model)), .stop, none⟩
        (splitLines ((texts ++ [final]).map fun text => text ++ js "\n").flatten) := by
    unfold stream
    rw [readLoop_eq _ _ [] _ rfl, List.nil_append, h.body]
  obtain ⟨htext, hthought, hcompletion⟩ := tells_complete told _ _ _ _ _ htells
  have hfinish : mapDoneReason (optional (some chunk) "done_reason") =
      mapDoneReason (optional (some data) "done_reason") :=
    (mapDoneReason_text _ _ hreport.doneReason).trans (mapDoneReason_text _ _ h.reports.doneReason).symm
  rw [hrun, hconsume, ← thoughts_iff]
  constructor
  · rintro ⟨other, hother, hsame⟩
    obtain rfl := Except.ok.inj (hcomplete.symm.trans hother)
    exact (hthought.symm.trans hsame.reasoningContent.symm).trans hthoughts
  · intro hsame
    refine ⟨response, hcomplete, ?_, ?_, ?_⟩
    · rw [hcontent, htext]
    · rw [hthoughts, hthought, hsame]
    · rw [hreason, hmodel, husage, ← hfinish]
      exact hcompletion

end Parity

end Glassbeetle.OllamaReplies
