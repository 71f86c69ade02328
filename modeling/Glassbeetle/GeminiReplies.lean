import Glassbeetle.AdapterReplies
import Glassbeetle.GoogleStream
import Glassbeetle.SseBodies

set_option autoImplicit false

namespace Glassbeetle.GeminiReplies
open JsText JsValue AdapterTypes AdapterStreams AdapterReplies GoogleStream LineStream
  SseBodies

variable {ν : Type} [JsNumber ν]

def partText (thought : Bool) (part : Json ν) : Except TypeError (List JsString) := do
  let marked ← get (some part) "thought"
  return if truthy marked = thought then (asString (optional (some part) "text")).toList else []

/-- The texts that `extractTextContent` and `extractReasoningContent` collect. -/
def extractTexts (thought : Bool) (parts : Value ν) : Except TypeError (List JsString) :=
  match present parts with
  | none => .ok []
  | some (.array items) => do return (← items.mapM (partText thought)).flatten
  | some _ => .error (.notFunction (js "filter"))

def extractTextContent (parts : Value ν) : Except TypeError JsString := do
  return (← extractTexts false parts).flatten

def extractReasoningContent (parts : Value ν) : Except TypeError (Option JsString) := do
  let thoughts ← extractTexts true parts
  return if thoughts = [] then none else some thoughts.flatten

def safetyReasons : List String := ["SAFETY", "BLOCKLIST", "PROHIBITED_CONTENT", "SPII"]

/-- `usage?.totalTokenCount ?? inTok + outTok` -/
def totalTokens (usage : Value ν) (inTok outTok : Json ν) : Except TypeError (Json ν) :=
  match coalesce (optional usage "totalTokenCount") none with
  | some total => .ok total
  | none => plus inTok outTok

def complete (settings : AdapterSettings ν) (model : Option JsString) (data : Json ν) :
    Except Refusal (CompletionResponse ν) := do
  let feedback ← language (get (some data) "promptFeedback")
  if truthy (optional feedback "blockReason") then
    refuse (createSafetyBlockedError (optional feedback "blockReason")
      (optional feedback "safetyRatings"))
  else
    let candidate := first (optional (some data) "candidates")
    let reason := optional candidate "finishReason"
    if !truthy candidate then
      refuse (.ok (invalidRequestError
        (js "Gemini returned an empty candidate list with no usable content.") (some (js "google"))))
    else if safetyReasons.any (isText reason) then
      refuse (createSafetyBlockedError reason (optional candidate "safetyRatings"))
    else
      let parts := optional (optional candidate "content") "parts"
      let textContent ← language (extractTextContent parts)
      let reasoningContent ← language (extractReasoningContent parts)
      if textContent = [] ∧ !isText reason "STOP" then
        refuse (do
          let shown ← template (orElse reason (some (.string (js "UNKNOWN"))))
          return invalidRequestError
            (js "Gemini returned empty content with finish reason: " ++ shown) (some (js "google")))
      else
        let usage := optional (some data) "usageMetadata"
        let inTok := orZero (optional usage "promptTokenCount")
        let outTok := orZero (optional usage "candidatesTokenCount")
        let totalTok ← language (totalTokens usage inTok outTok)
        return {
          content := .string textContent
          reasoningContent := reasoningContent.map .string
          finishReason := mapFinishReason reason
          usage := ⟨inTok, outTok, totalTok, none⟩
          model := orElse (optional (some data) "modelVersion")
            (some (.string (requestedModel settings model))) }

structure IsPart (part : Json ν) : Prop where
  object : ∃ fields, part = .object fields
  text : optional (some part) "text" = none ∨ ∃ s, optional (some part) "text" = some (.string s)

def IsParts (value : Value ν) : Prop :=
  value = none ∨ ∃ items, value = some (.array items) ∧ ∀ part ∈ items, IsPart part

def IsUsage (value : Value ν) : Prop :=
  value = none ∨ ∃ fields, value = some (.object fields)

/-- A `generateContent` response, in what is read of it. -/
structure IsResponse (data : Json ν) : Prop where
  object : ∃ fields, data = .object fields
  noError : optional (some data) "error" = none
  candidates : optional (some data) "candidates" = none ∨
    ∃ items, optional (some data) "candidates" = some (.array items) ∧
      ∀ candidate ∈ items, (∃ fields, candidate = .object fields) ∧
        IsParts (optional (optional (some candidate) "content") "parts")
  usage : IsUsage (optional (some data) "usageMetadata")
  promptTokenCount : IsCount (optional (optional (some data) "usageMetadata") "promptTokenCount")
  candidatesTokenCount :
    IsCount (optional (optional (some data) "usageMetadata") "candidatesTokenCount")
  totalTokenCount : IsCount (optional (optional (some data) "usageMetadata") "totalTokenCount")

section Document
variable (data : Json ν)

def blockReason : Value ν := optional (optional (some data) "promptFeedback") "blockReason"

def candidate : Value ν := first (optional (some data) "candidates")

def reason : Value ν := optional (candidate data) "finishReason"

def parts : List (Json ν) :=
  (asArray (optional (optional (candidate data) "content") "parts")).getD []

def said (thought : Bool) : JsString :=
  (parts data).flatMap fun part =>
    if truthy (optional (some part) "thought") = thought then textOf (optional (some part) "text")
    else []

def count (key : String) : ν :=
  (asNumber (optional (optional (some data) "usageMetadata") key)).getD (JsNumber.ofNat 0)

def total : ν := JsNumber.add (count data "promptTokenCount") (count data "candidatesTokenCount")

def Blocked : Prop :=
  truthy (blockReason data) = true ∨ safetyReasons.any (isText (reason data)) = true

end Document

omit [JsNumber ν] in
theorem get_object (data : Json ν) (key : String) (h : ∃ fields, data = .object fields) :
    get (some data) key = .ok (optional (some data) key) := by
  obtain ⟨fields, rfl⟩ := h
  rfl

theorem mapM_ok {α β : Type} (f : α → Except TypeError β) (g : α → β) (items : List α)
    (h : ∀ item ∈ items, f item = .ok (g item)) : items.mapM f = .ok (items.map g) := by
  induction items with
  | nil => rfl
  | cons item rest ih =>
    obtain ⟨hitem, hrest⟩ := List.forall_mem_cons.mp h
    rw [List.mapM_cons, hitem, ih hrest]
    rfl

omit [JsNumber ν] in
theorem parts_value (data : Json ν) (h : IsResponse data) :
    IsParts (optional (optional (candidate data) "content") "parts") := by
  unfold candidate
  rcases h.candidates with hnone | ⟨items, hitems, hall⟩
  · rw [hnone]
    exact .inl rfl
  · rw [hitems]
    cases items with
    | nil => exact .inl rfl
    | cons item rest => exact (hall item List.mem_cons_self).2

omit [JsNumber ν] in
theorem parts_typed (data : Json ν) (h : IsResponse data) : ∀ part ∈ parts data, IsPart part := by
  unfold parts
  rcases parts_value data h with hnone | ⟨items, hitems, hall⟩
  · rw [hnone]
    exact fun _ hmem => nomatch hmem
  · rw [hitems]
    exact hall

def partTexts (thought : Bool) (part : Json ν) : List JsString :=
  if truthy (optional (some part) "thought") = thought then
    (asString (optional (some part) "text")).toList
  else []

theorem partTexts_flatten (thought : Bool) (part : Json ν) : (partTexts thought part).flatten =
    if truthy (optional (some part) "thought") = thought then textOf (optional (some part) "text")
    else [] := by
  rw [partTexts]
  split_ifs
  · rw [textOf]
    cases asString (optional (some part) "text") with
    | none => rfl
    | some s => exact List.append_nil s
  · rfl

theorem extractTexts_typed (data : Json ν) (h : IsResponse data) (thought : Bool) :
    ∃ texts, extractTexts thought (optional (optional (candidate data) "content") "parts") =
      .ok texts ∧ texts.flatten = said data thought := by
  unfold said parts
  rcases parts_value data h with hnone | ⟨items, hitems, hall⟩
  · rw [hnone]
    exact ⟨[], rfl, rfl⟩
  · have hparts : ∀ part ∈ items, partText thought part = .ok (partTexts thought part) := by
      intro part hpart
      rw [partText, get_object part "thought" (hall part hpart).object]
      rfl
    refine ⟨(items.map (partTexts thought)).flatten, ?_, ?_⟩
    · rw [hitems]
      change (do return (← items.mapM (partText thought)).flatten) = _
      rw [mapM_ok _ _ items hparts]
      rfl
    · have heach : (List.flatten ∘ partTexts thought) = fun part : Json ν =>
          if truthy (optional (some part) "thought") = thought then
            textOf (optional (some part) "text")
          else [] :=
        funext (partTexts_flatten thought)
      rw [hitems, List.flatten_flatten, List.map_map, heach]
      rfl

theorem count_typed (data : Json ν) (key : String)
    (h : IsCount (optional (optional (some data) "usageMetadata") key)) :
    orZero (optional (optional (some data) "usageMetadata") key) = .number (count data key) := by
  unfold count
  rcases h with hnone | ⟨n, hn⟩
  · rw [hnone]
    rfl
  · rw [hn]
    rfl

/-- A document that `complete` turns down. -/
def Refused (data : Json ν) : Prop :=
  Blocked data ∨ truthy (candidate data) = false ∨
    (said data false = [] ∧ isText (reason data) "STOP" = false)

theorem thoughts_typed (data : Json ν) (h : IsResponse data) :
    ∃ thoughts, extractReasoningContent (optional (optional (candidate data) "content") "parts") =
      .ok thoughts ∧ textOf (thoughts.map (Json.string (ν := ν))) = said data true := by
  obtain ⟨texts, htexts, hsaid⟩ := extractTexts_typed data h true
  refine ⟨if texts = [] then none else some texts.flatten, ?_, ?_⟩
  · rw [extractReasoningContent, htexts]
    rfl
  · rw [← hsaid]
    split_ifs with hempty
    · rw [hempty]
      rfl
    · rfl

section Complete
variable (settings : AdapterSettings ν) (model : Option JsString) (data : Json ν)

/-- What `complete` reports for a candidate that says something or has stopped. -/
structure Answers (response : CompletionResponse ν) : Prop where
  content : response.content = .string (said data false)
  reasoningContent : textOf response.reasoningContent = said data true
  finishReason : response.finishReason = mapFinishReason (reason data)
  usage : response.usage = ⟨.number (count data "promptTokenCount"),
    .number (count data "candidatesTokenCount"),
    (optional (optional (some data) "usageMetadata") "totalTokenCount").getD (.number (total data)),
    none⟩

theorem total_typed (h : IsResponse data) :
    totalTokens (optional (some data) "usageMetadata")
      (orZero (optional (optional (some data) "usageMetadata") "promptTokenCount"))
      (orZero (optional (optional (some data) "usageMetadata") "candidatesTokenCount")) =
    .ok ((optional (optional (some data) "usageMetadata") "totalTokenCount").getD
      (.number (total data))) := by
  rw [count_typed data _ h.promptTokenCount, count_typed data _ h.candidatesTokenCount, totalTokens]
  rcases h.totalTokenCount with hnone | ⟨n, hn⟩
  · rw [hnone]
    rfl
  · rw [hn]
    rfl

theorem complete_cases (h : IsResponse data) :
    (Refused data ∧ ∃ refusal, complete settings model data = .error refusal) ∨
    (¬Refused data ∧ ∃ response, complete settings model data = .ok response ∧
      Answers data response) := by
  obtain ⟨texts, htexts, hsaid⟩ := extractTexts_typed data h false
  obtain ⟨thoughts, hthoughts, hthought⟩ := thoughts_typed data h
  have htext : extractTextContent (optional (optional (candidate data) "content") "parts") =
      .ok (said data false) := by
    rw [extractTextContent, htexts]
    exact congrArg Except.ok hsaid
  have htotal := total_typed data h
  unfold candidate at htext hthoughts
  rw [complete, get_object data "promptFeedback" h.object, language_bind]
  by_cases hprompt : truthy (optional (optional (some data) "promptFeedback") "blockReason") = true
  · rw [if_pos hprompt]
    exact .inl ⟨.inl (.inl hprompt), refuse_error _⟩
  rw [if_neg hprompt]
  dsimp only
  by_cases hcandidate : truthy (first (optional (some data) "candidates")) = false
  · rw [hcandidate]
    exact .inl ⟨.inr (.inl hcandidate), refuse_error _⟩
  rw [if_neg (by simpa using hcandidate)]
  by_cases hsafety : safetyReasons.any
      (isText (optional (first (optional (some data) "candidates")) "finishReason")) = true
  · rw [if_pos hsafety]
    exact .inl ⟨.inl (.inr hsafety), refuse_error _⟩
  rw [if_neg hsafety, htext, hthoughts, language_bind, language_bind]
  by_cases hempty : said data false = [] ∧
      (!isText (optional (first (optional (some data) "candidates")) "finishReason") "STOP") = true
  · rw [if_pos hempty]
    obtain ⟨hsilent, hstop⟩ := hempty
    rw [Bool.not_eq_true'] at hstop
    exact .inl ⟨.inr (.inr ⟨hsilent, hstop⟩), refuse_error _⟩
  · rw [if_neg hempty, htotal, language_bind]
    refine .inr ⟨?_, _, rfl, ⟨rfl, hthought, rfl, ?_⟩⟩
    · rintro (hblocked | hnone | hsilent)
      · exact hblocked.elim hprompt hsafety
      · exact hcandidate hnone
      · exact hempty ⟨hsilent.1, by rw [← Bool.not_eq_false', Bool.not_not]; exact hsilent.2⟩
    · rw [count_typed data _ h.promptTokenCount, count_typed data _ h.candidatesTokenCount]

end Complete

section Stream
variable (settings : AdapterSettings ν) (data : Json ν)

def partEvents (part : Json ν) : List (Event ν) :=
  match present (optional (some part) "text") with
  | some text => if truthy (optional (some part) "thought") then [.thoughtDelta text]
    else [.textDelta text]
  | none => []

def named (context : ReplyContext ν) : ReplyContext ν :=
  { context with model := (present (optional (some data) "modelVersion")).or context.model }

def after (context : ReplyContext ν) : ReplyContext ν :=
  { named data context with
    finishReason := if truthy (reason data) then mapFinishReason (reason data)
      else context.finishReason
    inputTokens := .number (count data "promptTokenCount")
    outputTokens := .number (count data "candidatesTokenCount") }

def usageEvents : List (Event ν) :=
  match present (optional (some data) "usageMetadata") with
  | none => []
  | some _ => [.usage ⟨.number (count data "promptTokenCount"),
      .number (count data "candidatesTokenCount"), .number (total data), none⟩]

structure IsData (text : JsString) : Prop where
  filled : trim text ≠ []
  noSentinel : trim text ≠ js "[DONE]"
  parsed : settings.parseJson (trim text) = some data

theorem parse_document (h : IsResponse data) (context : ReplyContext ν) (text : JsString)
    (htext : IsData settings data text) :
    parseSseChunk settings context text =
      if truthy (blockReason data) then do
        return ([.error (← createSafetyBlockedError (blockReason data)
          (optional (optional (some data) "promptFeedback") "safetyRatings"))], named data context)
      else readCandidate (some data) (named data context) := by
  have hcontext : named data context =
      match present (optional (some data) "modelVersion") with
      | some model => { context with model := some model }
      | none => context := by
    rw [named]
    cases present (optional (some data) "modelVersion") <;> rfl
  rw [parseSseChunk]
  dsimp only
  rw [if_neg htext.filled, if_neg htext.noSentinel, htext.parsed]
  dsimp only
  rw [get_object data "error" h.object, h.noError, hcontext]
  rfl

theorem readPart_typed (part : Json ν) (h : IsPart part) :
    readPart part = .ok (partEvents part) := by
  rw [readPart, get_object part "thought" h.object, partEvents]
  rfl

/-- Either there are no parts to loop over, or they are those of the candidate. -/
theorem present_parts (h : IsResponse data) :
    (present (optional (optional (candidate data) "content") "parts") = none ∧ parts data = []) ∨
    ∃ items, present (optional (optional (candidate data) "content") "parts") =
      some (.array items) ∧ parts data = items ∧ items.mapM readPart = .ok (items.map partEvents) := by
  unfold parts
  rcases parts_value data h with hnone | ⟨items, hitems, hall⟩
  · rw [hnone]
    exact .inl ⟨rfl, rfl⟩
  · rw [hitems]
    exact .inr ⟨items, rfl, rfl,
      mapM_ok _ _ items fun part hpart => readPart_typed part (hall part hpart)⟩

def finishing (context : ReplyContext ν) : ReplyContext ν :=
  if truthy (reason data) then
    { named data context with finishReason := mapFinishReason (reason data) }
  else named data context

theorem finishing_onUsage (h : IsResponse data) (context : ReplyContext ν)
    (hin : context.inputTokens = .number (JsNumber.ofNat 0))
    (hout : context.outputTokens = .number (JsNumber.ofNat 0)) :
    (finishing data context).onUsage
      (optional (optional (some data) "usageMetadata") "promptTokenCount")
      (optional (optional (some data) "usageMetadata") "candidatesTokenCount") =
    after data context := by
  unfold finishing after count
  have hinput : (named data context).inputTokens = .number (JsNumber.ofNat 0) := hin
  have houtput : (named data context).outputTokens = .number (JsNumber.ofNat 0) := hout
  have hreason : (named data context).finishReason = context.finishReason := rfl
  rcases h.promptTokenCount with hp | ⟨m, hp⟩ <;>
    rcases h.candidatesTokenCount with hc | ⟨n, hc⟩ <;>
    split_ifs <;>
    simp only [ReplyContext.onUsage, hp, hc, hinput, houtput, hreason, Option.getD_none,
      Option.getD_some, asNumber]

theorem finishing_none (context : ReplyContext ν)
    (husage : optional (some data) "usageMetadata" = none)
    (hin : context.inputTokens = .number (JsNumber.ofNat 0))
    (hout : context.outputTokens = .number (JsNumber.ofNat 0)) :
    finishing data context = after data context := by
  have hinput : (named data context).inputTokens = .number (JsNumber.ofNat 0) := hin
  have houtput : (named data context).outputTokens = .number (JsNumber.ofNat 0) := hout
  have hcount : ∀ key, count data key = JsNumber.ofNat 0 := by
    intro key
    rw [count, husage]
    rfl
  unfold finishing after
  rw [hcount "promptTokenCount", hcount "candidatesTokenCount"]
  split_ifs
  · simp only [hinput, houtput]
  · calc named data context = ⟨(named data context).model, context.finishReason,
          context.inputTokens, context.outputTokens, (named data context).completed⟩ := rfl
      _ = _ := by rw [hin, hout]

def closing (deltas : List (Event ν)) (context : ReplyContext ν) :
    Except TypeError (List (Event ν) × ReplyContext ν) :=
  match present (optional (some data) "usageMetadata") with
  | none => return (deltas, context)
  | some usage => do
    let context := context.onUsage (optional (some usage) "promptTokenCount")
      (optional (some usage) "candidatesTokenCount")
    return (deltas ++ [.usage (← context.getUsage)], context)

theorem closing_finishing (h : IsResponse data) (deltas : List (Event ν))
    (context : ReplyContext ν) (hin : context.inputTokens = .number (JsNumber.ofNat 0))
    (hout : context.outputTokens = .number (JsNumber.ofNat 0)) :
    closing data deltas (finishing data context) =
      .ok (deltas ++ usageEvents data, after data context) := by
  have hafter := finishing_onUsage data h context hin hout
  unfold closing usageEvents
  rcases h.usage with husage | ⟨fields, husage⟩
  · rw [← finishing_none data context husage hin hout, husage]
    change Except.ok (deltas, _) = Except.ok (deltas ++ [], _)
    rw [List.append_nil]
  · rw [husage] at hafter ⊢
    change (do
      let usage ← ((finishing data context).onUsage _ _).getUsage
      pure (deltas ++ [StreamEvent.usage usage], (finishing data context).onUsage _ _)) = _
    rw [hafter]
    rfl

theorem readCandidate_open (h : IsResponse data)
    (hsafety : safetyReasons.any (isText (reason data)) = false) (context : ReplyContext ν)
    (hin : context.inputTokens = .number (JsNumber.ofNat 0))
    (hout : context.outputTokens = .number (JsNumber.ofNat 0)) :
    readCandidate (some data) (named data context) =
      .ok ((parts data).flatMap partEvents ++ usageEvents data, after data context) := by
  have hparts := present_parts data h
  unfold candidate at hparts
  unfold reason candidate safetyReasons at hsafety
  rw [← closing_finishing data h _ context hin hout, readCandidate]
  dsimp only
  rw [hsafety, if_neg Bool.false_ne_true]
  rcases hparts with ⟨hnone, hparts⟩ | ⟨items, hitems, hparts, heach⟩
  · rw [hnone, hparts]
    rfl
  · rw [hitems, hparts]
    change (do
      let deltas ← do pure (← items.mapM readPart).flatten
      closing data deltas (finishing data context)) = _
    rw [heach]
    rfl

theorem readCandidate_blocked (hsafety : safetyReasons.any (isText (reason data)) = true)
    (context : ReplyContext ν) :
    readCandidate (some data) context = do
      return ([.error (← createSafetyBlockedError (reason data)
        (optional (candidate data) "safetyRatings"))], context) := by
  unfold reason candidate safetyReasons at hsafety
  rw [readCandidate]
  dsimp only
  rw [if_pos hsafety]
  rfl

omit [JsNumber ν] in
theorem isData_trim (text : JsString) (h : IsData settings data text) :
    IsData settings data (trim text) := by
  have htrim := trim_trim text
  exact ⟨by rw [htrim]; exact h.filled, by rw [htrim]; exact h.noSentinel,
    by rw [htrim]; exact h.parsed⟩

theorem stream_document (model : Option JsString) (text : JsString) (reads : List (List UInt8))
    (hline : OneLine text)
    (hreads : (TextDecoder.texts TextDecoder.fresh reads).flatten = frame text) :
    stream settings model reads =
      outcome (parseSseChunk settings) (failure settings) ReplyContext.final
        (.start settings model) [trim text] := by
  have hframes := consume_frames (parseSseChunk settings) (failure settings) ReplyContext.final
    (fun _ => rfl) (.start settings model) [text] fun other hother => by
      rw [List.mem_singleton.mp hother]
      exact hline
  rw [List.map_singleton, List.map_singleton, List.flatten_singleton] at hframes
  unfold stream consumer
  rw [readLoop_eq _ _ [] _ rfl, List.nil_append, hreads, hframes]

theorem outcome_error (context later : ReplyContext ν) (text : JsString)
    (error : Except TypeError ModelAdapterError)
    (h : parseSseChunk settings context text = do return ([.error (← error)], later)) :
    ReportsError (outcome (parseSseChunk settings) (failure settings) ReplyContext.final context
      [text]) := by
  rw [outcome, h]
  cases error with
  | error e => exact .inr ⟨_, rfl⟩
  | ok error => exact .inl ⟨error, List.mem_singleton_self _⟩

def answered (context : ReplyContext ν) : List (Event ν) :=
  (parts data).flatMap partEvents ++ usageEvents data ++
    [.complete (after data context).finishReason
      (some ⟨.number (count data "promptTokenCount"), .number (count data "candidatesTokenCount"),
        .number (total data), none⟩) (after data context).model]

theorem partEvents_quiet (part : Json ν) : ∀ event ∈ partEvents part, event.terminal = false := by
  intro event hevent
  unfold partEvents at hevent
  split at hevent
  · split_ifs at hevent <;> rw [List.mem_singleton.mp hevent] <;> rfl
  · cases hevent

theorem deltas_quiet : ∀ event ∈ (parts data).flatMap partEvents ++ usageEvents data,
    event.terminal = false := by
  intro event hevent
  rcases List.mem_append.mp hevent with hdelta | husage
  · obtain ⟨part, -, hpart⟩ := List.mem_flatMap.mp hdelta
    exact partEvents_quiet part event hpart
  · unfold usageEvents at husage
    split at husage
    · cases husage
    · rw [List.mem_singleton.mp husage]
      rfl

theorem outcome_answer (context : ReplyContext ν) (text : JsString)
    (hcompleted : context.completed = false)
    (h : parseSseChunk settings context text =
      .ok ((parts data).flatMap partEvents ++ usageEvents data, after data context)) :
    outcome (parseSseChunk settings) (failure settings) ReplyContext.final context [text] =
      (answered data context, .returned) := by
  have hafter : (after data context).completed = false := hcompleted
  have hfinal : ReplyContext.final (after data context) = do
      return [← (after data context).complete] := by
    rw [ReplyContext.final, hafter, if_neg Bool.false_ne_true]
  rw [outcome, h]
  dsimp only
  rw [untilTerminal_quiet _ (deltas_quiet data)]
  dsimp only
  rw [outcome, FinalBlankLine.told]
  dsimp only [untilTerminal]
  rw [hfinal]
  rfl

theorem partEvents_said (part : Json ν) (h : IsPart part) :
    streamedText (partEvents part) =
        (if truthy (optional (some part) "thought") = false then
          textOf (optional (some part) "text") else []) ∧
      streamedThoughts (partEvents part) =
        (if truthy (optional (some part) "thought") = true then
          textOf (optional (some part) "text") else []) := by
  unfold partEvents
  rcases h.text with hnone | ⟨s, hs⟩
  · rw [hnone]
    cases truthy (optional (some part) "thought") <;> exact ⟨rfl, rfl⟩
  · rw [hs]
    cases s with
    | nil => cases truthy (optional (some part) "thought") <;> exact ⟨rfl, rfl⟩
    | cons c rest =>
      have hpresent : present (some (Json.string (ν := ν) (c :: rest))) =
          some (.string (c :: rest)) := rfl
      rw [hpresent]
      cases truthy (optional (some part) "thought")
      · exact ⟨List.append_nil _, rfl⟩
      · exact ⟨rfl, List.append_nil _⟩

theorem deltas_said (items : List (Json ν)) (h : ∀ part ∈ items, IsPart part) :
    streamedText (items.flatMap partEvents) =
        (items.flatMap fun part =>
          if truthy (optional (some part) "thought") = false then
            textOf (optional (some part) "text") else []) ∧
      streamedThoughts (items.flatMap partEvents) =
        items.flatMap fun part =>
          if truthy (optional (some part) "thought") = true then
            textOf (optional (some part) "text") else [] := by
  induction items with
  | nil => exact ⟨rfl, rfl⟩
  | cons part rest ih =>
    obtain ⟨hpart, hrest⟩ := List.forall_mem_cons.mp h
    obtain ⟨htext, hthought⟩ := partEvents_said part hpart
    obtain ⟨htexts, hthoughts⟩ := ih hrest
    constructor
    · calc streamedText (partEvents part ++ rest.flatMap partEvents)
        _ = streamedText (partEvents part) ++ streamedText (rest.flatMap partEvents) :=
          streamedText_append _ _
        _ = _ := congrArg₂ _ htext htexts
    · calc streamedThoughts (partEvents part ++ rest.flatMap partEvents)
        _ = streamedThoughts (partEvents part) ++ streamedThoughts (rest.flatMap partEvents) :=
          streamedThoughts_append _ _
        _ = _ := congrArg₂ _ hthought hthoughts

theorem answered_said (h : IsResponse data) (context : ReplyContext ν) :
    streamedText (answered data context) = said data false ∧
      streamedThoughts (answered data context) = said data true := by
  obtain ⟨htexts, hthoughts⟩ := deltas_said (parts data) (parts_typed data h)
  have husage : streamedText (usageEvents data) = [] ∧ streamedThoughts (usageEvents data) = [] := by
    unfold usageEvents
    cases present (optional (some data) "usageMetadata") <;> exact ⟨rfl, rfl⟩
  unfold answered
  constructor
  · rw [streamedText_append, streamedText_append, htexts, husage.1]
    exact (List.append_nil _).trans (List.append_nil _)
  · rw [streamedThoughts_append, streamedThoughts_append, hthoughts, husage.2]
    exact (List.append_nil _).trans (List.append_nil _)

theorem answered_completion (context : ReplyContext ν) :
    completion (answered data context) = some ⟨(after data context).finishReason,
      some ⟨.number (count data "promptTokenCount"), .number (count data "candidatesTokenCount"),
        .number (total data), none⟩, (after data context).model⟩ :=
  completion_append _ _ (deltas_quiet data)

theorem answered_quiet (context : ReplyContext ν) :
    ¬ReportsError (answered data context, Ending.returned) := by
  rintro (⟨error, hmem⟩ | ⟨error, hthrew⟩)
  · rcases List.mem_append.mp hmem with hdelta | hlast
    · exact Bool.false_ne_true (deltas_quiet data _ hdelta).symm
    · cases List.mem_singleton.mp hlast
  · cases hthrew

/-- `stream` on the document: an error for a blocked one, an answer for every other. -/
theorem stream_cases (h : IsResponse data) (model : Option JsString) (text : JsString)
    (reads : List (List UInt8)) (hline : OneLine text) (htext : IsData settings data text)
    (hreads : (TextDecoder.texts TextDecoder.fresh reads).flatten = frame text) :
    (Blocked data ∧ ReportsError (stream settings model reads)) ∨
    (¬Blocked data ∧ stream settings model reads =
      (answered data (.start settings model), .returned)) := by
  have hparse := parse_document settings data h (.start settings model) (trim text)
    (isData_trim settings data text htext)
  rw [stream_document settings model text reads hline hreads]
  by_cases hprompt : truthy (blockReason data) = true
  · rw [if_pos hprompt] at hparse
    exact .inl ⟨.inl hprompt, outcome_error settings _ _ _ _ hparse⟩
  rw [if_neg hprompt] at hparse
  by_cases hsafety : safetyReasons.any (isText (reason data)) = true
  · rw [readCandidate_blocked data hsafety] at hparse
    exact .inl ⟨.inr hsafety, outcome_error settings _ _ _ _ hparse⟩
  · rw [readCandidate_open data h (by simpa using hsafety) _ rfl rfl] at hparse
    refine .inr ⟨?_, outcome_answer settings data _ _ rfl hparse⟩
    exact fun hblocked => hblocked.elim hprompt hsafety

end Stream

structure Agrees (response : CompletionResponse ν) (events : List (Event ν)) : Prop where
  content : response.content = .string (streamedText events)
  reasoningContent : textOf response.reasoningContent = streamedThoughts events
  completed : ∃ model, completion events = some ⟨response.finishReason, some response.usage, model⟩

def Parity (completed : Except Refusal (CompletionResponse ν))
    (streamed : List (Event ν) × Ending) : Prop :=
  (ReportsError streamed ↔ ∃ refusal, completed = .error refusal) ∧
  ∀ response, completed = .ok response → Agrees response streamed.1

def TotalIsSum (data : Json ν) : Prop :=
  optional (optional (some data) "usageMetadata") "totalTokenCount" = none ∨
    optional (optional (some data) "usageMetadata") "totalTokenCount" = some (.number (total data))

theorem mapFinishReason_falsy (reason : Value ν) (h : truthy reason = false) :
    mapFinishReason reason = .other := by
  rw [mapFinishReason, isText_falsy reason "STOP" (by decide) h,
    isText_falsy reason "MAX_TOKENS" (by decide) h]
  simp only [List.any_cons, List.any_nil, isText_falsy reason "SAFETY" (by decide) h,
    isText_falsy reason "RECITATION" (by decide) h, isText_falsy reason "BLOCKLIST" (by decide) h,
    isText_falsy reason "PROHIBITED_CONTENT" (by decide) h, isText_falsy reason "SPII" (by decide) h]
  rfl

theorem totalIsSum_iff (data : Json ν) : TotalIsSum data ↔
    (optional (optional (some data) "usageMetadata") "totalTokenCount").getD (.number (total data)) =
      .number (total data) := by
  unfold TotalIsSum
  cases optional (optional (some data) "usageMetadata") "totalTokenCount" with
  | none => simp
  | some counted => simp

theorem agrees_iff (settings : AdapterSettings ν) (model : Option JsString) (data : Json ν)
    (h : IsResponse data) (response : CompletionResponse ν) (hresponse : Answers data response) :
    Agrees response (answered data (.start settings model)) ↔
      truthy (reason data) = true ∧ TotalIsSum data := by
  obtain ⟨htext, hthought⟩ := answered_said data h (.start settings model)
  have hcompleted := answered_completion data (.start settings model)
  constructor
  · rintro ⟨-, -, other, hother⟩
    rw [hcompleted, hresponse.usage, hresponse.finishReason] at hother
    obtain ⟨hreason, husage, -⟩ := Completion.mk.inj (Option.some.inj hother)
    obtain ⟨-, -, htotal, -⟩ := TokenUsage.mk.inj (Option.some.inj husage)
    refine ⟨?_, (totalIsSum_iff data).mpr htotal.symm⟩
    by_contra hfalsy
    have hfalsy : truthy (reason data) = false := by simpa using hfalsy
    rw [after, hfalsy, mapFinishReason_falsy _ hfalsy] at hreason
    cases hreason
  · rintro ⟨htruthy, htotal⟩
    have hreason : (after data (.start settings model)).finishReason =
        mapFinishReason (reason data) := if_pos htruthy
    refine ⟨?_, ?_, (after data (.start settings model)).model, ?_⟩
    · rw [hresponse.content, htext]
    · rw [hresponse.reasoningContent, hthought]
    · rw [hcompleted, hresponse.usage, hresponse.finishReason, (totalIsSum_iff data).mp htotal,
        hreason]

/-- The stream tells what the reply in one piece tells just for blocked documents, and for those
with a candidate that says something or stops, that gives its reason and whose total adds up. -/
theorem gemini_parity (settings : AdapterSettings ν) (model : Option JsString) (data : Json ν)
    (text : JsString) (reads : List (List UInt8)) (h : IsResponse data) (hline : OneLine text)
    (htext : IsData settings data text)
    (hreads : (TextDecoder.texts TextDecoder.fresh reads).flatten = frame text) :
    Parity (complete settings model data) (stream settings model reads) ↔
      Blocked data ∨
        (¬Refused data ∧ truthy (reason data) = true ∧ TotalIsSum data) := by
  rcases stream_cases settings data h model text reads hline htext hreads with
    ⟨hblocked, hreports⟩ | ⟨hopen, hstream⟩
  · rcases complete_cases settings model data h with ⟨-, refusal, hcomplete⟩ | ⟨hanswered, -⟩
    · rw [hcomplete]
      refine ⟨fun _ => .inl hblocked, fun _ => ⟨⟨fun _ => ⟨refusal, rfl⟩, fun _ => hreports⟩, ?_⟩⟩
      exact fun response hresponse => nomatch hresponse
    · exact absurd (.inl hblocked) hanswered
  · have hquiet := answered_quiet data (.start settings model)
    rw [hstream]
    rcases complete_cases settings model data h with
      ⟨hrefused, refusal, hcomplete⟩ | ⟨hanswered, response, hcomplete, hresponse⟩
    · rw [hcomplete]
      constructor
      · exact fun hparity => absurd (hparity.1.mpr ⟨refusal, rfl⟩) hquiet
      · rintro (hblocked | ⟨hanswered, -⟩)
        · exact absurd hblocked hopen
        · exact absurd hrefused hanswered
    · have hagrees := agrees_iff settings model data h response hresponse
      rw [hcomplete]
      constructor
      · exact fun hparity => .inr ⟨hanswered, hagrees.mp (hparity.2 response rfl)⟩
      · rintro (hblocked | ⟨-, hreason⟩)
        · exact absurd hblocked hopen
        · refine ⟨⟨fun hreports => absurd hreports hquiet, fun ⟨_, hrefusal⟩ => nomatch hrefusal⟩, ?_⟩
          intro other hother
          cases hother
          exact hagrees.mpr hreason

def answer : Json ℤ :=
  .object [(js "candidates", .array [.object [
    (js "content", .object [(js "parts", .array [.object [(js "text", .string (js "a"))]])]),
    (js "finishReason", .string (js "STOP"))]])]

def answerText : JsString :=
  js "\x7b\"candidates\":[\x7b\"content\":\x7b\"parts\":[\x7b\"text\":\"a\"\x7d]\x7d," ++
    js "\"finishReason\":\"STOP\"\x7d]\x7d"

def nothing : Json ℤ := .object [(js "candidates", .array [])]

def nothingText : JsString := js "\x7b\"candidates\":[]\x7d"

def sample : AdapterSettings ℤ where
  parseJson text :=
    if text = answerText then some answer else if text = nothingText then some nothing else none
  toLowerCase := id
  describe _ := js "TypeError"
  apiKey := []
  defaultModel := js "gemini-2.0-flash"
  providerKind := js "google"

theorem gemini_parity_answer :
    Parity (complete sample none answer) (stream sample none [StreamChunking.octets (frame answerText)]) := by
  refine (gemini_parity sample none answer answerText _ ?_ ?_ ?_ ?_).mpr
    (.inr ⟨?_, by decide +kernel, .inl rfl⟩)
  · exact ⟨⟨_, rfl⟩, rfl, .inr ⟨_, rfl, by
      rintro candidate hcandidate
      rw [List.mem_singleton.mp hcandidate]
      refine ⟨⟨_, rfl⟩, .inr ⟨_, rfl, ?_⟩⟩
      rintro part hpart
      rw [List.mem_singleton.mp hpart]
      exact ⟨⟨_, rfl⟩, .inr ⟨_, rfl⟩⟩⟩, .inl rfl, .inl rfl, .inl rfl, .inl rfl⟩
  · change ∀ c ∈ answerText, c ≠ 0x0A ∧ c ≠ 0x0D
    exact each_of_all _ (by decide +kernel)
  · exact ⟨by decide +kernel, by decide +kernel, rfl⟩
  · decide +kernel
  · rintro (hblocked | hnone | ⟨hsilent, -⟩)
    · exact absurd hblocked (by unfold Blocked; decide +kernel)
    · exact absurd hnone (by decide +kernel)
    · exact absurd hsilent (by decide +kernel)

/-- A list without candidates is an error in one piece and the end of a reply in a stream. -/
theorem empty_list_completes : IsResponse nothing ∧
    ¬Parity (complete sample none nothing)
      (stream sample none [StreamChunking.octets (frame nothingText)]) := by
  have hresponse : IsResponse nothing :=
    ⟨⟨_, rfl⟩, rfl, .inr ⟨[], rfl, fun _ hmem => nomatch hmem⟩, .inl rfl, .inl rfl, .inl rfl,
      .inl rfl⟩
  have hline : OneLine nothingText := by
    change ∀ c ∈ nothingText, c ≠ 0x0A ∧ c ≠ 0x0D
    exact each_of_all _ (by decide +kernel)
  refine ⟨hresponse, fun hparity => ?_⟩
  have hcomplete : ∃ refusal, complete sample none nothing = .error refusal := ⟨_, rfl⟩
  rcases stream_cases sample nothing hresponse none nothingText
      [StreamChunking.octets (frame nothingText)] hline
      ⟨by decide +kernel, by decide +kernel, rfl⟩ (by decide +kernel) with
    ⟨hblocked, -⟩ | ⟨-, hstream⟩
  · exact absurd hblocked (by unfold Blocked; decide +kernel)
  · have hreports := hparity.1.mpr hcomplete
    rw [hstream] at hreports
    exact answered_quiet _ _ hreports

end Glassbeetle.GeminiReplies
