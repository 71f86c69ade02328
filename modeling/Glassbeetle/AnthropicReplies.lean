import Glassbeetle.AdapterReplies
import Glassbeetle.AnthropicStream
import Glassbeetle.SseBodies
import Glassbeetle.WirePayloads

set_option autoImplicit false

namespace Glassbeetle.AnthropicReplies
open JsText JsValue AdapterTypes AdapterStreams AdapterReplies AnthropicStream LineStream

variable {ν : Type} [JsNumber ν]

def blockTexts (type : String) (block : Json ν) : Except TypeError (List (Json ν)) := do
  let kind ← get (some block) "type"
  return if isText kind type then [(optional (some block) type).getD .null] else []

/-- `blocks.filter((b) => b.type === type).map((b) => b[type])` -/
def ofType (type : String) (blocks : Value ν) : Except TypeError (List (Json ν)) :=
  match blocks with
  | none | some .null => .error (.cannotRead (js "filter"))
  | some (.array items) => do return (← items.mapM (blockTexts type)).flatten
  | some _ => .error (.notFunction (js "filter"))

def extractTextContent (blocks : Value ν) : Except TypeError JsString := do
  return (← itemTexts (← ofType "text" blocks)).flatten

def extractReasoningContent (blocks : Value ν) : Except TypeError (Option JsString) := do
  let thinkingBlocks ← ofType "thinking" blocks
  if thinkingBlocks.isEmpty then return none
  else return some (← itemTexts thinkingBlocks).flatten

def complete (payload : List (JsString × Json ν)) (data : Json ν) :
    Except Refusal (CompletionResponse ν) := do
  let content ← language (get (some data) "content")
  let textContent ← language (extractTextContent content)
  let reasoningContent ← language (extractReasoningContent content)
  let usage := optional (some data) "usage"
  let inputTokens ← language (get usage "input_tokens")
  let outputTokens ← language (get usage "output_tokens")
  let totalTokens ← language (plus (orZero inputTokens) (orZero outputTokens))
  return {
    content := .string textContent
    reasoningContent := reasoningContent.map .string
    finishReason := mapFinishReason (optional (some data) "stop_reason")
    usage := ⟨orZero inputTokens, orZero outputTokens, totalTokens, none⟩
    model := orElse (optional (some data) "model") (payload.lookup (js "model")) }

structure Block where
  thinking : Bool
  said : JsString

def typeName (thinking : Bool) : String := if thinking then "thinking" else "text"

def Block.type (block : Block) : String := typeName block.thinking

structure Message (ν : Type) where
  model : JsString
  content : List Block
  stopReason : JsString
  inputTokens : ν
  outputTokens : ν

def said (thinking : Bool) (blocks : List Block) : JsString :=
  blocks.flatMap fun block => if block.thinking = thinking then block.said else []

structure IsBlock (json : Json ν) (block : Block) : Prop where
  object : ∃ fields, json = .object fields
  type : optional (some json) "type" = some (.string (js block.type))
  said : optional (some json) block.type = some (.string block.said)

structure IsResponse (data : Json ν) (message : Message ν) : Prop where
  object : ∃ fields, data = .object fields
  model : optional (some data) "model" = some (.string message.model)
  content : ∃ items, optional (some data) "content" = some (.array items) ∧
    List.Forall₂ IsBlock items message.content
  stopReason : optional (some data) "stop_reason" = some (.string message.stopReason)
  usage : ∃ fields, optional (some data) "usage" = some (.object fields)
  inputTokens : optional (optional (some data) "usage") "input_tokens" =
    some (.number message.inputTokens)
  outputTokens : optional (optional (some data) "usage") "output_tokens" =
    some (.number message.outputTokens)

inductive Wire (ν : Type) where
  | messageStart (outputTokens : ν)
  | contentBlockStart
  | contentBlockDelta (piece : Block)
  | contentBlockStop
  | messageDelta
  | messageStop
  | ping

def Wire.name : Wire ν → String
  | .messageStart _ => "message_start"
  | .contentBlockStart => "content_block_start"
  | .contentBlockDelta _ => "content_block_delta"
  | .contentBlockStop => "content_block_stop"
  | .messageDelta => "message_delta"
  | .messageStop => "message_stop"
  | .ping => "ping"

def Wire.isPing : Wire ν → Bool
  | .ping => true
  | _ => false

def IsPayload (message : Message ν) (data : Json ν) : Wire ν → Prop
  | .messageStart outputTokens =>
    optional (optional (some data) "message") "model" = some (.string message.model) ∧
    (∃ fields, optional (optional (some data) "message") "usage" = some (.object fields)) ∧
    optional (optional (optional (some data) "message") "usage") "input_tokens" =
      some (.number message.inputTokens) ∧
    optional (optional (optional (some data) "message") "usage") "output_tokens" =
      some (.number outputTokens)
  | .contentBlockDelta piece =>
    optional (optional (some data) "delta") "type" =
      some (.string (js piece.type ++ js "_delta")) ∧
    optional (optional (some data) "delta") piece.type = some (.string piece.said)
  | .messageDelta =>
    optional (optional (some data) "delta") "stop_reason" = some (.string message.stopReason) ∧
    optional (optional (some data) "usage") "output_tokens" = some (.number message.outputTokens)
  | _ => True

structure IsData (settings : AdapterSettings ν) (message : Message ν) (wire : Wire ν)
    (text : JsString) : Prop where
  line : OneLine text
  filled : trim text ≠ []
  noSentinel : trim text ≠ js "[DONE]"
  parsed : ∃ fields, settings.parseJson (trim text) = some (.object fields) ∧
    IsPayload message (.object fields) wire

def frame (wire : Wire ν) (text : JsString) : JsString :=
  js "event: " ++ js wire.name ++ js "\n" ++ SseBodies.frame text

def encodeBlock (block : Block) (pieces : List JsString) : List (Wire ν) :=
  .contentBlockStart :: pieces.map (fun piece => .contentBlockDelta ⟨block.thinking, piece⟩) ++
    [.contentBlockStop]

structure Encodes (message : Message ν) (events : List (Wire ν)) : Prop where
  encoded : ∃ first pieces,
    List.Forall₂ (fun block pieces => pieces.flatten = Block.said block) message.content pieces ∧
    events.filter (fun wire => !wire.isPing) =
      .messageStart first :: (List.zipWith encodeBlock message.content pieces).flatten ++
        [.messageDelta, .messageStop]

section Complete
variable (payload : List (JsString × Json ν)) (data : Json ν) (message : Message ν)

omit [JsNumber ν] in
theorem blockTexts_block (thinking : Bool) (json : Json ν) (block : Block)
    (h : IsBlock json block) :
    blockTexts (typeName thinking) json =
      .ok (if block.thinking = thinking then [.string block.said] else []) := by
  obtain ⟨fields, hfields⟩ := h.object
  have hget : get (some json) "type" = .ok (some (.string (js block.type))) := by
    rw [← h.type, hfields]
    rfl
  have hkind : isText (some (Json.string (ν := ν) (js block.type))) (typeName thinking) =
      decide (block.thinking = thinking) := by
    have hnames : ∀ a b : Bool, decide (js (typeName b) = js (typeName a)) = decide (a = b) := by
      decide
    exact hnames block.thinking thinking
  rw [blockTexts, hget]
  change Except.ok (if isText _ _ = true then _ else _) = _
  rw [hkind]
  by_cases hsame : block.thinking = thinking
  · rw [if_pos (decide_eq_true hsame), if_pos hsame, ← hsame]
    exact congrArg (fun value : Value ν => Except.ok [value.getD .null]) h.said
  · rw [if_neg (by simpa using hsame), if_neg hsame]

omit [JsNumber ν] in
theorem ofType_blocks (thinking : Bool) (items : List (Json ν)) (blocks : List Block)
    (h : List.Forall₂ IsBlock items blocks) :
    ofType (typeName thinking) (some (.array items)) =
      .ok ((blocks.filter (·.thinking = thinking)).map fun block => .string block.said) := by
  rw [ofType]
  have hmap : items.mapM (blockTexts (typeName thinking)) = .ok (blocks.map fun block =>
      if block.thinking = thinking then [.string block.said] else []) := by
    induction h with
    | nil => rfl
    | cons hblock hrest ih =>
      rw [List.mapM_cons, blockTexts_block thinking _ _ hblock, ih]
      rfl
  rw [hmap]
  change Except.ok _ = Except.ok _
  congr 1
  clear hmap h
  induction blocks with
  | nil => rfl
  | cons block rest ih =>
    rw [List.map_cons, List.flatten_cons, ih, List.filter_cons]
    by_cases hkind : block.thinking = thinking
    · rw [if_pos hkind, if_pos (decide_eq_true hkind)]
      rfl
    · rw [if_neg hkind, if_neg (by simpa using hkind)]
      rfl

theorem itemTexts_strings (texts : List JsString) :
    itemTexts (texts.map (Json.string (ν := ν))) = .ok texts := by
  induction texts with
  | nil => rfl
  | cons text rest ih =>
    rw [List.map_cons, itemTexts, ih]
    · rfl
    · exact fun h => nomatch h

theorem said_filter (thinking : Bool) (blocks : List Block) :
    ((blocks.filter (·.thinking = thinking)).map Block.said).flatten = said thinking blocks := by
  rw [said]
  induction blocks with
  | nil => rfl
  | cons block rest ih =>
    rw [List.filter_cons, List.flatMap_cons, ← ih]
    by_cases hkind : block.thinking = thinking
    · rw [if_pos (decide_eq_true hkind), if_pos hkind]
      rfl
    · rw [if_neg (by simpa using hkind), if_neg hkind]
      rfl

theorem extract_texts (thinking : Bool) (items : List (Json ν)) (blocks : List Block)
    (h : List.Forall₂ IsBlock items blocks) :
    ∃ texts : List JsString, ofType (typeName thinking) (some (.array items)) =
        .ok (texts.map (Json.string (ν := ν))) ∧
      itemTexts (texts.map (Json.string (ν := ν))) = .ok texts ∧
      texts.flatten = said thinking blocks := by
  refine ⟨(blocks.filter (·.thinking = thinking)).map Block.said, ?_, itemTexts_strings _,
    said_filter thinking blocks⟩
  rw [ofType_blocks thinking items blocks h, List.map_map]
  rfl

theorem complete_message (h : IsResponse data message) :
    ∃ response, complete payload data = .ok response ∧
      response.content = .string (said false message.content) ∧
      textOf response.reasoningContent = said true message.content ∧
      response.finishReason =
        mapFinishReason (some (Json.string (ν := ν) message.stopReason)) ∧
      response.usage = ⟨.number message.inputTokens, .number message.outputTokens,
        .number (JsNumber.add message.inputTokens message.outputTokens), none⟩ ∧
      response.model = orElse (some (.string message.model)) (payload.lookup (js "model")) := by
  obtain ⟨fields, hfields⟩ := h.object
  obtain ⟨items, hitems, hblocks⟩ := h.content
  obtain ⟨usage, husage⟩ := h.usage
  obtain ⟨texts, htexts, htextsItems, htextsSaid⟩ := extract_texts false items _ hblocks
  obtain ⟨thoughts, hthoughts, hthoughtsItems, hthoughtsSaid⟩ := extract_texts true items _ hblocks
  have hcontent : get (some data) "content" = .ok (some (.array items)) := by
    rw [← hitems, hfields]
    rfl
  have hget : ∀ key, get (optional (some data) "usage") key =
      .ok (optional (optional (some data) "usage") key) := by
    intro key
    rw [husage]
    rfl
  have htext : extractTextContent (some (.array items)) = .ok texts.flatten := by
    have htype : ofType "text" (some (.array items)) = .ok (texts.map (Json.string (ν := ν))) := htexts
    rw [extractTextContent, htype]
    change (do return (← itemTexts (texts.map Json.string)).flatten) = _
    rw [htextsItems]
    rfl
  have hthinking : ∃ thought, extractReasoningContent (some (.array items)) = .ok thought ∧
      textOf (thought.map (Json.string (ν := ν))) = thoughts.flatten := by
    have htype : ofType "thinking" (some (.array items)) =
        .ok (thoughts.map (Json.string (ν := ν))) := hthoughts
    rw [extractReasoningContent, htype]
    cases thoughts with
    | nil => exact ⟨none, rfl, rfl⟩
    | cons thought rest =>
      refine ⟨some (thought :: rest).flatten, ?_, rfl⟩
      change (do return some (← itemTexts ((thought :: rest).map Json.string)).flatten) = _
      rw [hthoughtsItems]
      rfl
  obtain ⟨thought, hthought, hthoughtText⟩ := hthinking
  rw [complete, hcontent, language_bind, htext, language_bind, hthought, language_bind]
  dsimp only
  rw [hget, hget, language_bind, language_bind, h.inputTokens, h.outputTokens, h.stopReason,
    h.model]
  exact ⟨_, rfl, by rw [htextsSaid], hthoughtText.trans hthoughtsSaid, rfl, rfl, rfl⟩

end Complete

section Body
variable (settings : AdapterSettings ν)

def failure : TypeError → Ending := failed settings "Anthropic" (js "anthropic")

def outcome (context : ReplyContext ν) : List (Wire ν × JsString) → List (Event ν) × Ending
  | [] =>
    match context.final with
    | .error e => ([], failure settings e)
    | .ok final => (final, .returned)
  | (wire, text) :: rest =>
    match parseSseEvent settings (js wire.name) context text with
    | .error e => ([], failure settings e)
    | .ok (events, context) => (events ++ (outcome context rest).1, (outcome context rest).2)

def names : List String :=
  ["message_start", "content_block_start", "content_block_delta", "content_block_stop",
    "message_delta", "message_stop", "ping"]

omit [JsNumber ν] in
theorem name_mem (wire : Wire ν) : wire.name ∈ names := by
  cases wire <;> simp [names, Wire.name]

theorem name_line : ∀ name ∈ names, (∀ c ∈ js "event: " ++ js name, c ≠ 0x0A ∧ c ≠ 0x0D) ∧
    trim (js "event: " ++ js name) ≠ [] ∧
    trim ((js "event: " ++ js name).drop 6) = js name ∧ js name ≠ [] := by
  have hunits : ∀ name ∈ names,
      (js "event: " ++ js name).all (fun c => decide (c ≠ 0x0A ∧ c ≠ 0x0D)) = true := by
    decide
  have hwhole : ∀ name ∈ names, trim (js "event: " ++ js name) ≠ [] ∧
      trim ((js "event: " ++ js name).drop 6) = js name ∧ js name ≠ [] := by
    decide
  exact fun name hname => ⟨each_of_all _ (hunits name hname), hwhole name hname⟩

omit [JsNumber ν] in
theorem splitLines_frame (wire : Wire ν) (text more : JsString) (h : OneLine text) :
    splitLines (frame wire text ++ more) =
      (js "event: " ++ js wire.name) :: (js "data: " ++ text) :: [] :: splitLines more := by
  have hname : OneLine (js "event: " ++ js wire.name) := (name_line _ (name_mem wire)).1
  have hrest := SseBodies.splitLines_frame text more h
  have hline := splitLines_text _ (0x0A :: (SseBodies.frame text ++ more)) [] _ hname
    (by rw [splitLines, hrest])
  rw [List.append_nil] at hline
  rw [← hline, frame, List.append_assoc, List.append_assoc]
  rfl

theorem line_event (state : State ν) (wire : Wire ν) :
    line settings state (js "event: " ++ js wire.name) =
      ([], .ok { state with currentEvent := js wire.name }) := by
  obtain ⟨-, hfilled, hname, -⟩ := name_line _ (name_mem wire)
  have hcomment : startsWith (js "event: " ++ js wire.name) (js ":") = false := rfl
  have hevent : startsWith (js "event: " ++ js wire.name) (js "event:") = true := rfl
  rw [line, if_neg hfilled, hcomment, hevent, hname]
  rfl

theorem line_data (state : State ν) (text : JsString) :
    line settings state (js "data: " ++ text) =
      ([], .ok { state with dataLines := state.dataLines ++ [trimStart text] }) := by
  have hfilled : trim (js "data: " ++ text) ≠ [] := by
    intro h
    exact absurd ((trim_eq_nil _).mp h 0x64 List.mem_cons_self) (by decide)
  have hcomment : startsWith (js "data: " ++ text) (js ":") = false := rfl
  have hevent : startsWith (js "data: " ++ text) (js "event:") = false := rfl
  have hdata : startsWith (js "data: " ++ text) (js "data:") = true := rfl
  rw [line, if_neg hfilled, hcomment, hevent, hdata]
  rfl

theorem consume_frames (context : ReplyContext ν) (events : List (Wire ν × JsString))
    (h : ∀ event ∈ events, OneLine event.2) :
    consume (consumer settings) ⟨[], [], context⟩
        (splitLines (events.map fun event => frame event.1 event.2).flatten) =
      outcome settings context events := by
  induction events generalizing context with
  | nil =>
    change consume _ _ [[]] = _
    rw [consume_single]
    rfl
  | cons event rest ih =>
    obtain ⟨wire, text⟩ := event
    obtain ⟨htext, hrest⟩ := List.forall_mem_cons.mp h
    obtain ⟨-, -, -, hname⟩ := name_line _ (name_mem wire)
    have hblank : trim ([] : JsString) = [] := rfl
    have hdata : parseSseEvent settings (js wire.name) context (join (js "\n") [trimStart text]) =
        parseSseEvent settings (js wire.name) context text := by
      refine FinalBlankLine.parseSseEvent_trim settings _ _ _ _ ?_
      rw [SseBodies.join_one, SseBodies.trim_trimStart]
    rw [List.map_cons, List.flatten_cons, splitLines_frame wire text _ htext,
      consume_cons _ _ _ _ (List.cons_ne_nil _ _), outcome]
    dsimp only [consumer]
    rw [line_event]
    dsimp only
    rw [consume_cons _ _ _ _ (List.cons_ne_nil _ _)]
    dsimp only
    rw [line_data]
    dsimp only
    rw [consume_cons _ _ _ _ (splitLines_ne_nil _)]
    dsimp only
    rw [line, if_pos hblank, if_neg (fun hnone => hname hnone.2)]
    dsimp only [List.nil_append]
    rw [hdata]
    cases parseSseEvent settings (js wire.name) context text with
    | error e => rfl
    | ok told =>
      have hnext := ih told.2 hrest
      dsimp only [consumer] at hnext
      dsimp only
      rw [hnext]

end Body

section Events
variable (settings : AdapterSettings ν) (message : Message ν) (context : ReplyContext ν)

/-- The types that `parseSseEvent` knows. -/
def types : List String :=
  ["message_start", "content_block_delta", "message_delta", "message_stop", "error"]

omit [JsNumber ν] in
theorem isText_name (name type : String) (hname : name ∈ names) (htype : type ∈ types) :
    isText (some (Json.string (ν := ν) (js name))) type = decide (type = name) := by
  have hdecide : ∀ name ∈ names, ∀ type ∈ types, decide (js type = js name) = decide (type = name) := by
    decide
  exact hdecide name hname type htype

def react (parsed : Value ν) : Wire ν → Except TypeError (List (Event ν) × ReplyContext ν)
  | .messageStart _ => messageStart parsed context
  | .contentBlockDelta _ => .ok (contentBlockDelta parsed, context)
  | .messageDelta => messageDelta parsed context
  | .messageStop => do
    return ([← { context with completed := true }.complete], { context with completed := true })
  | _ => .ok ([], context)

theorem parse_react (wire : Wire ν) (text : JsString) (h : IsData settings message wire text) :
    ∃ fields, IsPayload message (.object fields) wire ∧
      parseSseEvent settings (js wire.name) context text =
        react context (some (.object fields)) wire := by
  obtain ⟨fields, hparsed, hpayload⟩ := h.parsed
  have hname := name_mem wire
  refine ⟨fields, hpayload, ?_⟩
  rw [parseSseEvent]
  dsimp only
  rw [if_neg h.noSentinel, if_neg h.filled, hparsed]
  dsimp only
  rw [if_neg (name_line _ hname).2.2.2, ok_bind]
  rw [isText_name wire.name "message_start" hname (by decide),
    isText_name wire.name "content_block_delta" hname (by decide),
    isText_name wire.name "message_delta" hname (by decide),
    isText_name wire.name "message_stop" hname (by decide),
    isText_name wire.name "error" hname (by decide)]
  cases wire <;> rfl

def started (first : ν) : ReplyContext ν :=
  { context with
    model := (present (some (.string message.model))).or context.model
    inputTokens := .number message.inputTokens
    outputTokens := .number first }

theorem parse_start (first : ν) (text : JsString)
    (h : IsData settings message (.messageStart first) text) :
    ∃ usage, parseSseEvent settings (js (Wire.messageStart first).name) context text =
      .ok ([.usage usage], started message context first) := by
  obtain ⟨fields, ⟨hmodel, ⟨usage, husage⟩, hinput, houtput⟩, hparse⟩ :=
    parse_react settings message context _ text h
  have htruthy : truthy (optional (optional (some (.object fields)) "message") "usage") = true := by
    rw [husage]
    rfl
  rw [hparse, react, messageStart]
  dsimp only
  rw [if_pos htruthy, hinput, houtput, hmodel]
  unfold started
  cases present (some (Json.string (ν := ν) message.model)) with
  | none => exact ⟨_, rfl⟩
  | some model => exact ⟨_, rfl⟩

theorem parse_piece (piece : Block) (text : JsString)
    (h : IsData settings message (.contentBlockDelta piece) text) :
    ∃ events, parseSseEvent settings (js (Wire.contentBlockDelta (ν := ν) piece).name) context text =
      .ok (events, context) ∧
      Tells events (if piece.thinking = false then piece.said else [])
        (if piece.thinking = true then piece.said else []) := by
  obtain ⟨fields, ⟨htype, hsaid⟩, hparse⟩ := parse_react settings message context _ text h
  refine ⟨_, hparse, ?_⟩
  obtain ⟨thinking, said⟩ := piece
  change optional (optional (some (.object fields)) "delta") (typeName thinking) =
    some (.string said) at hsaid
  have hkind : ∀ kind : Bool, isText (optional (optional (some (.object fields)) "delta") "type")
      (if kind then "thinking_delta" else "text_delta") = decide (thinking = kind) := by
    have hnames : ∀ a b : Bool, decide (js (if b then "thinking_delta" else "text_delta") =
        js (typeName a) ++ js "_delta") = decide (a = b) := by
      decide
    intro kind
    rw [htype]
    exact hnames thinking kind
  have htext : isText (optional (optional (some (.object fields)) "delta") "type") "text_delta" =
      decide (thinking = false) := hkind false
  have hthought : isText (optional (optional (some (.object fields)) "delta") "type")
      "thinking_delta" = decide (thinking = true) := hkind true
  rw [contentBlockDelta]
  dsimp only
  rw [htext, hthought]
  cases thinking with
  | false =>
    have hdelta : optional (optional (some (.object fields)) "delta") "text" =
      some (.string said) := hsaid
    rw [hdelta]
    exact tells_text said
  | true =>
    have hdelta : optional (optional (some (.object fields)) "delta") "thinking" =
      some (.string said) := hsaid
    rw [hdelta]
    exact tells_thought said

def ended : ReplyContext ν :=
  { context with
    finishReason := if truthy (some (Json.string (ν := ν) message.stopReason)) then
        mapFinishReason (some (Json.string (ν := ν) message.stopReason))
      else context.finishReason
    outputTokens := .number message.outputTokens }

theorem parse_delta (text : JsString) (h : IsData settings message .messageDelta text)
    (hinput : context.inputTokens = .number message.inputTokens) :
    ∃ usage, parseSseEvent settings (js (Wire.messageDelta (ν := ν)).name) context text =
      .ok ([.usage usage], ended message context) := by
  obtain ⟨fields, ⟨hreason, houtput⟩, hparse⟩ := parse_react settings message context _ text h
  rw [hparse, react, messageDelta]
  dsimp only
  rw [hreason, houtput]
  unfold ended
  obtain ⟨model, finishReason, inputTokens, outputTokens, completed⟩ := context
  obtain rfl : inputTokens = _ := hinput
  split_ifs
  · exact ⟨_, rfl⟩
  · exact ⟨_, rfl⟩

theorem parse_stop (text : JsString) (h : IsData settings message .messageStop text)
    (hinput : context.inputTokens = .number message.inputTokens)
    (houtput : context.outputTokens = .number message.outputTokens) :
    parseSseEvent settings (js (Wire.messageStop (ν := ν)).name) context text =
      .ok ([.complete context.finishReason (some ⟨.number message.inputTokens,
          .number message.outputTokens,
          .number (JsNumber.add message.inputTokens message.outputTokens), none⟩) context.model],
        { context with completed := true }) := by
  obtain ⟨fields, -, hparse⟩ := parse_react settings message context _ text h
  obtain ⟨model, finishReason, inputTokens, outputTokens, completed⟩ := context
  obtain rfl : inputTokens = _ := hinput
  obtain rfl : outputTokens = _ := houtput
  rw [hparse]
  rfl

end Events

section Run
variable (settings : AdapterSettings ν) (message : Message ν)

def wireSaid (thinking : Bool) : Wire ν → JsString
  | .contentBlockDelta piece => if piece.thinking = thinking then piece.said else []
  | _ => []

def Wire.inBlock : Wire ν → Bool
  | .messageStart _ | .messageDelta | .messageStop => false
  | _ => true

def AllData (events : List (Wire ν × JsString)) : Prop :=
  ∀ event ∈ events, IsData settings message event.1 event.2

theorem parse_inBlock (context : ReplyContext ν) (wire : Wire ν) (text : JsString)
    (h : IsData settings message wire text) (hwire : wire.inBlock = true) :
    ∃ told, parseSseEvent settings (js wire.name) context text = .ok (told, context) ∧
      Tells told (wireSaid false wire) (wireSaid true wire) := by
  cases wire with
  | contentBlockDelta piece => exact parse_piece settings message context piece text h
  | messageStart first => cases hwire
  | messageDelta => cases hwire
  | messageStop => cases hwire
  | contentBlockStart | contentBlockStop | ping =>
    obtain ⟨fields, -, hparse⟩ := parse_react settings message context _ text h
    exact ⟨[], hparse, tells_nil⟩

/-- The events of the blocks, and pings, are told without a change of what is known. -/
theorem outcome_inBlock (context : ReplyContext ν) (events more : List (Wire ν × JsString))
    (h : AllData settings message events) (hwire : ∀ event ∈ events, event.1.inBlock = true) :
    ∃ told, outcome settings context (events ++ more) =
        (told ++ (outcome settings context more).1, (outcome settings context more).2) ∧
      Tells told (events.flatMap fun event => wireSaid false event.1)
        (events.flatMap fun event => wireSaid true event.1) := by
  induction events with
  | nil => exact ⟨[], rfl, tells_nil⟩
  | cons event rest ih =>
    obtain ⟨wire, text⟩ := event
    obtain ⟨hdata, hrestData⟩ := List.forall_mem_cons.mp h
    obtain ⟨hblock, hrestBlock⟩ := List.forall_mem_cons.mp hwire
    obtain ⟨told, hparse, htold⟩ := parse_inBlock settings message context wire text hdata hblock
    obtain ⟨later, hlater, htells⟩ := ih hrestData hrestBlock
    refine ⟨told ++ later, ?_, tells_append _ _ _ _ _ _ htold htells⟩
    rw [List.cons_append, outcome, hparse]
    dsimp only
    rw [hlater, List.append_assoc]

theorem outcome_pings (context : ReplyContext ν) (events : List (Wire ν × JsString))
    (h : AllData settings message events) :
    outcome settings context (events.filter fun event => !event.1.isPing) =
      outcome settings context events := by
  induction events generalizing context with
  | nil => rfl
  | cons event rest ih =>
    obtain ⟨wire, text⟩ := event
    obtain ⟨hdata, hrest⟩ := List.forall_mem_cons.mp h
    rw [List.filter_cons]
    cases hping : wire.isPing with
    | true =>
      obtain rfl : wire = .ping := by cases wire <;> first | rfl | cases hping
      obtain ⟨fields, -, hparse⟩ := parse_react settings message context _ text hdata
      have hsilent : parseSseEvent settings (js (Wire.ping (ν := ν)).name) context text =
          .ok ([], context) := hparse
      rw [if_neg (by simp), ih context hrest, outcome, hsilent]
      rfl
    | false =>
      rw [if_pos (by simp), outcome, outcome]
      cases parseSseEvent settings (js wire.name) context text with
      | error e => rfl
      | ok told =>
        dsimp only
        rw [ih told.2 hrest]

omit [JsNumber ν] in
theorem encodeBlock_inBlock (block : Block) (pieces : List JsString) :
    ∀ wire ∈ encodeBlock (ν := ν) block pieces, wire.inBlock = true := by
  intro wire hwire
  rcases List.mem_append.mp hwire with hfront | hlast
  · rcases List.mem_cons.mp hfront with rfl | hpiece
    · rfl
    · obtain ⟨piece, -, rfl⟩ := List.mem_map.mp hpiece
      rfl
  · rw [List.mem_singleton.mp hlast]
    rfl

omit [JsNumber ν] in
theorem encoded_inBlock (blocks : List Block) (pieces : List (List JsString)) :
    ∀ wire ∈ (List.zipWith (encodeBlock (ν := ν)) blocks pieces).flatten, wire.inBlock = true := by
  induction blocks generalizing pieces with
  | nil => exact fun _ hmem => (nomatch hmem)
  | cons block rest ih =>
    cases pieces with
    | nil => exact fun _ hmem => (nomatch hmem)
    | cons first more =>
      intro wire hwire
      rw [List.zipWith_cons_cons, List.flatten_cons] at hwire
      exact (List.mem_append.mp hwire).elim (encodeBlock_inBlock block first wire) (ih more wire)

omit [JsNumber ν] in
theorem encodeBlock_said (thinking : Bool) (block : Block) (pieces : List JsString)
    (h : pieces.flatten = block.said) :
    (encodeBlock (ν := ν) block pieces).flatMap (wireSaid thinking) =
      if block.thinking = thinking then block.said else [] := by
  have hpieces : (pieces.map fun piece => Wire.contentBlockDelta (ν := ν) ⟨block.thinking, piece⟩).flatMap
      (wireSaid thinking) = if block.thinking = thinking then pieces.flatten else [] := by
    clear h
    induction pieces with
    | nil => simp
    | cons piece rest ih =>
      rw [List.map_cons, List.flatMap_cons, ih, wireSaid]
      split_ifs <;> rfl
  rw [encodeBlock, List.flatMap_append, List.flatMap_cons, hpieces, h]
  exact List.append_nil _

omit [JsNumber ν] in
theorem encoded_said (thinking : Bool) (blocks : List Block) (pieces : List (List JsString))
    (h : List.Forall₂ (fun block pieces => pieces.flatten = Block.said block) blocks pieces) :
    (List.zipWith (encodeBlock (ν := ν)) blocks pieces).flatten.flatMap (wireSaid thinking) =
      said thinking blocks := by
  induction h with
  | nil => rfl
  | cons hblock hrest ih =>
    rw [List.zipWith_cons_cons, List.flatten_cons, List.flatMap_append, ih,
      encodeBlock_said thinking _ _ hblock]
    rfl

theorem outcome_message (context : ReplyContext ν) (events : List (Wire ν × JsString))
    (h : AllData settings message events)
    (hencodes : Encodes message (events.map Prod.fst)) :
    ∃ told, outcome settings context events =
        (told ++ [.complete (if truthy (some (Json.string (ν := ν) message.stopReason)) then
            mapFinishReason (some (Json.string (ν := ν) message.stopReason))
          else context.finishReason)
          (some ⟨.number message.inputTokens, .number message.outputTokens,
            .number (JsNumber.add message.inputTokens message.outputTokens), none⟩)
          ((present (some (.string message.model))).or context.model)], .returned) ∧
      Tells told (said false message.content) (said true message.content) := by
  obtain ⟨first, pieces, hpieces, hevents⟩ := hencodes.encoded
  have hfilter : (events.filter fun event => !event.1.isPing).map Prod.fst =
      (events.map Prod.fst).filter fun wire => !wire.isPing := by
    rw [List.filter_map]
    rfl
  rw [hevents, List.cons_append] at hfilter
  obtain ⟨⟨wire, start⟩, rest, hstart, rfl, hrest⟩ := List.map_eq_cons_iff.mp hfilter
  obtain ⟨blocks, ends, rfl, hblocks, hends⟩ := List.map_eq_append_iff.mp hrest
  obtain ⟨⟨deltaWire, delta⟩, stops, rfl, hdeltaWire, hstops⟩ := List.map_eq_cons_iff.mp hends
  obtain ⟨⟨stopWire, stop⟩, last, rfl, hstopWire, hlast⟩ := List.map_eq_cons_iff.mp hstops
  obtain rfl := List.map_eq_nil_iff.mp hlast
  obtain rfl : deltaWire = .messageDelta := hdeltaWire
  obtain rfl : stopWire = .messageStop := hstopWire
  have hall : ∀ event ∈ events.filter fun event => !event.1.isPing,
      IsData settings message event.1 event.2 :=
    fun event hevent => h event (List.mem_filter.mp hevent).1
  rw [hstart] at hall
  obtain ⟨hstartData, hall⟩ := List.forall_mem_cons.mp hall
  have hinBlock : ∀ event ∈ blocks, event.1.inBlock = true := by
    intro event hevent
    refine encoded_inBlock message.content pieces event.1 ?_
    rw [← hblocks]
    exact List.mem_map_of_mem hevent
  have hsaid : ∀ thinking, (blocks.flatMap fun event => wireSaid thinking event.1) =
      said thinking message.content := by
    intro thinking
    rw [← encoded_said thinking _ _ hpieces, ← hblocks, List.flatMap_map]
  obtain ⟨usage, hparseStart⟩ := parse_start settings message context first start hstartData
  obtain ⟨told, htold, htells⟩ := outcome_inBlock settings message (started message context first)
    blocks [(.messageDelta, delta), (.messageStop, stop)]
    (fun event hevent => hall event (List.mem_append_left _ hevent)) hinBlock
  obtain ⟨usage', hparseDelta⟩ := parse_delta settings message (started message context first) delta
    (hall _ (List.mem_append_right _ List.mem_cons_self)) rfl
  have hparseStop := parse_stop settings message (ended message (started message context first)) stop
    (hall _ (List.mem_append_right _ (List.mem_cons_of_mem _ List.mem_cons_self))) rfl rfl
  rw [hsaid false, hsaid true] at htells
  have hends : outcome settings (started message context first)
      [(.messageDelta, delta), (.messageStop, stop)] =
      ([.usage usage', .complete (ended message (started message context first)).finishReason
        (some ⟨.number message.inputTokens, .number message.outputTokens,
          .number (JsNumber.add message.inputTokens message.outputTokens), none⟩)
        (ended message (started message context first)).model], .returned) := by
    rw [outcome, hparseDelta]
    dsimp only
    rw [outcome, hparseStop]
    rfl
  refine ⟨[.usage usage] ++ told ++ [.usage usage'], ?_, ?_⟩
  · rw [← outcome_pings settings message context events h, hstart, outcome, hparseStart]
    dsimp only
    rw [htold, hends]
    dsimp only
    simp only [List.append_assoc]
    rfl
  · have htells' := tells_append _ _ _ _ _ _ (tells_append _ _ _ _ _ _ (tells_usage usage) htells)
      (tells_usage usage')
    simpa using htells'

end Run

section Parity
open WirePayloads ExecutionChain
variable (ofInt : ℤ → ν) (config : AdapterConfig) (request : CompletionRequest ν)
  (settings : AdapterSettings ν) (message : Message ν)

structure Delivered (data : Json ν) (events : List (Wire ν × JsString))
    (reads : List (List UInt8)) : Prop where
  response : IsResponse data message
  data : AllData settings message events
  encodes : Encodes message (events.map Prod.fst)
  body : (TextDecoder.texts TextDecoder.fresh reads).flatten =
    (events.map fun event => frame event.1 event.2).flatten

omit [JsNumber ν] in
theorem requestedModel_target (h : settings.defaultModel = Anthropic.defaultModel config) :
    requestedModel settings (some request.model) =
      targetModel request (Anthropic.defaultModel config) := by
  rw [requestedModel, targetModel, h, ContextConstruction.trimmed]
  cases htrim : trim request.model with
  | nil => simp [htrim]
  | cons c rest => simp [htrim]

omit [JsNumber ν] in
theorem payload_model (stream : Bool) :
    (Anthropic.buildMessagesPayload ofInt config request stream).lookup (js "model") =
      ((ownProperties request.modelParams).lookup (js "model")).or
        (some (.string (targetModel request (Anthropic.defaultModel config)))) := by
  unfold Anthropic.buildMessagesPayload
  obtain ⟨systemPrompt, wireMessages⟩ :=
    TurnTranslation.Anthropic.translateMessages request.systemPrompt request.messages
  dsimp only
  cases ContextConstruction.truthy systemPrompt with
  | none =>
    dsimp only
    rw [ObjectFields.lookup_assign]
    rfl
  | some text =>
    dsimp only
    rw [ObjectFields.lookup_put, ObjectFields.lookup_assign]
    rfl

def Unopposed : Prop :=
  ∀ value, (ownProperties request.modelParams).lookup (js "model") = some value →
    value = .string (targetModel request (Anthropic.defaultModel config))

omit [JsNumber ν] in
theorem unopposed_iff (stream : Bool) : Unopposed config request ↔
    (Anthropic.buildMessagesPayload ofInt config request stream).lookup (js "model") =
      some (.string (targetModel request (Anthropic.defaultModel config))) := by
  rw [payload_model, Unopposed]
  cases (ownProperties request.modelParams).lookup (js "model") with
  | none => exact ⟨fun _ => rfl, fun _ _ h => (nomatch h)⟩
  | some value =>
    exact ⟨fun h => congrArg some (h value rfl), fun h _ hvalue => by
      rw [← Option.some.inj hvalue]
      exact Option.some.inj h⟩

theorem mapFinishReason_falsy (reason : Value ν) (h : truthy reason = false) :
    mapFinishReason reason = .other := by
  rw [mapFinishReason, isText_falsy reason "end_turn" (by decide) h,
    isText_falsy reason "stop_sequence" (by decide) h, isText_falsy reason "max_tokens" (by decide) h,
    isText_falsy reason "tool_use" (by decide) h]
  rfl

theorem reason_iff (stopReason : JsString) :
    (if truthy (some (Json.string (ν := ν) stopReason)) then
        mapFinishReason (some (Json.string (ν := ν) stopReason)) else .stop) =
      mapFinishReason (some (Json.string (ν := ν) stopReason)) ↔ stopReason ≠ [] := by
  cases stopReason with
  | nil =>
    rw [mapFinishReason_falsy (some (Json.string (ν := ν) [])) rfl]
    exact ⟨fun h => (nomatch h), fun h => absurd rfl h⟩
  | cons c rest => exact ⟨fun _ => List.cons_ne_nil c rest, fun _ => rfl⟩

/-- The model is the same where the message names one, or else the payload keeps the request's. -/
theorem model_iff (model target : JsString) (sent : Value ν) :
    (present (some (.string model))).or (some (.string target)) =
        orElse (some (.string model)) sent ↔
      model ≠ [] ∨ sent = some (.string target) := by
  cases model with
  | nil => exact ⟨fun h => .inr h.symm, fun h => h.elim (fun h => absurd rfl h) fun h => h.symm⟩
  | cons c rest => exact ⟨fun _ => .inl (List.cons_ne_nil c rest), fun _ => rfl⟩

theorem anthropic_parity (h : settings.defaultModel = Anthropic.defaultModel config)
    (data : Json ν) (events : List (Wire ν × JsString)) (reads : List (List UInt8))
    (hdelivered : Delivered settings message data events reads) :
    Same (complete (Anthropic.buildMessagesPayload ofInt config request false) data)
        (stream settings (some request.model) reads) ↔
      message.stopReason ≠ [] ∧ (message.model ≠ [] ∨ Unopposed config request) := by
  obtain ⟨response, hcomplete, hcontent, hthoughts, hreason, husage, hmodel⟩ :=
    complete_message (Anthropic.buildMessagesPayload ofInt config request false) data message
      hdelivered.response
  obtain ⟨told, hstream, htells⟩ := outcome_message settings message
    (.start settings (some request.model)) events hdelivered.data hdelivered.encodes
  have hrun : stream settings (some request.model) reads =
      outcome settings (.start settings (some request.model)) events := by
    unfold stream
    rw [readLoop_eq _ _ [] _ rfl, List.nil_append, hdelivered.body]
    exact consume_frames settings _ events fun event hevent => (hdelivered.data event hevent).line
  obtain ⟨htext, hthought, hcompletion⟩ := tells_complete told _ _ _ _ _ htells
  rw [unopposed_iff ofInt config request false,
    ← requestedModel_target config request settings h, hrun, hstream]
  constructor
  · rintro ⟨other, hother, hsame⟩
    obtain rfl := Except.ok.inj (hcomplete.symm.trans hother)
    obtain ⟨hfinish, -, hnamed⟩ :=
      Completion.mk.inj (Option.some.inj (hcompletion.symm.trans hsame.completed))
    rw [hreason] at hfinish
    rw [hmodel] at hnamed
    exact ⟨(reason_iff _).mp hfinish, (model_iff _ _ _).mp hnamed⟩
  · rintro ⟨hfinish, hnamed⟩
    refine ⟨response, hcomplete, ?_, ?_, ?_⟩
    · rw [hcontent, htext]
    · rw [hthoughts, hthought]
    · have hfinished := (reason_iff (ν := ν) _).mpr hfinish
      have hnamed' := (model_iff (ν := ν) _ _ _).mpr hnamed
      rw [hreason, hmodel, husage]
      exact hcompletion.trans (congrArg some (congrArg₂ (Completion.mk · _ ·) hfinished hnamed'))

end Parity

end Glassbeetle.AnthropicReplies
