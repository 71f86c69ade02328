import Mathlib.Data.List.Nodup
import Glassbeetle.AnthropicReplies
import Glassbeetle.EventFrames
import Glassbeetle.OllamaReplies

set_option autoImplicit false

namespace Glassbeetle.StreamingParity
open JsText JsValue AdapterTypes AdapterStreams AdapterReplies LineStream JsonStringify
open AnthropicReplies (Message Wire Block)
open OllamaReplies (Report Speech)
open WirePayloads ExecutionChain

/-- Anthropic's stream tells the same just when the stop reason is not empty and the message names
its model or the payload keeps the request's; Ollama's just when no chunk gives its thoughts under
the other name while another chunk has some under the first. -/
theorem streaming_parity {ν : Type} [JsNumber ν] (ofInt : ℤ → ν) (config : AdapterConfig)
    (request : CompletionRequest ν) (anthropic : AdapterSettings ν)
    (hmodel : anthropic.defaultModel = Anthropic.defaultModel config) (message : Message ν)
    (data : Json ν) (events : List (Wire ν × JsString)) (reads : List (List UInt8))
    (hmessage : AnthropicReplies.Delivered anthropic message data events reads)
    (ollama : AdapterSettings ν) (status : ℕ) (model : Option JsString) (response : Json ν)
    (report : Report ν) (speeches : List Speech) (last : Speech) (texts : List JsString)
    (final : JsString) (lines : List (List UInt8))
    (hresponse : OllamaReplies.Delivered ollama response report speeches last texts final lines) :
    (Same (AnthropicReplies.complete (Anthropic.buildMessagesPayload ofInt config request false) data)
        (AnthropicStream.stream anthropic (some request.model) reads) ↔
      message.stopReason ≠ [] ∧
        (message.model ≠ [] ∨ AnthropicReplies.Unopposed config request)) ∧
    (Same (OllamaReplies.complete ollama status model response)
        (OllamaStream.stream ollama status model lines) ↔
      (∀ speech ∈ speeches ++ [last], speech.thinking = []) ∨
        ∀ speech ∈ speeches ++ [last], speech.thinking = [] → speech.reasoningContent = []) :=
  ⟨AnthropicReplies.anthropic_parity ofInt config request anthropic message hmodel data events reads
      hmessage,
    OllamaReplies.ollama_parity ollama status model response report speeches last texts final lines
      hresponse⟩

section Samples

def known (documents : List (Json ℤ)) (text : JsString) : Option (Json ℤ) :=
  documents.find? fun document => stringify document = text

theorem known_mem (documents : List (Json ℤ)) (h : (documents.map stringify).Nodup)
    (document : Json ℤ) (hmem : document ∈ documents) :
    known documents (stringify document) = some document := by
  induction documents with
  | nil => cases hmem
  | cons first rest ih =>
    rw [List.map_cons, List.nodup_cons] at h
    rw [known, List.find?_cons]
    rcases List.mem_cons.mp hmem with rfl | hrest
    · rw [decide_eq_true rfl]
    · have hother : stringify first ≠ stringify document := by
        intro hsame
        exact h.1 (hsame ▸ List.mem_map_of_mem hrest)
      rw [decide_eq_false hother]
      exact ih h.2 hrest

def word (text : String) : Json ℤ := .string (js text)

def record (fields : List (String × Json ℤ)) : Json ℤ :=
  .object (fields.map fun field => (js field.1, field.2))

def sampleMessage : Message ℤ := ⟨js "claude", [⟨false, js "ab"⟩], js "end_turn", 3, 2⟩

def messageData : Json ℤ :=
  record [("model", word "claude"),
    ("content", .array [record [("type", word "text"), ("text", word "ab")]]),
    ("stop_reason", word "end_turn"),
    ("usage", record [("input_tokens", .number 3), ("output_tokens", .number 2)])]

def pieceData (text : String) : Json ℤ :=
  record [("type", word "content_block_delta"), ("index", .number 0),
    ("delta", record [("type", word "text_delta"), ("text", word text)])]

def startData : Json ℤ :=
  record [("type", word "message_start"), ("message", record [("model", word "claude"),
    ("usage", record [("input_tokens", .number 3), ("output_tokens", .number 1)])])]

def deltaData : Json ℤ :=
  record [("type", word "message_delta"), ("delta", record [("stop_reason", word "end_turn")]),
    ("usage", record [("output_tokens", .number 2)])]

def bareData (type : String) : Json ℤ := record [("type", word type)]

def messageEvents : List (Wire ℤ × Json ℤ) :=
  [(.messageStart 1, startData), (.contentBlockStart, bareData "content_block_start"),
    (.contentBlockDelta ⟨false, js "a"⟩, pieceData "a"), (.ping, bareData "ping"),
    (.contentBlockDelta ⟨false, js "b"⟩, pieceData "b"),
    (.contentBlockStop, bareData "content_block_stop"), (.messageDelta, deltaData),
    (.messageStop, bareData "message_stop")]

def anthropicSample : AdapterSettings ℤ where
  parseJson := known (messageEvents.map Prod.snd)
  toLowerCase := id
  describe _ := js "TypeError"
  apiKey := []
  defaultModel := js "claude"
  providerKind := js "anthropic"

theorem object_text (fields : List (JsString × Json ℤ)) :
    OneLine (stringify (.object fields)) ∧
    trim (stringify (.object fields)) = stringify (.object fields) ∧
    stringify (.object fields) ≠ [] ∧ stringify (.object fields) ≠ js "[DONE]" := by
  refine ⟨fun c hc => ?_, ?_, ?_, ?_⟩
  · have hprinted := stringify_printed EventFrames.intText_printed (.object fields) c hc
    constructor
    · rintro rfl
      exact absurd hprinted (by decide)
    · rintro rfl
      exact absurd hprinted (by decide)
  · rw [stringify]
    exact EventFrames.trim_ends _ _ _ rfl rfl
  · rw [stringify]
    exact List.cons_ne_nil _ _
  · rw [stringify]
    exact fun h => absurd (List.cons.inj h).1 (by decide)

theorem messageEvents_payload : ∀ event ∈ messageEvents, ∃ fields, event.2 = .object fields ∧
    AnthropicReplies.IsPayload sampleMessage event.2 event.1 := by
  unfold messageEvents
  simp only [List.forall_mem_cons]
  exact ⟨⟨_, rfl, rfl, ⟨_, rfl⟩, rfl, rfl⟩, ⟨_, rfl, trivial⟩, ⟨_, rfl, rfl, rfl⟩, ⟨_, rfl, trivial⟩,
    ⟨_, rfl, rfl, rfl⟩, ⟨_, rfl, trivial⟩, ⟨_, rfl, rfl, rfl⟩, ⟨_, rfl, trivial⟩,
    fun _ hmem => (nomatch hmem)⟩

theorem messageEvents_data : ∀ event ∈ messageEvents,
    AnthropicReplies.IsData anthropicSample sampleMessage event.1 (stringify event.2) := by
  intro event hevent
  obtain ⟨fields, hfields, hpayload⟩ := messageEvents_payload event hevent
  have hknown : known (messageEvents.map Prod.snd) (stringify event.2) = some event.2 :=
    known_mem _ (by decide +kernel) event.2 (List.mem_map_of_mem hevent)
  rw [hfields] at hknown hpayload ⊢
  obtain ⟨hline, htrim, hfilled, hsentinel⟩ := object_text fields
  refine ⟨hline, by rw [htrim]; exact hfilled, by rw [htrim]; exact hsentinel, fields, ?_, hpayload⟩
  rw [htrim]
  exact hknown

def messageTexts : List (Wire ℤ × JsString) :=
  messageEvents.map fun event => (event.1, stringify event.2)

theorem messageTexts_delivered : AnthropicReplies.Delivered anthropicSample sampleMessage messageData
    messageTexts [StreamChunking.octets
      (messageTexts.map fun event => AnthropicReplies.frame event.1 event.2).flatten] where
  response := ⟨⟨_, rfl⟩, rfl, ⟨_, rfl, .cons ⟨⟨_, rfl⟩, rfl, rfl⟩ .nil⟩, rfl, ⟨_, rfl⟩, rfl, rfl⟩
  data := by
    intro event hevent
    obtain ⟨source, hsource, rfl⟩ := List.mem_map.mp hevent
    exact messageEvents_data source hsource
  encodes := ⟨1, [[js "a", js "b"]], .cons rfl .nil, rfl⟩
  body := by decide +kernel

def responseData (done : Bool) (message counts : List (String × Json ℤ)) : Json ℤ :=
  record ([("model", word "llama"), ("message", record message), ("done", .bool done)] ++ counts)

def counts : List (String × Json ℤ) :=
  [("prompt_eval_count", .number 3), ("eval_count", .number 2)]

def sampleReport : Report ℤ := ⟨js "llama", [], 3, 2⟩

def otherThoughts (other : Bool) : List (String × Json ℤ) :=
  if other then [("reasoning_content", word "c")] else []

/-- Two chunks: the first thinks `a`, and the second says `b`, with thoughts of the other name. -/
def chunkDatas (other : Bool) : List (Json ℤ) :=
  [responseData false [("content", word ""), ("thinking", word "a")] [],
    responseData true ([("content", word "b")] ++ otherThoughts other) counts]

def wholeData (other : Bool) : Json ℤ :=
  responseData true ([("content", word "b"), ("thinking", word "a")] ++ otherThoughts other) counts

def firstSpeech : Speech := ⟨[], js "a", []⟩

def lastSpeech (other : Bool) : Speech := ⟨js "b", [], if other then js "c" else []⟩

def ollamaSample (other : Bool) : AdapterSettings ℤ where
  parseJson := known (chunkDatas other)
  toLowerCase := id
  describe _ := js "TypeError"
  apiKey := []
  defaultModel := js "llama"
  providerKind := js "ollama"

def chunkBody (other : Bool) : JsString :=
  ((chunkDatas other).map fun chunk => stringify chunk ++ js "\n").flatten

theorem chunk_line (other : Bool) (hnodup : ((chunkDatas other).map stringify).Nodup)
    (fields : List (JsString × Json ℤ)) (h : .object fields ∈ chunkDatas other) :
    OllamaReplies.IsLine (ollamaSample other) (stringify (.object fields)) (.object fields) := by
  obtain ⟨hline, htrim, hfilled, -⟩ := object_text fields
  refine ⟨hline, by rw [htrim]; exact hfilled, ?_⟩
  rw [htrim]
  exact known_mem _ hnodup _ h

theorem chunks_delivered (other : Bool)
    (hnodup : ((chunkDatas other).map stringify).Nodup) (reads : List (List UInt8))
    (hreads : (TextDecoder.texts TextDecoder.fresh reads).flatten = chunkBody other) :
    OllamaReplies.Delivered (ollamaSample other) (wholeData other) sampleReport [firstSpeech]
      (lastSpeech other)
      [stringify (responseData false [("content", word ""), ("thinking", word "a")] [])]
      (stringify (responseData true ([("content", word "b")] ++ otherThoughts other) counts))
      reads where
  whole := by
    cases other with
    | false => exact ⟨⟨_, rfl⟩, rfl, .inl rfl, .inl rfl, .inr ⟨.inl rfl, rfl⟩⟩
    | true => exact ⟨⟨_, rfl⟩, rfl, .inl rfl, .inl rfl, .inl rfl⟩
  reports := by
    cases other <;> exact ⟨rfl, .inr ⟨.inl rfl, rfl⟩, rfl, rfl⟩
  chunks := .cons ⟨_, chunk_line other hnodup _ List.mem_cons_self,
    ⟨⟨_, rfl⟩, rfl, .inl rfl, .inl rfl, .inr ⟨.inl rfl, rfl⟩⟩,
    ⟨.inr rfl, .inr ⟨.inl rfl, rfl⟩, rfl, rfl, rfl⟩⟩ .nil
  done := by
    refine ⟨_, chunk_line other hnodup _ (List.mem_cons_of_mem _ List.mem_cons_self), ?_⟩
    cases other with
    | false =>
      exact ⟨⟨⟨_, rfl⟩, rfl, .inl rfl, .inr ⟨.inl rfl, rfl⟩, .inr ⟨.inl rfl, rfl⟩⟩,
        ⟨rfl, .inr ⟨.inl rfl, rfl⟩, rfl, rfl⟩, rfl⟩
    | true =>
      exact ⟨⟨⟨_, rfl⟩, rfl, .inl rfl, .inr ⟨.inl rfl, rfl⟩, .inl rfl⟩,
        ⟨rfl, .inr ⟨.inl rfl, rfl⟩, rfl, rfl⟩, rfl⟩
  body := by
    rw [hreads]
    rfl

end Samples

def plainRequest : CompletionRequest ℤ := ⟨js "claude", none, [], none, none, none⟩

def plainConfig : AdapterConfig := ⟨js "p", js "anthropic", none, none, js "claude"⟩

theorem streaming_parity_samples :
    Same (AnthropicReplies.complete
        (Anthropic.buildMessagesPayload id plainConfig plainRequest false) messageData)
      (AnthropicStream.stream anthropicSample (some (js "claude"))
        [StreamChunking.octets
          (messageTexts.map fun event => AnthropicReplies.frame event.1 event.2).flatten]) ∧
    Same (OllamaReplies.complete (ollamaSample false) 200 none (wholeData false))
      (OllamaStream.stream (ollamaSample false) 200 none
        [StreamChunking.octets (chunkBody false)]) := by
  obtain ⟨hanthropic, hollama⟩ := streaming_parity id plainConfig plainRequest anthropicSample rfl
    sampleMessage messageData messageTexts _ messageTexts_delivered (ollamaSample false) 200 none
    (wholeData false) sampleReport [firstSpeech] (lastSpeech false) _ _ _
    (chunks_delivered false (by decide +kernel) [StreamChunking.octets (chunkBody false)]
      (by decide +kernel))
  exact ⟨hanthropic.mpr ⟨by decide, .inl (by decide)⟩, hollama.mpr (.inr (by decide))⟩

/-- The stream adds the thoughts of a chunk under the other name to those of an earlier chunk. -/
theorem other_thoughts_told :
    ¬Same (OllamaReplies.complete (ollamaSample true) 200 none (wholeData true))
      (OllamaStream.stream (ollamaSample true) 200 none
        [StreamChunking.octets (chunkBody true)]) := by
  intro h
  have hparity := OllamaReplies.ollama_parity (ollamaSample true) 200 none _ sampleReport
    [firstSpeech] (lastSpeech true) _ _ _
    (chunks_delivered true (by decide +kernel)
      [StreamChunking.octets (chunkBody true)] (by decide +kernel))
  exact absurd (hparity.mp h) (by decide)

end Glassbeetle.StreamingParity
