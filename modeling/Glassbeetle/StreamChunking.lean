import Glassbeetle.AnthropicStream
import Glassbeetle.OpenAiStream
import Glassbeetle.GoogleStream
import Glassbeetle.OllamaStream

set_option autoImplicit false

namespace Glassbeetle.StreamChunking
open JsText JsValue AdapterTypes LineStream AdapterStreams

section Chunking

variable {ν : Type} [JsNumber ν]

def stream (kind : AdapterKind) (settings : AdapterSettings ν) (status : ℕ)
    (model : Option JsString) (reads : List (List UInt8)) : List (Event ν) × Ending :=
  match kind with
  | .anthropic => AnthropicStream.stream settings model reads
  | .openAi => OpenAiStream.stream settings model reads
  | .google => GoogleStream.stream settings model reads
  | .ollama => OllamaStream.stream settings status model reads

theorem texts_same (reads others : List (List UInt8)) (h : reads.flatten = others.flatten) :
    (TextDecoder.texts TextDecoder.fresh reads).flatten =
      (TextDecoder.texts TextDecoder.fresh others).flatten := by
  rw [TextDecoder.texts_flatten, TextDecoder.texts_flatten, h]

theorem stream_chunking (kind : AdapterKind) (settings : AdapterSettings ν) (status : ℕ)
    (model : Option JsString) (reads others : List (List UInt8))
    (h : reads.flatten = others.flatten) :
    stream kind settings status model reads = stream kind settings status model others := by
  have htexts := texts_same reads others h
  cases kind with
  | anthropic => exact readLoop_pieces _ _ _ _ htexts
  | openAi => exact readLoop_pieces _ _ _ _ htexts
  | google => exact readLoop_pieces _ _ _ _ htexts
  | ollama => exact readLoop_pieces _ _ _ _ htexts

end Chunking

/-- A runtime whose documents all are `null`. -/
def nullRuntime : AdapterSettings ℤ where
  parseJson _ := some .null
  toLowerCase := id
  describe _ := js "TypeError"
  apiKey := []
  defaultModel := js "gpt-4o"
  providerKind := js "openai"

def octets (text : JsString) : List UInt8 := text.map UInt16.toUInt8

theorem done_cut :
    stream .openAi nullRuntime 200 none
        [[0x64, 0x61, 0x74, 0x61, 0x3A, 0x5B, 0x44, 0x4F], [0x4E, 0x45, 0x5D, 0x0D], [0x0A, 0x0D, 0x0A]] =
      stream .openAi nullRuntime 200 none
        [[0x64, 0x61, 0x74, 0x61, 0x3A, 0x5B, 0x44, 0x4F, 0x4E, 0x45, 0x5D, 0x0D, 0x0A, 0x0D, 0x0A]] :=
  stream_chunking .openAi nullRuntime 200 none _ _ rfl

end Glassbeetle.StreamChunking
