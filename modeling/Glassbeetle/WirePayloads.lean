import Glassbeetle.ExecutionChain
import Glassbeetle.ObjectFields
import Glassbeetle.TurnTranslation

set_option autoImplicit false

/-!
# Wire payloads

What each adapter sends for a request: `buildMessagesPayload`,
`buildChatPayload` of OpenAI and of Ollama, and `buildGenerateContentPayload`.
-/
namespace Glassbeetle.WirePayloads
open JsText AdapterTypes ContextConstruction ExecutionChain ObjectFields TurnTranslation
open JsValue (Json JsNumber)

variable {ν : Type} [JsNumber ν] (ofInt : ℤ → ν)

abbrev Fields (ν : Type) := List (JsString × Json ν)

def field (key : String) (value : Json ν) : JsString × Json ν := (js key, value)

/-- `...(value !== undefined ? { [key]: value } : {})` -/
def fieldOf (key : String) (value : Option (Json ν)) : Fields ν :=
  (value.map (field key)).toList

def ownProperties : Option (Json ν) → Fields ν
  | some (.object fields) => fields
  | some (.array items) => items.zipIdx.map fun (item, i) => (decimal i, item)
  | some (.string s) => s.zipIdx.map fun (c, i) => (decimal i, .string [c])
  | _ => []

/-- What `Object.assign` sets, where the value is an object; setting `__proto__` makes no property. -/
def assignable : Option (Json ν) → Fields ν
  | some (.string _) => []
  | params => (ownProperties params).filter (·.1 ≠ js "__proto__")

/-- `request.model?.trim() || this.defaultModel` -/
def targetModel (request : CompletionRequest ν) (defaultModel : JsString) : JsString :=
  (trimmed (some request.model)).getD defaultModel

/-- `config.modelIdentifier?.trim() || fallback` -/
def configuredModel (config : AdapterConfig) (fallback : String) : JsString :=
  (trimmed (some config.modelIdentifier)).getD (js fallback)

namespace Anthropic

def defaultMaxTokens : ℤ := 4096

/-- This constructor does not trim. -/
def defaultModel (config : AdapterConfig) : JsString :=
  (truthy (some config.modelIdentifier)).getD (js "claude-3-5-sonnet-20241022")

def wireMessage (message : AnthropicWireMessage) : Json ν :=
  .object [field "role" (.string (match message.role with
      | .user => js "user"
      | .assistant => js "assistant")),
    field "content" (.string message.content)]

def buildMessagesPayload (config : AdapterConfig) (request : CompletionRequest ν) (stream : Bool) :
    Fields ν :=
  let (systemPrompt, wireMessages) :=
    TurnTranslation.Anthropic.translateMessages request.systemPrompt request.messages
  let payload := assign
    ([field "model" (.string (targetModel request (defaultModel config))),
      field "messages" (.array (wireMessages.map wireMessage)),
      field "max_tokens" (.number (ofInt (request.maxTokens.getD defaultMaxTokens))),
      field "stream" (.bool stream)] ++ fieldOf "temperature" (request.temperature.map .number))
    (ownProperties request.modelParams)
  match truthy systemPrompt with
  | some text => put payload (js "system") (.string text)
  | none => payload

end Anthropic

namespace OpenAi

def defaultModel (config : AdapterConfig) : JsString :=
  configuredModel config (if config.providerKind = js "openai" then "gpt-4o" else "default")

/-- No caller sets `toolCallId`, so there is no `tool_call_id`. -/
def wireMessage (message : AdapterMessage) : Json ν :=
  .object ([field "role" (.string message.role), field "content" (.string message.content)] ++
    fieldOf "name" ((truthy message.name).map .string))

def wireMessages (request : CompletionRequest ν) : List (Json ν) :=
  ((trimmed request.systemPrompt).map fun text =>
    .object [field "role" (.string (js "system")), field "content" (.string text)]).toList ++
      request.messages.map wireMessage

def buildChatPayload (config : AdapterConfig) (request : CompletionRequest ν) (stream : Bool) :
    Fields ν :=
  let payload := assign
    ([field "model" (.string (targetModel request (defaultModel config))),
      field "messages" (.array (wireMessages request)),
      field "stream" (.bool stream)] ++
      fieldOf "temperature" (request.temperature.map .number) ++
      fieldOf "max_tokens" (request.maxTokens.map fun n => .number (ofInt n)))
    (ownProperties request.modelParams)
  if stream ∧ config.providerKind = js "openai" ∧
      JsValue.truthy (payload.lookup (js "stream_options")) = false then
    put payload (js "stream_options") (.object [field "include_usage" (.bool true)])
  else payload

end OpenAi

namespace Google

def defaultModel (config : AdapterConfig) : JsString := configuredModel config "gemini-1.5-flash"

def part (part : GeminiPart) : Json ν := .object [field "text" (.string part.text)]

def content (content : GeminiContent) : Json ν :=
  .object [field "role" (.string (match content.role with
      | .user => js "user"
      | .model => js "model")),
    field "parts" (.array (content.parts.map part))]

def generationConfig (request : CompletionRequest ν) : Fields ν :=
  assign (fieldOf "temperature" (request.temperature.map .number) ++
      fieldOf "maxOutputTokens" (request.maxTokens.map fun n => .number (ofInt n)))
    ((assignable request.modelParams).filter (·.1 ≠ js "safetySettings"))

def buildGenerateContentPayload (request : CompletionRequest ν) : Fields ν :=
  let (systemInstruction, contents) :=
    Gemini.translateMessages request.systemPrompt request.messages
  let config := generationConfig ofInt request
  [field "contents" (.array (contents.map content))] ++
    fieldOf "systemInstruction" (systemInstruction.map fun parts =>
      .object [field "parts" (.array (parts.map part))]) ++
    fieldOf "safetySettings" ((assignable request.modelParams).lookup (js "safetySettings")) ++
    fieldOf "generationConfig" (if config.length > 0 then some (.object config) else none)

/-- The model and the way of answering are in the path of the address. -/
def action (config : AdapterConfig) (request : CompletionRequest ν) (stream : Bool) : JsString :=
  let model := targetModel request (defaultModel config)
  let cleanModel := if startsWith model (js "models/") then model.drop 7 else model
  js "models/" ++ cleanModel ++
    (if stream then js ":streamGenerateContent" else js ":generateContent")

end Google

namespace Ollama

def defaultModel (config : AdapterConfig) : JsString := configuredModel config "llama3.2"

def wireMessage (role content : JsString) : Json ν :=
  .object [field "role" (.string role), field "content" (.string content)]

/-- A conversation that is empty becomes a blank turn. -/
def wireMessages (request : CompletionRequest ν) : List (Json ν) :=
  let messages := ((trimmed request.systemPrompt).map (wireMessage (js "system"))).toList ++
    request.messages.map fun message => wireMessage message.role message.content
  if messages.length = 0 then [wireMessage (js "user") (js " ")] else messages

def options (request : CompletionRequest ν) : Fields ν :=
  assign (fieldOf "temperature" (request.temperature.map .number) ++
      fieldOf "num_predict" (request.maxTokens.map fun n => .number (ofInt n)))
    (assignable request.modelParams)

def buildChatPayload (config : AdapterConfig) (request : CompletionRequest ν) (stream : Bool) :
    Fields ν :=
  let options := options ofInt request
  [field "model" (.string (targetModel request (defaultModel config))),
    field "messages" (.array (wireMessages request)), field "stream" (.bool stream)] ++
    fieldOf "options" (if options.length > 0 then some (.object options) else none)

end Ollama

end Glassbeetle.WirePayloads
