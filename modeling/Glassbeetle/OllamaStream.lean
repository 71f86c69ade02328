import Glassbeetle.AdapterStreams

set_option autoImplicit false

namespace Glassbeetle.OllamaStream
open JsText JsValue AdapterTypes LineStream AdapterStreams

variable {ν : Type} [JsNumber ν]

def mapDoneReason (doneReason : Value ν) : FinishReason :=
  if isText doneReason "stop" then .stop
  else if isText doneReason "length" then .length
  else .stop

def isQuote (c : CodeUnit) : Bool := c = 0x27 || c = 0x22

/-- `/model ['"]([^'"]+)['"] not found/i` at the start of the text. -/
def quotedModelHere (s : JsString) : Option JsString :=
  match afterText (js "model ") s with
  | some (quote :: rest) =>
    let name := rest.takeWhile fun c => !isQuote c
    if isQuote quote ∧ name ≠ [] then
      match rest.drop name.length with
      | _ :: rest => (afterText (js " not found") rest).map fun _ => name
      | [] => none
    else none
  | _ => none

def quotedModel (s : JsString) : Option JsString := s.tails.findSome? quotedModelHere

def mapError (settings : AdapterSettings ν) (status : ℕ) (message : Json ν)
    (requestedModel : JsString) : Except TypeError ModelAdapterError := do
  let safe ← sanitizeCredentials settings message
  let lower ← lowerCase settings safe
  let safeMessage ← toText safe
  let kind := some (js "ollama")
  let modelName := if requestedModel = [] then settings.defaultModel else requestedModel
  if status = 404 ∨ includes lower (js "not found") ∨ includes lower (js "try pulling") then
    return modelNotFoundError ((quotedModel safeMessage).getD modelName) kind
  else if includes lower (js "loading") ∨ includes lower (js "busy") then
    return providerUnavailableError (js "Model \"" ++ modelName ++
      js "\" is still loading into memory. Please wait a moment and try again.") kind
  else if includes lower (js "context length") ∨ includes lower (js "token limit") ∨
      includes lower (js "too many tokens") then
    return contextLengthExceededError safeMessage kind
  else if status = 429 then
    return rateLimitError (js "Ollama rate limit exceeded: " ++ safeMessage) kind
  else if status = 400 then
    return invalidRequestError (js "Ollama rejected request: " ++ safeMessage) kind
  else
    return providerUnavailableError
      (js "Ollama error (HTTP " ++ decimal status ++ js "): " ++ safeMessage) kind

structure State (ν : Type) where
  model : Value ν
  finishReason : FinishReason
  currentUsage : Option (TokenUsage (Json ν))

def readUsage (chunk : Value ν) : Except TypeError (Option (TokenUsage (Json ν))) :=
  match optional chunk "prompt_eval_count", optional chunk "eval_count" with
  | none, none => .ok none
  | inTok, outTok => do
    let total ← plus (orZero inTok) (orZero outTok)
    return some ⟨orZero inTok, orZero outTok, total, none⟩

def failure (settings : AdapterSettings ν) : TypeError → Ending :=
  failed settings "Ollama" (js "ollama")

def text (chunk : Value ν) : List (Event ν) :=
  (present (optional (optional chunk "message") "content")).toList.map .textDelta

/-- `chunk.message?.thinking || chunk.message?.reasoning_content` -/
def thinking (chunk : Value ν) : List (Event ν) :=
  let message := optional chunk "message"
  (present (orElse (optional message "thinking")
    (optional message "reasoning_content"))).toList.map .thoughtDelta

/-- A chunk of a complete line. What precedes a throw has been yielded. -/
def readChunk (settings : AdapterSettings ν) (status : ℕ) (targetModel : JsString)
    (state : State ν) (chunk : Json ν) : List (Event ν) × Except Ending (State ν) :=
  match get (some chunk) "error" with
  | .error e => ([], .error (failure settings e))
  | .ok error =>
    let chunk := some chunk
    match present error with
    | some error =>
      match mapError settings status error targetModel with
      | .error e => ([], .error (failure settings e))
      | .ok mapped => ([.error mapped], .error .returned)
    | none =>
      let model := (present (optional chunk "model")).or state.model
      let deltas := thinking chunk ++ text chunk
      let reason := optional chunk "done_reason"
      let finishReason := if truthy reason then mapDoneReason reason else state.finishReason
      match readUsage chunk with
      | .error e => (deltas, .error (failure settings e))
      | .ok usage =>
        let currentUsage := usage.or state.currentUsage
        let events := deltas ++ usage.toList.map .usage
        if truthy (optional chunk "done") then
          (events ++ [.complete finishReason currentUsage model], .error .returned)
        else (events, .ok ⟨model, finishReason, currentUsage⟩)

def line (settings : AdapterSettings ν) (status : ℕ) (targetModel : JsString) (state : State ν)
    (line : JsString) : List (Event ν) × Except Ending (State ν) :=
  let trimmed := trim line
  if trimmed = [] then ([], .ok state)
  else match settings.parseJson trimmed with
    | none => ([], .ok state)
    | some chunk => readChunk settings status targetModel state chunk

/-- The trailing line is read by fewer rules, and whatever it throws is ignored. -/
def last (settings : AdapterSettings ν) (state : State ν) (buffer : JsString) :
    List (Event ν) × Ending :=
  let final := fun usage : Option (TokenUsage (Json ν)) =>
    StreamEvent.complete state.finishReason usage state.model
  let unread := ([final state.currentUsage], Ending.returned)
  if trim buffer = [] then unread
  else match settings.parseJson (trim buffer) with
    | none => unread
    | some chunk =>
      match get (some chunk) "message" with
      | .error _ => unread
      | .ok _ =>
        let chunk := some chunk
        match readUsage chunk with
        | .error _ => (text chunk ++ [final state.currentUsage], .returned)
        | .ok usage =>
          let currentUsage := usage.or state.currentUsage
          let events := text chunk ++ usage.toList.map .usage
          if truthy (optional chunk "done") then
            (events ++ [.complete (mapDoneReason (optional chunk "done_reason")) currentUsage
              ((present (optional chunk "model")).or state.model)], .returned)
          else (events ++ [final currentUsage], .returned)

def consumer (settings : AdapterSettings ν) (status : ℕ) (targetModel : JsString) :
    Consumer (State ν) (Event ν) Ending :=
  ⟨line settings status targetModel, last settings⟩

def stream (settings : AdapterSettings ν) (status : ℕ) (model : Option JsString)
    (reads : List (List UInt8)) : List (Event ν) × Ending :=
  let targetModel := requestedModel settings model
  readLoop (consumer settings status targetModel) ⟨some (.string targetModel), .stop, none⟩ []
    (TextDecoder.texts TextDecoder.fresh reads)

end Glassbeetle.OllamaStream
