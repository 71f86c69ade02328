import Glassbeetle.AdapterStreams

set_option autoImplicit false

namespace Glassbeetle.AnthropicStream
open JsText JsValue AdapterTypes LineStream AdapterStreams

variable {ν : Type} [JsNumber ν]

def mapFinishReason (stopReason : Value ν) : FinishReason :=
  if isText stopReason "end_turn" || isText stopReason "stop_sequence" then .stop
  else if isText stopReason "max_tokens" then .length
  else if isText stopReason "tool_use" then .toolCalls
  else .other

def mapErrorByTypeAndStatus (settings : AdapterSettings ν) (upstreamType : Value ν)
    (upstreamMessage : Json ν) (status : ℕ) : Except TypeError ModelAdapterError := do
  let safeMessage ← sanitizeCredentials settings upstreamMessage
  let kind := some (js "anthropic")
  if status = 401 ∨ status = 403 ∨ isText upstreamType "authentication_error" then
    return authenticationError (js "Anthropic authentication failed: " ++ (← toText safeMessage)) kind
  else if status = 404 ∨ isText upstreamType "not_found_error" then
    return modelNotFoundError settings.defaultModel kind
  else if status = 429 ∨ isText upstreamType "rate_limit_error" then
    return rateLimitError (js "Anthropic rate limit exceeded: " ++ (← toText safeMessage)) kind
  else if status = 400 ∨ isText upstreamType "invalid_request_error" then
    let lower ← lowerCase settings safeMessage
    if includes lower (js "prompt is too long") || includes lower (js "context") ||
        includes lower (js "maximum context length") then
      return contextLengthExceededError (← toText safeMessage) kind
    else return invalidRequestError (js "Anthropic rejected request: " ++ (← toText safeMessage)) kind
  else if status = 529 ∨ isText upstreamType "overloaded_error" then
    return providerUnavailableError
      (js "Anthropic is currently overloaded (529): " ++ (← toText safeMessage)) kind
  else if status = 500 ∨ status = 502 ∨ status = 503 ∨ status = 504 then
    return providerUnavailableError (js "Anthropic service unavailable (HTTP " ++ decimal status ++
      js "): " ++ (← toText safeMessage)) kind
  else return providerUnavailableError (js "Anthropic error (HTTP " ++ decimal status ++ js "): " ++
      (← toText safeMessage)) kind

def messageStart (parsed : Value ν) (ctx : ReplyContext ν) :
    Except TypeError (List (Event ν) × ReplyContext ν) := do
  let message := optional parsed "message"
  let ctx := match present (optional message "model") with
    | some model => { ctx with model := some model }
    | none => ctx
  if truthy (optional message "usage") then
    let usage := optional message "usage"
    let ctx := ctx.onUsage (some (orZero (optional usage "input_tokens")))
      (some (orZero (optional usage "output_tokens")))
    return ([.usage (← ctx.getUsage)], ctx)
  else return ([], ctx)

def contentBlockDelta (parsed : Value ν) : List (Event ν) :=
  let delta := optional parsed "delta"
  match isText (optional delta "type") "text_delta", optional delta "text" with
  | true, some (.string text) => [.textDelta (.string text)]
  | _, _ =>
    match isText (optional delta "type") "thinking_delta", optional delta "thinking" with
    | true, some (.string thinking) => [.thoughtDelta (.string thinking)]
    | _, _ => []

def messageDelta (parsed : Value ν) (ctx : ReplyContext ν) :
    Except TypeError (List (Event ν) × ReplyContext ν) := do
  let stopReason := optional (optional parsed "delta") "stop_reason"
  let ctx := if truthy stopReason then { ctx with finishReason := mapFinishReason stopReason }
    else ctx
  match optional (optional parsed "usage") "output_tokens" with
  | none => return ([], ctx)
  | some outputTokens =>
    let ctx := ctx.onUsage none (some outputTokens)
    return ([.usage (← ctx.getUsage)], ctx)

def parseSseEvent (settings : AdapterSettings ν) (eventName : JsString) (ctx : ReplyContext ν)
    (dataStr : JsString) : Except TypeError (List (Event ν) × ReplyContext ν) := do
  let trimmed := trim dataStr
  if trimmed = js "[DONE]" then
    let ctx := { ctx with completed := true }
    return ([← ctx.complete], ctx)
  else if trimmed = [] then return ([], ctx)
  else match settings.parseJson trimmed with
    | none => return ([], ctx)
    | some parsed =>
      let type ← if eventName = [] then get (some parsed) "type" else .ok (some (.string eventName))
      if isText type "message_start" then
        -- under a named event the payload can be `null`, which only reading from it shows
        let _ ← get (some parsed) "message"
        messageStart (some parsed) ctx
      else if isText type "content_block_delta" then
        let _ ← get (some parsed) "delta"
        return (contentBlockDelta (some parsed), ctx)
      else if isText type "message_delta" then
        let _ ← get (some parsed) "delta"
        messageDelta (some parsed) ctx
      else if isText type "message_stop" then
        let ctx := { ctx with completed := true }
        return ([← ctx.complete], ctx)
      else if isText type "error" then
        let error ← get (some parsed) "error"
        let errType := orElse (optional error "type") (some (.string (js "error")))
        let errMsg := (present (optional error "message")).getD (.string (js "Streaming error"))
        return ([.error (← mapErrorByTypeAndStatus settings errType errMsg 500)], ctx)
      else return ([], ctx)

structure State (ν : Type) where
  currentEvent : JsString
  dataLines : List JsString
  context : ReplyContext ν

/-- Unlike the other adapters, this one reads on after a `complete` or an `error`. -/
def line (settings : AdapterSettings ν) (state : State ν) (line : JsString) :
    List (Event ν) × Except Ending (State ν) :=
  if trim line = [] then
    if state.dataLines = [] ∧ state.currentEvent = [] then ([], .ok state)
    else
      match parseSseEvent settings state.currentEvent state.context
          (join (js "\n") state.dataLines) with
      | .error e => ([], .error (failed settings "Anthropic" (js "anthropic") e))
      | .ok (events, context) => (events, .ok ⟨[], [], context⟩)
  else if startsWith line (js ":") then ([], .ok state)
  else if startsWith line (js "event:") then
    ([], .ok { state with currentEvent := trim (line.drop 6) })
  else if startsWith line (js "data:") then
    ([], .ok { state with dataLines := state.dataLines ++ [trimStart (line.drop 5)] })
  else ([], .ok state)

def last (settings : AdapterSettings ν) (state : State ν) (buffer : JsString) :
    List (Event ν) × Ending :=
  let trailing := trim buffer
  let state :=
    if startsWith trailing (js "event:") then
      { state with currentEvent := trim (trailing.drop 6) }
    else if startsWith trailing (js "data:") then
      { state with dataLines := state.dataLines ++ [trimStart (trailing.drop 5)] }
    else if trailing ≠ [] ∧ ¬startsWith trailing (js ":") then
      { state with dataLines := state.dataLines ++ [trailing] }
    else state
  let parsed := if state.dataLines = [] then .ok ([], state.context)
    else parseSseEvent settings state.currentEvent state.context (join (js "\n") state.dataLines)
  match parsed with
  | .error e => ([], failed settings "Anthropic" (js "anthropic") e)
  | .ok (events, context) =>
    match context.final with
    | .error e => (events, failed settings "Anthropic" (js "anthropic") e)
    | .ok final => (events ++ final, .returned)

def consumer (settings : AdapterSettings ν) : Consumer (State ν) (Event ν) Ending :=
  ⟨line settings, last settings⟩

def stream (settings : AdapterSettings ν) (model : Option JsString) (reads : List (List UInt8)) :
    List (Event ν) × Ending :=
  readLoop (consumer settings) ⟨[], [], .start settings model⟩ []
    (TextDecoder.texts TextDecoder.fresh reads)

end Glassbeetle.AnthropicStream
