import Glassbeetle.AdapterStreams

set_option autoImplicit false

namespace Glassbeetle.OpenAiStream
open JsText JsValue AdapterTypes LineStream AdapterStreams

variable {ν : Type} [JsNumber ν]

def mapFinishReason (reason : Value ν) : FinishReason :=
  if isText reason "stop" then .stop
  else if isText reason "length" then .length
  else if isText reason "tool_calls" || isText reason "function_call" then .toolCalls
  else if isText reason "content_filter" then .contentFilter
  else .other

def mapErrorByTypeAndStatus (settings : AdapterSettings ν) (upstreamType : Value ν)
    (upstreamCode : JsString) (upstreamMessage : Json ν) (status : ℕ) :
    Except TypeError ModelAdapterError := do
  let safeMessage ← sanitizeCredentials settings upstreamMessage
  let kind := some settings.providerKind
  if status = 401 ∨ status = 403 ∨ upstreamCode = js "invalid_api_key" ∨
      isText upstreamType "invalid_auth" then
    return authenticationError (js "OpenAI authentication failed: " ++ (← toText safeMessage)) kind
  -- `||` looks at the message only where the rest is false
  let missing ← if status = 404 ∨ upstreamCode = js "model_not_found" then .ok true
    else valueIncludes safeMessage "does not exist"
  if missing then return modelNotFoundError settings.defaultModel kind
  else if status = 429 ∨ upstreamCode = js "insufficient_quota" ∨
      upstreamCode = js "rate_limit_exceeded" ∨ isText upstreamType "insufficient_quota" then
    return rateLimitError (js "OpenAI rate limit exceeded: " ++ (← toText safeMessage)) kind
  else if status = 400 ∨ isText upstreamType "invalid_request_error" then
    let long ← if upstreamCode = js "context_length_exceeded" then .ok true
      else do
        let lower ← lowerCase settings safeMessage
        pure (includes lower (js "maximum context length") ||
          includes lower (js "context length") || includes lower (js "too long"))
    if long then return contextLengthExceededError (← toText safeMessage) kind
    else return invalidRequestError (js "OpenAI rejected request: " ++ (← toText safeMessage)) kind
  else if status = 405 ∨ status = 501 then
    return unsupportedCapabilityError (js "OpenAI endpoint not supported (HTTP " ++
      decimal status ++ js "): " ++ (← toText safeMessage)) kind
  else if status = 500 ∨ status = 502 ∨ status = 503 ∨ status = 504 then
    return providerUnavailableError (js "OpenAI service unavailable (HTTP " ++ decimal status ++
      js "): " ++ (← toText safeMessage)) kind
  else return providerUnavailableError (js "OpenAI error (HTTP " ++ decimal status ++ js "): " ++
      (← toText safeMessage)) kind

structure Context (ν : Type) where
  model : Value ν
  finishReason : FinishReason
  currentUsage : Option (TokenUsage (Json ν))
  completed : Bool

def Context.complete (ctx : Context ν) : Event ν :=
  .complete ctx.finishReason ctx.currentUsage ctx.model

def readUsage (usage : Value ν) : Except TypeError (TokenUsage (Json ν)) := do
  let inTok := orZero (optional usage "prompt_tokens")
  let outTok := orZero (optional usage "completion_tokens")
  let totTok ← match coalesce (optional usage "total_tokens") none with
    | some total => .ok total
    | none => plus inTok outTok
  let rTok := coalesce (optional (optional usage "completion_tokens_details") "reasoning_tokens")
    (optional (optional usage "prompt_tokens_details") "reasoning_tokens")
  return ⟨inTok, outTok, totTok, rTok⟩

def readChoice (progress : List (Event ν) × Context ν) (choice : Json ν) :
    Except TypeError (List (Event ν) × Context ν) := do
  let (events, ctx) := progress
  let delta ← get (some choice) "delta"
  let text := (present (optional delta "content")).toList.map .textDelta
  let thought := (present (optional delta "reasoning_content")).toList.map .thoughtDelta
  let reason := optional (some choice) "finish_reason"
  let ctx := if truthy reason then { ctx with finishReason := mapFinishReason reason } else ctx
  return (events ++ text ++ thought, ctx)

def parseSseData (settings : AdapterSettings ν) (ctx : Context ν) (dataStr : JsString) :
    Except TypeError (List (Event ν) × Context ν) := do
  let trimmed := trim dataStr
  if trimmed = [] then return ([], ctx)
  else if trimmed = js "[DONE]" then
    let ctx := { ctx with completed := true }
    return ([ctx.complete], ctx)
  else match settings.parseJson trimmed with
    | none => return ([], ctx)
    | some parsed =>
      let error ← get (some parsed) "error"
      if truthy error then
        let errType := orElse (optional error "type") (some (.string (js "error")))
        let errCode ← match present (optional error "code") with
          | some code => toText code
          | none => .ok []
        let errMsg := (present (optional error "message")).getD (.string (js "Streaming error"))
        return ([.error (← mapErrorByTypeAndStatus settings errType errCode errMsg 500)], ctx)
      else
        let ctx := match present (optional (some parsed) "model") with
          | some model => { ctx with model := some model }
          | none => ctx
        let progress ← match present (optional (some parsed) "usage") with
          | some usage => do
            let usage ← readUsage (some usage)
            pure ([.usage usage], { ctx with currentUsage := some usage })
          | none => pure ([], ctx)
        let choices ← iterate (coalesce (optional (some parsed) "choices") (some (.array [])))
        choices.foldlM readChoice progress

def failure (settings : AdapterSettings ν) : TypeError → Ending :=
  failed settings "OpenAI" settings.providerKind

def final (ctx : Context ν) : Except TypeError (List (Event ν)) :=
  .ok (if ctx.completed then [] else [ctx.complete])

def consumer (settings : AdapterSettings ν) :
    Consumer (SseState (Context ν)) (Event ν) Ending :=
  ⟨sseLine (parseSseData settings) (failure settings),
    sseLast (parseSseData settings) (failure settings) final⟩

def stream (settings : AdapterSettings ν) (model : Option JsString) (reads : List (List UInt8)) :
    List (Event ν) × Ending :=
  readLoop (consumer settings)
    ⟨[], some (.string (requestedModel settings model)), .stop, none, false⟩ []
    (TextDecoder.texts TextDecoder.fresh reads)

end Glassbeetle.OpenAiStream
