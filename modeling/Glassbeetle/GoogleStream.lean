import Glassbeetle.AdapterStreams

set_option autoImplicit false

namespace Glassbeetle.GoogleStream
open JsText JsValue AdapterTypes LineStream AdapterStreams

variable {ν : Type} [JsNumber ν]

def mapFinishReason (finishReason : Value ν) : FinishReason :=
  if isText finishReason "STOP" then .stop
  else if isText finishReason "MAX_TOKENS" then .length
  else if ["SAFETY", "RECITATION", "BLOCKLIST", "PROHIBITED_CONTENT", "SPII"].any
      (isText finishReason) then .contentFilter
  else .other

/-- The status is the upstream's `error.code` where it has one, whatever that is. -/
def mapErrorByStatus (settings : AdapterSettings ν) (status upstreamMessage : Json ν)
    (upstreamStatus : Value ν) : Except TypeError ModelAdapterError := do
  let safeMessage ← sanitizeCredentials settings upstreamMessage
  let lowerMsg ← lowerCase settings safeMessage
  let kind := some (js "google")
  let isStatus := fun n : ℕ => isCount (some status) n
  if isStatus 401 || isStatus 403 || isText upstreamStatus "UNAUTHENTICATED" ||
      isText upstreamStatus "PERMISSION_DENIED" || includes lowerMsg (js "api key not valid") ||
      includes lowerMsg (js "api_key_invalid") then
    return authenticationError
      (js "Google Gemini authentication failed: " ++ (← toText safeMessage)) kind
  else if isStatus 404 || isText upstreamStatus "NOT_FOUND" then
    return modelNotFoundError settings.defaultModel kind
  else if isStatus 429 || isText upstreamStatus "RESOURCE_EXHAUSTED" then
    return rateLimitError (js "Google Gemini rate limit exceeded: " ++ (← toText safeMessage)) kind
  else if isStatus 400 || isText upstreamStatus "INVALID_ARGUMENT" then
    if includes lowerMsg (js "context") || includes lowerMsg (js "token count") ||
        includes lowerMsg (js "maximum token") || includes lowerMsg (js "input token limit") then
      return contextLengthExceededError (← toText safeMessage) kind
    else
      return invalidRequestError
        (js "Google Gemini rejected request: " ++ (← toText safeMessage)) kind
  else if isStatus 500 || isStatus 502 || isStatus 503 || isStatus 504 ||
      isText upstreamStatus "UNAVAILABLE" || isText upstreamStatus "INTERNAL" ||
      isText upstreamStatus "DEADLINE_EXCEEDED" then
    return providerUnavailableError (js "Google Gemini service unavailable (HTTP " ++
      (← toText status) ++ js "): " ++ (← toText safeMessage)) kind
  else
    return providerUnavailableError (js "Google Gemini error (HTTP " ++ (← toText status) ++
      js "): " ++ (← toText safeMessage)) kind

def isBlocking (rating : Json ν) : Except TypeError Bool := do
  let blocked ← get (some rating) "blocked"
  let probability := optional (some rating) "probability"
  return truthy blocked || isText probability "HIGH" || isText probability "MEDIUM"

def describeRating (rating : Json ν) : Except TypeError JsString := do
  return (← template (optional (some rating) "category")) ++ js " (" ++
    (← template (optional (some rating) "probability")) ++ js ")"

def createSafetyBlockedError (reason ratings : Value ν) : Except TypeError ModelAdapterError := do
  let blockedCategories ← match ratings with
    | none | some .null => .ok []
    | some (.array ratings) => do
      let blocking ← ratings.filterM isBlocking
      pure (join (js ", ") (← blocking.mapM describeRating))
    | _ => .error (.notFunction (js "filter"))
  let detailStr := if blockedCategories = [] then [] else js ": " ++ blockedCategories
  return invalidRequestError (js "Gemini generation was blocked by safety filters (" ++
    (← template reason) ++ js ")" ++ detailStr ++ js ".") (some (js "google"))

def readPart (part : Json ν) : Except TypeError (List (Event ν)) := do
  let thought ← get (some part) "thought"
  return match present (optional (some part) "text") with
    | some text => if truthy thought then [.thoughtDelta text] else [.textDelta text]
    | none => []

def readCandidate (parsed : Value ν) (ctx : ReplyContext ν) :
    Except TypeError (List (Event ν) × ReplyContext ν) := do
  let candidate := first (optional parsed "candidates")
  let reason := optional candidate "finishReason"
  if ["SAFETY", "BLOCKLIST", "PROHIBITED_CONTENT", "SPII"].any (isText reason) then
    return ([.error (← createSafetyBlockedError reason (optional candidate "safetyRatings"))], ctx)
  else
    let deltas ← match present (optional (optional candidate "content") "parts") with
      | some parts => do pure (← (← iterate (some parts)).mapM readPart).flatten
      | none => pure []
    let ctx := if truthy reason then { ctx with finishReason := mapFinishReason reason } else ctx
    match present (optional parsed "usageMetadata") with
    | none => return (deltas, ctx)
    | some usage =>
      let ctx := ctx.onUsage (optional (some usage) "promptTokenCount")
        (optional (some usage) "candidatesTokenCount")
      return (deltas ++ [.usage (← ctx.getUsage)], ctx)

def parseSseChunk (settings : AdapterSettings ν) (ctx : ReplyContext ν) (dataStr : JsString) :
    Except TypeError (List (Event ν) × ReplyContext ν) := do
  let trimmed := trim dataStr
  if trimmed = [] then return ([], ctx)
  else if trimmed = js "[DONE]" then
    let ctx := { ctx with completed := true }
    return ([← ctx.complete], ctx)
  else match settings.parseJson trimmed with
    | none => return ([], ctx)
    | some parsed =>
      let error ← get (some parsed) "error"
      if truthy error then
        let errStatus := orElse (optional error "status") (some (.string []))
        let errMsg :=
          (present (optional error "message")).getD (.string (js "Gemini streaming error"))
        let code := (coalesce (optional error "code") none).getD (.number (JsNumber.ofNat 500))
        return ([.error (← mapErrorByStatus settings code errMsg errStatus)], ctx)
      else
        let ctx := match present (optional (some parsed) "modelVersion") with
          | some model => { ctx with model := some model }
          | none => ctx
        let feedback := optional (some parsed) "promptFeedback"
        if truthy (optional feedback "blockReason") then
          return ([.error (← createSafetyBlockedError (optional feedback "blockReason")
            (optional feedback "safetyRatings"))], ctx)
        else readCandidate (some parsed) ctx

def failure (settings : AdapterSettings ν) : TypeError → Ending :=
  failed settings "Gemini" (js "google")

def consumer (settings : AdapterSettings ν) :
    Consumer (SseState (ReplyContext ν)) (Event ν) Ending :=
  ⟨sseLine (parseSseChunk settings) (failure settings),
    sseLast (parseSseChunk settings) (failure settings) ReplyContext.final⟩

def stream (settings : AdapterSettings ν) (model : Option JsString) (reads : List (List UInt8)) :
    List (Event ν) × Ending :=
  readLoop (consumer settings) ⟨[], .start settings model⟩ []
    (TextDecoder.texts TextDecoder.fresh reads)

end Glassbeetle.GoogleStream
