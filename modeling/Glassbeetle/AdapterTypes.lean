import Glassbeetle.JsText

set_option autoImplicit false

/-!
# What adapters report

Text and token counts are parameters: the wire hands over arbitrary JSON values
where the interface declares strings and numbers.
-/
namespace Glassbeetle.AdapterTypes
open JsText

/-- The adapters that are registered; three provider kinds share OpenAI's. -/
inductive AdapterKind where
  | anthropic
  | openAi
  | google
  | ollama
  deriving DecidableEq, Repr

inductive FinishReason where
  | stop
  | length
  | toolCalls
  | contentFilter
  | abort
  | other
  deriving DecidableEq, Repr

structure TokenUsage (κ : Type) where
  inputTokens : κ
  outputTokens : κ
  totalTokens : κ
  reasoningTokens : Option κ
  deriving DecidableEq, Repr

inductive ModelAdapterErrorCode where
  | authenticationFailed
  | rateLimitExceeded
  | invalidRequest
  | modelNotFound
  | contextLengthExceeded
  | providerUnavailable
  | requestAborted
  | unsupportedProviderKind
  | unsupportedCapability
  deriving DecidableEq, Repr

structure ModelAdapterError where
  message : JsString
  code : ModelAdapterErrorCode
  statusCode : ℕ
  retryable : Bool
  providerKind : Option JsString
  modelIdentifier : Option JsString
  isCancellation : Bool
  deriving DecidableEq, Repr

def authenticationError (message : JsString) (providerKind : Option JsString) : ModelAdapterError :=
  ⟨message, .authenticationFailed, 502, false, providerKind, none, false⟩

def rateLimitError (message : JsString) (providerKind : Option JsString) : ModelAdapterError :=
  ⟨message, .rateLimitExceeded, 429, true, providerKind, none, false⟩

def invalidRequestError (message : JsString) (providerKind : Option JsString) : ModelAdapterError :=
  ⟨message, .invalidRequest, 400, false, providerKind, none, false⟩

/-- ` "${providerKind}"` where there is one. -/
def quotedKind (providerKind : Option JsString) : JsString :=
  match providerKind with
  | none | some [] => []
  | some kind => js " \"" ++ kind ++ js "\""

def modelNotFoundError (modelIdentifier : JsString) (providerKind : Option JsString) :
    ModelAdapterError :=
  ⟨js "Model \"" ++ modelIdentifier ++ js "\" was not found for provider" ++
    quotedKind providerKind ++ js ".",
    .modelNotFound, 404, false, providerKind, some modelIdentifier, false⟩

def contextLengthExceededError (message : JsString) (providerKind : Option JsString) : ModelAdapterError :=
  ⟨message, .contextLengthExceeded, 413, false, providerKind, none, false⟩

def providerUnavailableError (message : JsString) (providerKind : Option JsString) : ModelAdapterError :=
  ⟨message, .providerUnavailable, 503, true, providerKind, none, false⟩

def requestAbortedError (message : JsString) (providerKind : Option JsString) : ModelAdapterError :=
  ⟨message, .requestAborted, 499, false, providerKind, none, true⟩

def unsupportedCapabilityError (capability : JsString) (providerKind : Option JsString) :
    ModelAdapterError :=
  ⟨js "Provider" ++ quotedKind providerKind ++ js " does not support capability: " ++ capability ++
    js ".",
    .unsupportedCapability, 400, false, providerKind, none, false⟩

inductive StreamEvent (τ κ : Type) where
  | textDelta (delta : τ)
  | thoughtDelta (delta : τ)
  | usage (usage : TokenUsage κ)
  | complete (finishReason : FinishReason) (usage : Option (TokenUsage κ)) (model : Option τ)
  | error (error : ModelAdapterError)
  deriving DecidableEq, Repr

variable {τ κ : Type}

def StreamEvent.terminal : StreamEvent τ κ → Bool
  | .complete .. | .error _ => true
  | _ => false

end Glassbeetle.AdapterTypes
