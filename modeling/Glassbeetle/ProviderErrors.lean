import Glassbeetle.Redaction

set_option autoImplicit false

/-!
# What leaves a provider's failure

`http-mapping.ts`, and the blocks of the inference and model services that catch
what an adapter throws.
-/
namespace Glassbeetle.ProviderErrors
open JsText Redaction

inductive ModelAdapterErrorCode where
  | authenticationFailed
  | authorizationFailed
  | rateLimitExceeded
  | invalidRequest
  | modelNotFound
  | contentFiltered
  | contextLengthExceeded
  | providerUnavailable
  | connectionFailed
  | requestTimeout
  | requestAborted
  | unsupportedProviderKind
  | unsupportedCapability
  | unknownError
  deriving DecidableEq, Repr

def ModelAdapterErrorCode.text : ModelAdapterErrorCode → JsString
  | .authenticationFailed => js "AUTHENTICATION_FAILED"
  | .authorizationFailed => js "AUTHORIZATION_FAILED"
  | .rateLimitExceeded => js "RATE_LIMIT_EXCEEDED"
  | .invalidRequest => js "INVALID_REQUEST"
  | .modelNotFound => js "MODEL_NOT_FOUND"
  | .contentFiltered => js "CONTENT_FILTERED"
  | .contextLengthExceeded => js "CONTEXT_LENGTH_EXCEEDED"
  | .providerUnavailable => js "PROVIDER_UNAVAILABLE"
  | .connectionFailed => js "CONNECTION_FAILED"
  | .requestTimeout => js "REQUEST_TIMEOUT"
  | .requestAborted => js "REQUEST_ABORTED"
  | .unsupportedProviderKind => js "UNSUPPORTED_PROVIDER_KIND"
  | .unsupportedCapability => js "UNSUPPORTED_CAPABILITY"
  | .unknownError => js "UNKNOWN_ERROR"

/-- An `Error` of no class of the adapters'. -/
structure ErrorValue where
  name : JsString
  message : JsString
  stack : Option JsString
  /-- What the runtime's network errors have. -/
  code : Option JsString

inductive Cause where
  | error (error : ErrorValue)
  | text (text : JsString)

structure ModelAdapterError where
  message : JsString
  code : ModelAdapterErrorCode
  statusCode : ℕ
  retryable : Bool
  providerKind : Option JsString
  modelIdentifier : Option JsString
  retryAfterSeconds : Option ℤ
  isCancellation : Bool
  cause : Option Cause

/-- What an adapter throws. -/
inductive Failure where
  | adapter (error : ModelAdapterError)
  | error (error : ErrorValue)
  /-- An `HttpException`, which is an `Error` with a cause of its own. -/
  | http (error : ErrorValue) (cause : Option Cause)
  | text (text : JsString)

/-- The new error has a trace of its own where the old one has none. -/
def sanitizeErrorCause (cause : Cause) (knownSecrets : List JsString) : Cause :=
  match cause with
  | .error error => .error {
      name := error.name
      message := redactSecrets error.message knownSecrets
      stack := (error.stack.filter (· ≠ [])).map fun stack => redactSecrets stack knownSecrets
      code := none }
  | .text text => .text (redactSecrets text knownSecrets)

structure StreamErrorPayload where
  code : ModelAdapterErrorCode
  message : JsString
  retryable : Bool
  providerKind : Option JsString
  model : Option JsString
  retryAfterSeconds : Option ℤ

/-- `toStreamErrorPayload` of an adapter's error; the service passes no other. -/
def toStreamErrorPayload (error : ModelAdapterError) : StreamErrorPayload where
  code := error.code
  message := error.message
  retryable := error.retryable
  providerKind := error.providerKind.filter (· ≠ [])
  model := error.modelIdentifier.filter (· ≠ [])
  retryAfterSeconds := error.retryAfterSeconds

/-- What the service passes: no status, body, message or headers. The cause is no adapter's error. -/
structure NormalizeProviderErrorInput where
  providerKind : JsString
  model : Option JsString
  cause : Cause
  knownSecrets : List JsString

def Cause.name : Cause → Option JsString
  | .error e => some e.name
  | .text _ => none

def Cause.code : Cause → Option JsString
  | .error e => e.code
  | .text _ => none

def Cause.message : Cause → JsString
  | .error e => e.message
  | .text t => t

def connectionMessage (providerKind : JsString) : JsString :=
  if providerKind = js "ollama" then
    js "Ollama is not running at http://localhost:11434. Please ensure the Ollama daemon is started."
  else js "Failed to connect to " ++ (providerKind ++ js " endpoint. Check network connectivity.")

def notFoundMessage (providerKind : JsString) (model : Option JsString) : JsString :=
  if providerKind = js "ollama" ∧ (model.filter (· ≠ [])).isSome then
    js "Model \"" ++ (model.getD [] ++ (js "\" is not installed in Ollama. Run 'ollama pull " ++
      (model.getD [] ++ js "' to install it.")))
  else js "Model \"" ++ (model.getD (js "unknown") ++ (js "\" was not found for provider \"" ++
    (providerKind ++ js "\".")))

variable (toLowerCase : JsString → JsString)

def mentions (text : JsString) (words : List JsString) : Bool :=
  words.any fun word => includes (toLowerCase text) word

def normalizeProviderError (input : NormalizeProviderErrorInput) : ModelAdapterError :=
  let kind := input.providerKind
  let causeCode := input.cause.code
  let causeMsg := input.cause.message
  let normalized (code : ModelAdapterErrorCode) (statusCode : ℕ) (retryable : Bool)
      (message : JsString) : ModelAdapterError :=
    ⟨message, code, statusCode, retryable, some kind, input.model, none, false,
      some (sanitizeErrorCause input.cause input.knownSecrets)⟩
  if input.cause.name = some (js "AbortError") ∨ causeCode = some (js "ABORT_ERR") then
    { normalized .requestAborted 499 false (js "The model request was aborted.") with
      isCancellation := true }
  else if causeCode ∈ [js "ECONNREFUSED", js "ENOTFOUND", js "ECONNRESET", js "EAI_AGAIN"].map some ∨
      mentions toLowerCase causeMsg [js "fetch failed", js "network error"] then
    normalized .connectionFailed 502 true (connectionMessage kind)
  else if causeCode = some (js "ETIMEDOUT") ∨
      mentions toLowerCase causeMsg [js "timed out", js "timeout"] then
    normalized .requestTimeout 504 true (js "Request to " ++ (kind ++ js " timed out."))
  else
    let safeMessage := redactSecrets (js "Provider request failed.") input.knownSecrets
    if mentions toLowerCase safeMessage [js "rate limit", js "resource_exhausted",
        js "insufficient_quota", js "quota exceeded"] then
      normalized .rateLimitExceeded 429 true (kind ++ (js " rate limit exceeded: " ++ safeMessage))
    else if mentions toLowerCase safeMessage
        [js "invalid_api_key", js "unauthenticated", js "api key not valid"] then
      if mentions toLowerCase safeMessage
          [js "permission_denied", js "unauthorized model", js "access not granted"] then
        normalized .authorizationFailed 502 false
          (kind ++ (js " authorization failed: " ++ safeMessage))
      else normalized .authenticationFailed 502 false
        (kind ++ (js " authentication failed: " ++ safeMessage))
    else if mentions toLowerCase safeMessage
        [js "not found", js "try pulling", js "does not exist"] then
      { normalized .modelNotFound 404 false (notFoundMessage kind input.model) with
        modelIdentifier := some (input.model.getD (js "unknown")) }
    else if mentions toLowerCase safeMessage [js "safety", js "blocked by safety",
        js "content filter", js "harm_category"] then
      normalized .contentFiltered 422 false
        (js "Generation was blocked by " ++ (kind ++ js " safety or moderation filters."))
    else normalized .unknownError 502 false (kind ++ (js " error: " ++ safeMessage))

/-- An empty key is no key. -/
def knownSecrets (apiKey : Option JsString) : List JsString := (apiKey.filter (· ≠ [])).toList

/-- `error.message` and `error.cause` are set where there is a key. -/
def redactError (apiKey : Option JsString) (error : ModelAdapterError) : ModelAdapterError :=
  if knownSecrets apiKey = [] then error
  else { error with
    message := redactSecrets error.message (knownSecrets apiKey)
    cause := error.cause.map fun cause => sanitizeErrorCause cause (knownSecrets apiKey) }

/-- The block that catches what an adapter throws. -/
def rethrown (apiKey : Option JsString) (providerKind : JsString) (model : Option JsString) :
    Failure → ModelAdapterError
  | .adapter error => redactError apiKey error
  | .error error | .http error _ =>
    normalizeProviderError toLowerCase ⟨providerKind, model, .error error, knownSecrets apiKey⟩
  | .text text =>
    normalizeProviderError toLowerCase ⟨providerKind, model, .text text, knownSecrets apiKey⟩

structure Provider where
  id : JsString
  kind : JsString

def completeChat (apiKey : Option JsString) (provider : Provider) (model : JsString) :
    Failure → ModelAdapterError := rethrown toLowerCase apiKey provider.kind (some model)

def executeMemberTurn (apiKey : Option JsString) (provider : Provider) (model : JsString) :
    Failure → ModelAdapterError := rethrown toLowerCase apiKey provider.kind (some model)

def compactChat (apiKey : Option JsString) (provider : Provider) (model : JsString) :
    Failure → ModelAdapterError := rethrown toLowerCase apiKey provider.kind (some model)

/-- An adapter's error has the name of its class, which is not that of an abort. -/
def isAborted (aborted : Bool) : Failure → Bool
  | .adapter error => aborted || error.code == .requestAborted ||
    includes (toLowerCase error.message) (js "abort")
  | .error error | .http error _ => aborted || error.name == js "AbortError" ||
    includes (toLowerCase error.message) (js "abort")
  | .text _ => aborted

def streamChat (aborted : Bool) (apiKey : Option JsString) (provider : Provider) (model : JsString)
    (failure : Failure) : Option StreamErrorPayload :=
  if isAborted toLowerCase aborted failure then none
  else some (toStreamErrorPayload (rethrown toLowerCase apiKey provider.kind (some model) failure))

/-- A team's turn asks for the signal only. -/
def streamMemberTurn (aborted : Bool) (apiKey : Option JsString) (provider : Provider)
    (model : JsString) (failure : Failure) : Option StreamErrorPayload :=
  if aborted then none
  else some (toStreamErrorPayload (rethrown toLowerCase apiKey provider.kind (some model) failure))

inductive DiscoveryError where
  | gatewayTimeout (message : JsString)
  | notImplemented (message : JsString)
  | http (error : ErrorValue) (cause : Option Cause)
  | adapter (error : ModelAdapterError)

def timeoutMessage (timeoutMs : ℕ) (provider : Provider) : JsString :=
  js "Model discovery timed out after " ++ (decimal timeoutMs ++ js "ms" ++
    (js " for provider '" ++ (provider.id ++ js "'")))

def isDeadline (timedOut : Bool) : Failure → Bool
  | .adapter error => timedOut || error.code == .requestAborted
  | .error error | .http error _ => timedOut || error.name == js "AbortError"
  | .text _ => timedOut

def isUnsupported : Failure → Bool
  | .adapter error => error.code == .unsupportedCapability
  | _ => false

/-- The block of `discover` that catches what `discoverModels` throws. -/
def discover (timedOut : Bool) (timeoutMs : ℕ) (apiKey : Option JsString) (provider : Provider)
    (failure : Failure) : DiscoveryError :=
  if isDeadline timedOut failure then .gatewayTimeout (timeoutMessage timeoutMs provider)
  else if isUnsupported failure then
    .notImplemented (js "Provider kind '" ++ (provider.kind ++
      js "' does not support model discovery"))
  else match failure with
    | .http error cause => .http error cause
    | failure => .adapter (rethrown toLowerCase apiKey provider.kind none failure)

/-! ## What a client or a log can read -/

def ErrorValue.texts (e : ErrorValue) : List JsString := e.name :: e.message :: e.stack.toList

def Cause.texts : Cause → List JsString
  | .error e => e.texts
  | .text t => [t]

def causeTexts (cause : Option Cause) : List JsString := (cause.map Cause.texts).getD []

def ModelAdapterError.texts (e : ModelAdapterError) : List JsString := e.message :: causeTexts e.cause

def StreamErrorPayload.texts (payload : StreamErrorPayload) : List JsString :=
  payload.code.text :: payload.message :: (payload.providerKind.toList ++ payload.model.toList)

def DiscoveryError.texts : DiscoveryError → List JsString
  | .gatewayTimeout message | .notImplemented message => [message]
  | .http e cause => e.message :: causeTexts cause
  | .adapter e => e.texts

def templates : List JsString :=
  [js "The model request was aborted.", js "Provider request failed.",
    js "Ollama is not running at http://localhost:11434. Please ensure the Ollama daemon is started.",
    js "Failed to connect to ", js " endpoint. Check network connectivity.", js "Request to ",
    js " timed out.", js " rate limit exceeded: ", js " authorization failed: ",
    js " authentication failed: ", js "unknown", js "Model \"",
    js "\" is not installed in Ollama. Run 'ollama pull ", js "' to install it.",
    js "\" was not found for provider \"", js "\".", js "Generation was blocked by ",
    js " safety or moderation filters.", js " error: ", js "Model discovery timed out after ",
    js " for provider '", js "'", js "Provider kind '", js "' does not support model discovery",
    js "AUTHENTICATION_FAILED", js "AUTHORIZATION_FAILED", js "RATE_LIMIT_EXCEEDED",
    js "INVALID_REQUEST", js "MODEL_NOT_FOUND", js "CONTENT_FILTERED", js "CONTEXT_LENGTH_EXCEEDED",
    js "PROVIDER_UNAVAILABLE", js "CONNECTION_FAILED", js "REQUEST_TIMEOUT", js "REQUEST_ABORTED",
    js "UNSUPPORTED_PROVIDER_KIND", js "UNSUPPORTED_CAPABILITY", js "UNKNOWN_ERROR"]

def Clear (key : ApiKey) (text : JsString) : Prop := ¬key.text <:+: text

/-- The key is no part of what the code itself says, nor of the names of the provider's kind and of
the model. -/
structure Foreign (key : ApiKey) (provider : Provider) (model : JsString) (failure : Failure) :
    Prop where
  own : ∀ own ∈ redactionTexts ++ templates, Clear key own
  kind : Clear key provider.kind
  model : Clear key model
  reported : ∀ e, failure = .adapter e →
    (∀ kind ∈ e.providerKind, Clear key kind) ∧ ∀ model ∈ e.modelIdentifier, Clear key model

def ErrorValue.redacted (e : ErrorValue) : List JsString := e.message :: e.stack.toList

def Cause.redacted : Cause → List JsString
  | .error e => e.redacted
  | .text t => [t]

def Failure.redacted : Failure → List JsString
  | .adapter e => e.message :: (e.cause.map Cause.redacted).getD []
  | .error e | .http e _ => e.redacted
  | .text t => [t]

def Failure.name : Failure → Option JsString
  | .adapter e => e.cause.bind Cause.name
  | .error e | .http e _ => some e.name
  | .text _ => none

/-- No bearer token completes the key in a text that is redacted. -/
def Unspelt (key : ApiKey) (redacted : List JsString) : Prop :=
  ∀ text ∈ redacted, ¬Respelt key.text text

/-- No name that is kept has the key, nor what discovery says when its time is over, nor the
exceptions that it passes on. -/
structure Unexposed (key : ApiKey) (timedOut : Bool) (timeoutMs : ℕ) (provider : Provider)
    (failure : Failure) : Prop where
  name : ∀ name ∈ failure.name, Clear key name
  deadline : isDeadline timedOut failure = true →
    Clear key (decimal timeoutMs ++ js "ms") ∧ Clear key provider.id
  passedOn : ∀ e cause, failure = .http e cause → isDeadline timedOut failure = false →
    Clear key e.message ∧ ∀ text ∈ causeTexts cause, Clear key text

structure Clean (key : ApiKey) (e : ModelAdapterError) : Prop where
  message : Clear key e.message
  kind : ∀ kind ∈ e.providerKind, Clear key kind
  model : ∀ model ∈ e.modelIdentifier, Clear key model
  cause : ∀ text ∈ causeTexts e.cause, Clear key text

section Messages
variable {key : ApiKey}

open TextPatterns in
theorem clear_closing (a b : JsString) (hb : opensOutside isKeyUnit b = true) (ha : Clear key a)
    (hclear : Clear key b) : Clear key (a ++ b) := fun h =>
  (infix_opensOutside key.units a b hb h).elim ha hclear

open TextPatterns in
theorem clear_opening (a b : JsString) (ha : endsOutside isKeyUnit a = true) (hclear : Clear key a)
    (hb : Clear key b) : Clear key (a ++ b) := fun h =>
  (infix_endsOutside key.units a b ha h).elim hclear hb

open TextPatterns in
theorem clear_between (a marker b : JsString) (hm : Bounded isKeyUnit marker) (ha : Clear key a)
    (hclear : Clear key marker) (hb : Clear key b) : Clear key (a ++ (marker ++ b)) := fun h =>
  (infix_bounded hm key.units a b h).elim ha fun h => h.elim hclear hb

variable (hown : ∀ own ∈ redactionTexts ++ templates, Clear key own)
include hown

theorem clear_template (text : JsString) (h : text ∈ templates) : Clear key text :=
  hown text (List.mem_append_right _ h)

theorem clear_code (code : ModelAdapterErrorCode) : Clear key code.text := by
  apply clear_template hown
  cases code <;> simp [templates, ModelAdapterErrorCode.text]

theorem clear_redacted (text : JsString) (h : ¬Respelt key.text text) :
    Clear key (redactSecrets text [key.text]) :=
  redactSecrets_clear key (fun own hmem => hown own (List.mem_append_left _ hmem)) text h

theorem clear_connection (kind : JsString) (hkind : Clear key kind) :
    Clear key (connectionMessage kind) := by
  unfold connectionMessage
  split_ifs
  · exact clear_template hown _ (by simp [templates])
  · apply clear_opening _ _ (by decide) (clear_template hown _ (by simp [templates]))
    exact clear_closing _ _ (by decide) hkind (clear_template hown _ (by simp [templates]))

omit hown in
theorem clear_default (model : Option JsString) (text : JsString)
    (hmodel : ∀ m ∈ model, Clear key m) (htext : Clear key text) : Clear key (model.getD text) := by
  cases model with
  | none => exact htext
  | some m => exact hmodel m rfl

theorem clear_notFound (kind : JsString) (model : Option JsString) (hkind : Clear key kind)
    (hmodel : ∀ m ∈ model, Clear key m) : Clear key (notFoundMessage kind model) := by
  unfold notFoundMessage
  split_ifs
  · have hgiven : Clear key (model.getD []) :=
      clear_default model [] hmodel fun h => key_ne_nil key (List.infix_nil.mp h)
    apply clear_opening _ _ (by decide) (clear_template hown _ (by simp [templates]))
    apply clear_between _ _ _ ⟨by decide, by decide⟩ hgiven
      (clear_template hown _ (by simp [templates]))
    exact clear_closing _ _ (by decide) hgiven (clear_template hown _ (by simp [templates]))
  · apply clear_opening _ _ (by decide) (clear_template hown _ (by simp [templates]))
    apply clear_between _ _ _ ⟨by decide, by decide⟩
      (clear_default model _ hmodel (clear_template hown _ (by simp [templates])))
      (clear_template hown _ (by simp [templates]))
    exact clear_closing _ _ (by decide) hkind (clear_template hown _ (by simp [templates]))

theorem clear_fallback : Clear key (redactSecrets (js "Provider request failed.") [key.text]) := by
  apply clear_redacted hown
  intro h
  have hkept : redactKnown [key.text] (js "Provider request failed.") =
      js "Provider request failed." := by
    rw [redactKnown_key]
    exact TextPatterns.replaceAll_absent _ _ _ (clear_template hown _ (by simp [templates]))
  refine completed_found _ _ h ?_
  rw [redactKeys, hkept]
  decide +kernel

theorem clear_timeout (timeoutMs : ℕ) (provider : Provider)
    (hdigits : Clear key (decimal timeoutMs ++ js "ms")) (hid : Clear key provider.id) :
    Clear key (timeoutMessage timeoutMs provider) := by
  apply clear_opening _ _ (by decide) (clear_template hown _ (by simp [templates]))
  apply clear_between _ _ _ ⟨by decide, by decide⟩ hdigits (clear_template hown _ (by simp [templates]))
  exact clear_closing _ _ (by decide) hid (clear_template hown _ (by simp [templates]))

theorem normalizeProviderError_clean (input : NormalizeProviderErrorInput)
    (hkind : Clear key input.providerKind) (hmodel : ∀ model ∈ input.model, Clear key model)
    (hsecrets : input.knownSecrets = [key.text])
    (hcause : ∀ text ∈ (sanitizeErrorCause input.cause [key.text]).texts, Clear key text) :
    Clean key (normalizeProviderError toLowerCase input) := by
  have hsafe := clear_fallback hown
  have hbuilt : ∀ (e : ModelAdapterError), Clear key e.message →
      e.providerKind = some input.providerKind → (∀ model ∈ e.modelIdentifier, Clear key model) →
      e.cause = some (sanitizeErrorCause input.cause input.knownSecrets) → Clean key e := by
    intro e hmessage hk hm hc
    refine ⟨hmessage, ?_, hm, ?_⟩
    · intro kind hmem
      rw [hk, Option.mem_some_iff] at hmem
      exact hmem ▸ hkind
    · rw [hc, hsecrets]
      exact hcause
  have hshown : ∀ marker ∈ templates, TextPatterns.Bounded isKeyUnit marker →
      Clear key (input.providerKind ++ (marker ++ redactSecrets (js "Provider request failed.")
        input.knownSecrets)) := by
    intro marker hmem hm
    rw [hsecrets]
    exact clear_between _ _ _ hm hkind (clear_template hown _ hmem) hsafe
  unfold normalizeProviderError
  dsimp only
  split_ifs
  · exact hbuilt _ (clear_template hown _ (by simp [templates])) rfl hmodel rfl
  · exact hbuilt _ (clear_connection hown _ hkind) rfl hmodel rfl
  · refine hbuilt _ ?_ rfl hmodel rfl
    apply clear_opening _ _ (by decide) (clear_template hown _ (by simp [templates]))
    exact clear_closing _ _ (by decide) hkind (clear_template hown _ (by simp [templates]))
  · exact hbuilt _ (hshown _ (by simp [templates]) ⟨by decide, by decide⟩) rfl hmodel rfl
  · exact hbuilt _ (hshown _ (by simp [templates]) ⟨by decide, by decide⟩) rfl hmodel rfl
  · exact hbuilt _ (hshown _ (by simp [templates]) ⟨by decide, by decide⟩) rfl hmodel rfl
  · refine hbuilt _ (clear_notFound hown _ _ hkind hmodel) rfl ?_ rfl
    intro model hmem
    rw [← Option.mem_some_iff.mp hmem]
    exact clear_default _ _ hmodel (clear_template hown _ (by simp [templates]))
  · refine hbuilt _ ?_ rfl hmodel rfl
    apply clear_opening _ _ (by decide) (clear_template hown _ (by simp [templates]))
    exact clear_closing _ _ (by decide) hkind (clear_template hown _ (by simp [templates]))
  · exact hbuilt _ (hshown _ (by simp [templates]) ⟨by decide, by decide⟩) rfl hmodel rfl

theorem sanitizeErrorCause_clear (cause : Cause)
    (hredacted : Unspelt key cause.redacted)
    (hname : ∀ name ∈ cause.name, Clear key name) :
    ∀ text ∈ (sanitizeErrorCause cause [key.text]).texts, Clear key text := by
  intro text hmem
  cases cause with
  | error e =>
    rcases List.mem_cons.mp hmem with rfl | hmem
    · exact hname _ rfl
    rcases List.mem_cons.mp hmem with rfl | hmem
    · exact clear_redacted hown _ (hredacted _ List.mem_cons_self)
    · obtain ⟨stack, hstack, rfl⟩ := Option.map_eq_some_iff.mp (Option.mem_toList.mp hmem)
      apply clear_redacted hown
      exact hredacted stack (List.mem_cons_of_mem _ (Option.mem_toList.mpr
        (Option.eq_some_of_filter_eq_some hstack)))
  | text t =>
    rw [List.mem_singleton.mp hmem]
    exact clear_redacted hown _ (hredacted t (List.mem_singleton_self t))

end Messages

theorem knownSecrets_key (key : ApiKey) : knownSecrets (some key.text) = [key.text] := by
  unfold knownSecrets
  rw [Option.filter_some_pos (by simpa using key_ne_nil key)]
  rfl

theorem rethrown_clean (key : ApiKey) (provider : Provider) (model : JsString) (failure : Failure)
    (hforeign : Foreign key provider model failure) (hredacted : Unspelt key failure.redacted)
    (hname : ∀ name ∈ failure.name, Clear key name) (given : Option JsString) (hgiven : ∀ m ∈ given, m = model) :
    Clean key (rethrown toLowerCase (some key.text) provider.kind given failure) := by
  have hown := hforeign.own
  have hmodel : ∀ m ∈ given, Clear key m := fun m hm => hgiven m hm ▸ hforeign.model
  have hnormalized : ∀ cause : Cause, Unspelt key cause.redacted →
      (∀ name ∈ cause.name, Clear key name) → Clean key (normalizeProviderError toLowerCase
        ⟨provider.kind, given, cause, knownSecrets (some key.text)⟩) := by
    intro cause hredacted hname
    exact normalizeProviderError_clean toLowerCase hown _ hforeign.kind hmodel (knownSecrets_key key)
      (sanitizeErrorCause_clear hown cause hredacted hname)
  cases failure with
  | adapter e =>
    obtain ⟨hkind, hidentifier⟩ := hforeign.reported e rfl
    rw [rethrown, redactError, knownSecrets_key, if_neg (List.cons_ne_nil _ _)]
    refine ⟨clear_redacted hown _ (hredacted _ List.mem_cons_self), hkind, hidentifier, ?_⟩
    dsimp only
    cases hcause : e.cause with
    | none => exact fun text hmem => absurd hmem List.not_mem_nil
    | some cause =>
      refine sanitizeErrorCause_clear hown cause (fun text hmem => hredacted text ?_) fun name hmem =>
        hname name ?_
      · rw [Failure.redacted, hcause]
        exact List.mem_cons_of_mem _ hmem
      · rw [Failure.name, hcause]
        exact hmem
  | error e => exact hnormalized (.error e) hredacted hname
  | http e cause => exact hnormalized (.error e) hredacted hname
  | text t =>
    exact hnormalized (.text t) hredacted fun name hmem =>
      absurd hmem (Option.not_mem_none name)

theorem clean_texts (key : ApiKey) (e : ModelAdapterError) (h : Clean key e) :
    ∀ text ∈ e.texts, Clear key text := by
  intro text hmem
  rcases List.mem_cons.mp hmem with rfl | hmem
  · exact h.message
  · exact h.cause text hmem

theorem payload_clear (key : ApiKey) (hown : ∀ own ∈ redactionTexts ++ templates, Clear key own)
    (e : ModelAdapterError) (h : Clean key e) :
    ∀ text ∈ (toStreamErrorPayload e).texts, Clear key text := by
  intro text hmem
  rcases List.mem_cons.mp hmem with rfl | hmem
  · exact clear_code hown e.code
  rcases List.mem_cons.mp hmem with rfl | hmem
  · exact h.message
  rcases List.mem_append.mp hmem with hmem | hmem
  · exact h.kind text (Option.eq_some_of_filter_eq_some (Option.mem_toList.mp hmem))
  · exact h.model text (Option.eq_some_of_filter_eq_some (Option.mem_toList.mp hmem))

theorem discover_clear (key : ApiKey) (provider : Provider) (model : JsString) (failure : Failure)
    (timedOut : Bool) (timeoutMs : ℕ) (hforeign : Foreign key provider model failure)
    (hredacted : Unspelt key failure.redacted)
    (hunexposed : Unexposed key timedOut timeoutMs provider failure) :
    ∀ text ∈ (discover toLowerCase timedOut timeoutMs (some key.text) provider failure).texts,
      Clear key text := by
  have hown := hforeign.own
  unfold discover
  split_ifs with hdeadline hunsupported
  · obtain ⟨hdigits, hid⟩ := hunexposed.deadline hdeadline
    intro text hmem
    rw [List.mem_singleton.mp hmem]
    exact clear_timeout hown timeoutMs provider hdigits hid
  · intro text hmem
    rw [List.mem_singleton.mp hmem]
    apply clear_opening _ _ (by decide) (clear_template hown _ (by simp [templates]))
    exact clear_closing _ _ (by decide) hforeign.kind (clear_template hown _ (by simp [templates]))
  · rw [Bool.not_eq_true] at hdeadline
    have hclean := clean_texts key _ (rethrown_clean toLowerCase key provider model failure hforeign
      hredacted hunexposed.name none fun m hm => absurd hm (Option.not_mem_none m))
    cases failure with
    | adapter e => exact hclean
    | error e => exact hclean
    | text t => exact hclean
    | http e cause =>
      obtain ⟨hmessage, hcause⟩ := hunexposed.passedOn e cause rfl hdeadline
      intro text hmem
      rcases List.mem_cons.mp hmem with rfl | hmem
      · exact hmessage
      · exact hcause text hmem

theorem event_clear (key : ApiKey) (hown : ∀ own ∈ redactionTexts ++ templates, Clear key own)
    (e : ModelAdapterError) (h : Clean key e) (stopped : Bool) :
    ∀ payload ∈ (if stopped then none else some (toStreamErrorPayload e)),
      ∀ text ∈ payload.texts, Clear key text := by
  intro payload hmem
  split_ifs at hmem
  · exact absurd hmem (Option.not_mem_none payload)
  · rw [← Option.mem_some_iff.mp hmem]
    exact payload_clear key hown e h

theorem sanitizeErrorCause_name (cause : Cause) (secrets : List JsString) (name : JsString)
    (h : name ∈ cause.name) : name ∈ (sanitizeErrorCause cause secrets).texts := by
  cases cause with
  | error e =>
    rw [← Option.mem_some_iff.mp h]
    exact List.mem_cons_self
  | text t => exact absurd h (Option.not_mem_none name)

theorem normalizeProviderError_cause (input : NormalizeProviderErrorInput) :
    (normalizeProviderError toLowerCase input).cause =
      some (sanitizeErrorCause input.cause input.knownSecrets) := by
  unfold normalizeProviderError
  dsimp only
  split_ifs <;> rfl

/-- The name of an error is copied to the cause of the one that is thrown for it. -/
theorem rethrown_name (key : ApiKey) (providerKind : JsString) (model : Option JsString)
    (failure : Failure) (name : JsString) (h : name ∈ failure.name) :
    name ∈ (rethrown toLowerCase (some key.text) providerKind model failure).texts := by
  have hcopied : ∀ (e : ModelAdapterError) (cause : Cause) (secrets : List JsString),
      e.cause = some (sanitizeErrorCause cause secrets) → name ∈ cause.name → name ∈ e.texts := by
    intro e cause secrets he hname
    rw [ModelAdapterError.texts, he]
    exact List.mem_cons_of_mem _ (sanitizeErrorCause_name cause secrets name hname)
  cases failure with
  | adapter e =>
    obtain ⟨cause, hcause, hname⟩ := Option.mem_bind_iff.mp h
    rw [rethrown, redactError, knownSecrets_key, if_neg (List.cons_ne_nil _ _)]
    refine hcopied _ cause [key.text] ?_ hname
    dsimp only
    rw [Option.mem_def.mp hcause]
    rfl
  | error e => exact hcopied _ _ _ (normalizeProviderError_cause toLowerCase _) h
  | http e cause => exact hcopied _ _ _ (normalizeProviderError_cause toLowerCase _) h
  | text t => exact absurd h (Option.not_mem_none name)

/-- No error that is thrown and no error event has the key. -/
structure Hidden (key : ApiKey) (provider : Provider) (model : JsString) (failure : Failure)
    (aborted timedOut : Bool) (timeoutMs : ℕ) : Prop where
  completed : ∀ text ∈ (completeChat toLowerCase (some key.text) provider model failure).texts,
    Clear key text
  memberTurn : ∀ text ∈ (executeMemberTurn toLowerCase (some key.text) provider model failure).texts,
    Clear key text
  compacted : ∀ text ∈ (compactChat toLowerCase (some key.text) provider model failure).texts,
    Clear key text
  streamed : ∀ payload ∈ streamChat toLowerCase aborted (some key.text) provider model failure,
    ∀ text ∈ payload.texts, Clear key text
  memberStreamed : ∀ payload ∈ streamMemberTurn toLowerCase aborted (some key.text) provider model
    failure, ∀ text ∈ payload.texts, Clear key text
  discovered : ∀ text ∈ (discover toLowerCase timedOut timeoutMs (some key.text) provider
    failure).texts, Clear key text

theorem hidden_unexposed (key : ApiKey) (provider : Provider) (model : JsString) (failure : Failure)
    (aborted timedOut : Bool) (timeoutMs : ℕ)
    (h : Hidden toLowerCase key provider model failure aborted timedOut timeoutMs) :
    Unexposed key timedOut timeoutMs provider failure where
  name name hmem := h.completed name (rethrown_name toLowerCase _ _ _ failure name hmem)
  deadline hdeadline := by
    have hmessage := h.discovered
    unfold discover at hmessage
    rw [if_pos hdeadline] at hmessage
    have htimeout := hmessage _ (List.mem_singleton_self _)
    unfold timeoutMessage at htimeout
    refine ⟨fun hin => htimeout (hin.trans ?_), fun hin => htimeout (hin.trans ?_)⟩
    · exact List.infix_append_of_infix_right List.infix_append_left
    · apply List.infix_append_of_infix_right
      apply List.infix_append_of_infix_right
      exact List.infix_append_of_infix_right List.infix_append_left
  passedOn e cause hfailure hdeadline := by
    have hmessage := h.discovered
    unfold discover at hmessage
    subst hfailure
    rw [hdeadline] at hmessage
    exact ⟨hmessage _ List.mem_cons_self, fun text hmem => hmessage text (List.mem_cons_of_mem _ hmem)⟩

/-- Where no bearer token completes the key, no error or error event has it exactly if no name that
is kept does and discovery neither says nor passes it on. -/
theorem errors_hide_keys (key : ApiKey) (provider : Provider) (model : JsString) (failure : Failure)
    (aborted timedOut : Bool) (timeoutMs : ℕ) (hforeign : Foreign key provider model failure)
    (hredacted : Unspelt key failure.redacted) :
    Hidden toLowerCase key provider model failure aborted timedOut timeoutMs ↔
      Unexposed key timedOut timeoutMs provider failure := by
  refine ⟨hidden_unexposed toLowerCase key provider model failure aborted timedOut timeoutMs,
    fun hunexposed => ?_⟩
  have hclean := rethrown_clean toLowerCase key provider model failure hforeign hredacted
    hunexposed.name (some model) fun m hm => (Option.mem_some_iff.mp hm).symm
  have hthrown := clean_texts key _ hclean
  have hevent := event_clear key hforeign.own _ hclean
  exact {
    completed := hthrown
    memberTurn := hthrown
    compacted := hthrown
    streamed := hevent (isAborted toLowerCase aborted failure)
    memberStreamed := hevent aborted
    discovered := discover_clear toLowerCase key provider model failure timedOut timeoutMs hforeign
      hredacted hunexposed }

def openai : Provider := ⟨js "0190-openai", js "openai"⟩

def rejected (message : JsString) (cause : Option Cause) : Failure :=
  .adapter ⟨message, .authenticationFailed, 502, false, some (js "openai"), some (js "gpt-4o"), none,
    false, cause⟩

theorem foreign_openai (key : ApiKey) (hkey : 0x6A ∈ key.text) (failure : Failure)
    (hreported : ∀ e, failure = .adapter e →
      e.providerKind = some (js "openai") ∧ e.modelIdentifier = some (js "gpt-4o")) :
    Foreign key openai (js "gpt-4o") failure := by
  have hnone : ∀ text ∈ js "openai" :: js "gpt-4o" :: (redactionTexts ++ templates),
      text.contains 0x6A = false := each_of_all _ (by decide +kernel)
  have hclear : ∀ text ∈ js "openai" :: js "gpt-4o" :: (redactionTexts ++ templates),
      Clear key text := by
    intro text hmem hin
    have hcontains := List.contains_iff_mem.mpr (hin.subset hkey)
    rw [hnone text hmem] at hcontains
    cases hcontains
  have hkind : Clear key (js "openai") := hclear _ List.mem_cons_self
  have hmodel : Clear key (js "gpt-4o") := hclear _ (List.mem_cons_of_mem _ List.mem_cons_self)
  refine ⟨fun own hmem => hclear own (List.mem_cons_of_mem _ (List.mem_cons_of_mem _ hmem)), hkind,
    hmodel, fun e he => ?_⟩
  rw [(hreported e he).1, (hreported e he).2]
  constructor
  · intro kind hmem
    exact Option.mem_some_iff.mp hmem ▸ hkind
  · intro model hmem
    exact Option.mem_some_iff.mp hmem ▸ hmodel

theorem foreign_rejected (key : ApiKey) (hkey : 0x6A ∈ key.text) (message : JsString)
    (cause : Option Cause) : Foreign key openai (js "gpt-4o") (rejected message cause) :=
  foreign_openai key hkey _ fun e he => by
    obtain rfl := Failure.adapter.inj he
    exact ⟨rfl, rfl⟩

def plainKey : ApiKey := ⟨js "sk-j1234", each_of_all _ (by decide), by decide⟩

theorem errors_hide_keys_rejected :
    Clear plainKey (completeChat id (some plainKey.text) openai (js "gpt-4o")
      (rejected (js "Incorrect key: sk-j1234") (some (.text (js "sk-j1234"))))).message := by
  have hhidden := errors_hide_keys id plainKey openai (js "gpt-4o")
    (rejected (js "Incorrect key: sk-j1234") (some (.text (js "sk-j1234")))) false false 10000
    (foreign_rejected plainKey (by decide) _ _) ?_
  · refine (hhidden.mpr ⟨fun name hname => ?_, fun h => ?_, fun e cause h => ?_⟩).completed _
      List.mem_cons_self
    · exact absurd hname (Option.not_mem_none name)
    · exact absurd h (by decide)
    · cases h
  · intro text hmem hspelt
    refine completed_found _ _ hspelt ?_
    rcases List.mem_cons.mp hmem with rfl | hmem
    · decide +kernel
    · rw [List.mem_singleton.mp hmem]
      decide +kernel

def leakyKey : ApiKey := ⟨js "jqzBearer", each_of_all _ (by decide), by decide⟩

def named (name : JsString) : ErrorValue := ⟨name, js "no answer", none, none⟩

theorem shown_key (key : ApiKey) (texts : List JsString)
    (h : texts.any (fun text => includes text key.text) = true) : ¬∀ text ∈ texts, Clear key text := by
  obtain ⟨text, hmem, hin⟩ := List.any_eq_true.mp h
  exact fun hclear => hclear text hmem ((includes_iff text key.text).mp hin)

/-- The rewriting of a token spells the key, the name of a cause is kept, and discovery passes an
`HttpException` on as it is. -/
theorem bearer_respells_key :
    (Foreign leakyKey openai (js "gpt-4o") (rejected (js "jqzbearer tok") none) ∧
      (completeChat id (some leakyKey.text) openai (js "gpt-4o")
        (rejected (js "jqzbearer tok") none)).message = js "jqzBearer [REDACTED]" ∧
      ¬∀ text ∈ (completeChat id (some leakyKey.text) openai (js "gpt-4o")
        (rejected (js "jqzbearer tok") none)).texts, Clear leakyKey text) ∧
    (Foreign leakyKey openai (js "gpt-4o") (.error (named leakyKey.text)) ∧
      ¬∀ text ∈ (completeChat id (some leakyKey.text) openai (js "gpt-4o")
        (.error (named leakyKey.text))).texts, Clear leakyKey text) ∧
    Foreign leakyKey openai (js "gpt-4o") (.http (named []) (some (.text leakyKey.text))) ∧
      ¬∀ text ∈ (discover id false 10000 (some leakyKey.text) openai
        (.http (named []) (some (.text leakyKey.text)))).texts, Clear leakyKey text := by
  refine ⟨⟨foreign_rejected leakyKey (by decide) _ _, by decide +kernel,
      shown_key leakyKey _ (by decide +kernel)⟩,
    ⟨foreign_openai leakyKey (by decide) _ fun e he => ?_, shown_key leakyKey _ (by decide +kernel)⟩,
    foreign_openai leakyKey (by decide) _ fun e he => ?_, shown_key leakyKey _ (by decide +kernel)⟩
  · cases he
  · cases he

end Glassbeetle.ProviderErrors
