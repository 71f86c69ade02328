import Glassbeetle.AdapterTypes
import Glassbeetle.JsValue
import Glassbeetle.LineStream
import Glassbeetle.TextDecoder

set_option autoImplicit false

namespace Glassbeetle.AdapterStreams
open JsText JsValue AdapterTypes LineStream

variable {ν : Type}

structure AdapterSettings (ν : Type) extends Runtime ν where
  /-- Empty where none is configured. -/
  apiKey : JsString
  defaultModel : JsString
  providerKind : JsString

abbrev Event (ν : Type) := StreamEvent (Json ν) (Json ν)

inductive Ending where
  | returned
  | threw (error : ModelAdapterError)
  deriving DecidableEq, Repr

/-- `request.model?.trim() || this.defaultModel` -/
def requestedModel (settings : AdapterSettings ν) (model : Option JsString) : JsString :=
  match model.map trim with
  | none | some [] => settings.defaultModel
  | some model => model

def sanitizeText (settings : AdapterSettings ν) (message : JsString) : JsString :=
  if settings.apiKey = [] then message
  else replaceAll message settings.apiKey (js "[REDACTED_API_KEY]")

/-- The upstream decides what it calls a message. -/
def sanitizeCredentials (settings : AdapterSettings ν) (message : Json ν) :
    Except TypeError (Json ν) :=
  match message with
  | .string s => .ok (.string (sanitizeText settings s))
  | other => if settings.apiKey = [] then .ok other else .error (.notFunction (js "replaceAll"))

def lowerCase (settings : AdapterSettings ν) (message : Json ν) : Except TypeError JsString :=
  match message with
  | .string s => .ok (settings.toLowerCase s)
  | _ => .error (.notFunction (js "toLowerCase"))

def failed (settings : AdapterSettings ν) (name : String) (providerKind : JsString)
    (error : TypeError) : Ending :=
  .threw (providerUnavailableError
    (js name ++ js " streaming failed: " ++ sanitizeText settings (settings.describe error))
    (some providerKind))

def orZero [JsNumber ν] (value : Value ν) : Json ν :=
  match value with
  | none | some .null => .number (JsNumber.ofNat 0)
  | some other => other

def present [JsNumber ν] (value : Value ν) : Option (Json ν) := if truthy value then value else none

theorem isText_falsy [JsNumber ν] (value : Value ν) (text : String) (hne : js text ≠ [])
    (h : truthy value = false) : isText value text = false := by
  rcases value with - | (- | b | n | s | items | fields)
  case some.string =>
    have hs : s = [] := by simpa [truthy] using h
    rw [hs]
    exact decide_eq_false hne
  all_goals rfl

/-- Yields up to the first event after which the adapter returns. -/
def untilTerminal : List (Event ν) → List (Event ν) × Bool
  | [] => ([], false)
  | event :: rest =>
    if event.terminal then ([event], true)
    else (event :: (untilTerminal rest).1, (untilTerminal rest).2)

structure SseState (σ : Type) where
  dataLines : List JsString
  context : σ

abbrev Parse (ν σ : Type) := σ → JsString → Except TypeError (List (Event ν) × σ)

variable {σ : Type}

def sseLine (parse : Parse ν σ) (failure : TypeError → Ending) (state : SseState σ)
    (line : JsString) : List (Event ν) × Except Ending (SseState σ) :=
  if trim line = [] then
    if state.dataLines = [] then ([], .ok state)
    else
      match parse state.context (trim (join (js "\n") state.dataLines)) with
      | .error e => ([], .error (failure e))
      | .ok (events, context) =>
        match untilTerminal events with
        | (events, true) => (events, .error .returned)
        | (events, false) => (events, .ok ⟨[], context⟩)
  else if startsWith line (js ":") then ([], .ok state)
  else if startsWith line (js "data:") then
    ([], .ok { state with dataLines := state.dataLines ++ [trimStart (line.drop 5)] })
  else ([], .ok state)

/-- The end of an OpenAI or a Gemini body; `final` is the event for a body without an explicit end. -/
def sseLast (parse : Parse ν σ) (failure : TypeError → Ending)
    (final : σ → Except TypeError (List (Event ν))) (state : SseState σ) (buffer : JsString) :
    List (Event ν) × Ending :=
  let trailing := trim buffer
  let dataLines :=
    if startsWith trailing (js "data:") then state.dataLines ++ [trimStart (trailing.drop 5)]
    else if trailing ≠ [] ∧ ¬startsWith trailing (js ":") then state.dataLines ++ [trailing]
    else state.dataLines
  let trailingData := trim (join (js "\n") dataLines)
  let parsed := if trailingData = [] then .ok ([], state.context)
    else parse state.context trailingData
  match parsed with
  | .error e => ([], failure e)
  | .ok (events, context) =>
    match untilTerminal events with
    | (events, true) => (events, .returned)
    | (events, false) =>
      match final context with
      | .error e => (events, failure e)
      | .ok last => (events ++ last, .returned)

structure ReplyContext (ν : Type) where
  model : Value ν
  finishReason : FinishReason
  inputTokens : Json ν
  outputTokens : Json ν
  completed : Bool

variable [JsNumber ν]

def ReplyContext.start (settings : AdapterSettings ν) (model : Option JsString) : ReplyContext ν :=
  ⟨some (.string (requestedModel settings model)), .stop, .number (JsNumber.ofNat 0),
    .number (JsNumber.ofNat 0), false⟩

def ReplyContext.getUsage (ctx : ReplyContext ν) : Except TypeError (TokenUsage (Json ν)) := do
  return ⟨ctx.inputTokens, ctx.outputTokens, ← plus ctx.inputTokens ctx.outputTokens, none⟩

def ReplyContext.onUsage (ctx : ReplyContext ν) (inTok outTok : Value ν) : ReplyContext ν :=
  { ctx with
    inputTokens := inTok.getD ctx.inputTokens
    outputTokens := outTok.getD ctx.outputTokens }

def ReplyContext.complete (ctx : ReplyContext ν) : Except TypeError (Event ν) := do
  return .complete ctx.finishReason (some (← ctx.getUsage)) ctx.model

def ReplyContext.final (ctx : ReplyContext ν) : Except TypeError (List (Event ν)) := do
  if ctx.completed then return [] else return [← ctx.complete]

end Glassbeetle.AdapterStreams
