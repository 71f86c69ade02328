import Glassbeetle.AdapterStreams

set_option autoImplicit false

namespace Glassbeetle.AdapterReplies
open JsText JsValue AdapterTypes AdapterStreams

variable {ν : Type}

/-- The document itself, which is handed on as `raw`, is left out. -/
structure CompletionResponse (ν : Type) where
  content : Json ν
  reasoningContent : Value ν
  finishReason : FinishReason
  usage : TokenUsage (Json ν)
  model : Value ν

inductive Refusal where
  | adapter (error : ModelAdapterError)
  | language (error : TypeError)

def language {α : Type} (result : Except TypeError α) : Except Refusal α :=
  result.mapError .language

theorem language_bind {α β : Type} (a : α) (next : α → Except Refusal β) :
    language (.ok a) >>= next = next a := rfl

theorem ok_bind {ε α β : Type} (a : α) (next : α → Except ε β) : .ok a >>= next = next a := rfl

/-- `throw error`, unless the error cannot be made. -/
def refuse {α : Type} (error : Except TypeError ModelAdapterError) : Except Refusal α := do
  .error (.adapter (← language error))

theorem refuse_error {α : Type} (error : Except TypeError ModelAdapterError) :
    ∃ refusal, (refuse error : Except Refusal α) = .error refusal := by
  cases error with
  | error e => exact ⟨.language e, rfl⟩
  | ok e => exact ⟨.adapter e, rfl⟩

def IsCount (value : Value ν) : Prop := value = none ∨ ∃ n, value = some (.number n)

def textOf (value : Value ν) : JsString := (asString value).getD []

def IsText (value : Value ν) (text : JsString) : Prop :=
  value = some (.string text) ∨ ((value = none ∨ value = some .null) ∧ text = [])

def deltaText : Event ν → JsString
  | .textDelta delta => textOf (some delta)
  | _ => []

def deltaThought : Event ν → JsString
  | .thoughtDelta delta => textOf (some delta)
  | _ => []

def streamedText (events : List (Event ν)) : JsString := events.flatMap deltaText

def streamedThoughts (events : List (Event ν)) : JsString := events.flatMap deltaThought

structure Completion (ν : Type) where
  finishReason : FinishReason
  usage : Option (TokenUsage (Json ν))
  model : Value ν

def completion : List (Event ν) → Option (Completion ν)
  | [] => none
  | .complete finishReason usage model :: _ => some ⟨finishReason, usage, model⟩
  | _ :: rest => completion rest

def ReportsError (streamed : List (Event ν) × Ending) : Prop :=
  (∃ error, .error error ∈ streamed.1) ∨ ∃ error, streamed.2 = .threw error

theorem streamedText_append (events more : List (Event ν)) :
    streamedText (events ++ more) = streamedText events ++ streamedText more :=
  List.flatMap_append

theorem streamedThoughts_append (events more : List (Event ν)) :
    streamedThoughts (events ++ more) = streamedThoughts events ++ streamedThoughts more :=
  List.flatMap_append

theorem untilTerminal_quiet (events : List (Event ν))
    (h : ∀ event ∈ events, event.terminal = false) : untilTerminal events = (events, false) := by
  induction events with
  | nil => rfl
  | cons event rest ih =>
    obtain ⟨hevent, hrest⟩ := List.forall_mem_cons.mp h
    rw [untilTerminal, hevent, if_neg Bool.false_ne_true, ih hrest]

theorem completion_append (events more : List (Event ν))
    (h : ∀ event ∈ events, event.terminal = false) :
    completion (events ++ more) = completion more := by
  induction events with
  | nil => rfl
  | cons event rest ih =>
    obtain ⟨hevent, hrest⟩ := List.forall_mem_cons.mp h
    rw [List.cons_append, ← ih hrest]
    cases event with
    | complete finishReason usage model => cases hevent
    | textDelta delta => rfl
    | thoughtDelta delta => rfl
    | usage usage => rfl
    | error error => rfl

structure Tells (events : List (Event ν)) (text thoughts : JsString) : Prop where
  quiet : ∀ event ∈ events, event.terminal = false
  text : streamedText events = text
  thoughts : streamedThoughts events = thoughts

theorem tells_nil : Tells ([] : List (Event ν)) [] [] := ⟨fun _ hmem => (nomatch hmem), rfl, rfl⟩

theorem tells_append (events more : List (Event ν)) (text thoughts text' thoughts' : JsString)
    (h : Tells events text thoughts) (hmore : Tells more text' thoughts') :
    Tells (events ++ more) (text ++ text') (thoughts ++ thoughts') :=
  ⟨fun event hevent => (List.mem_append.mp hevent).elim (h.quiet event) (hmore.quiet event),
    by rw [streamedText_append, h.text, hmore.text],
    by rw [streamedThoughts_append, h.thoughts, hmore.thoughts]⟩

theorem tells_usage (usage : TokenUsage (Json ν)) : Tells [.usage usage] [] [] := by
  refine ⟨fun event hevent => ?_, rfl, rfl⟩
  rw [List.mem_singleton.mp hevent]
  rfl

theorem tells_text (text : JsString) : Tells [.textDelta (.string (ν := ν) text)] text [] := by
  refine ⟨fun event hevent => ?_, List.append_nil text, rfl⟩
  rw [List.mem_singleton.mp hevent]
  rfl

theorem tells_thought (thought : JsString) :
    Tells [.thoughtDelta (.string (ν := ν) thought)] [] thought := by
  refine ⟨fun event hevent => ?_, rfl, List.append_nil thought⟩
  rw [List.mem_singleton.mp hevent]
  rfl

theorem tells_complete (told : List (Event ν)) (text thoughts : JsString)
    (finishReason : FinishReason) (usage : Option (TokenUsage (Json ν))) (model : Value ν)
    (h : Tells told text thoughts) :
    streamedText (told ++ [.complete finishReason usage model]) = text ∧
    streamedThoughts (told ++ [.complete finishReason usage model]) = thoughts ∧
    completion (told ++ [.complete finishReason usage model]) =
      some ⟨finishReason, usage, model⟩ := by
  refine ⟨?_, ?_, completion_append _ _ h.quiet⟩
  · rw [streamedText_append, h.text]
    exact List.append_nil text
  · rw [streamedThoughts_append, h.thoughts]
    exact List.append_nil thoughts

structure SameReply (response : CompletionResponse ν) (events : List (Event ν)) : Prop where
  content : response.content = .string (streamedText events)
  reasoningContent : textOf response.reasoningContent = streamedThoughts events
  completed :
    completion events = some ⟨response.finishReason, some response.usage, response.model⟩

def Same (completed : Except Refusal (CompletionResponse ν))
    (streamed : List (Event ν) × Ending) : Prop :=
  ∃ response, completed = .ok response ∧ SameReply response streamed.1

end Glassbeetle.AdapterReplies
