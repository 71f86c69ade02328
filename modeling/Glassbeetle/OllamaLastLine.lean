import Glassbeetle.StreamChunking

set_option autoImplicit false

namespace Glassbeetle.OllamaLastLine
open JsText JsValue AdapterTypes LineStream AdapterStreams OllamaStream
open StreamChunking (octets)

variable {ν : Type} [JsNumber ν]

def closing (state : State ν) : Event ν :=
  .complete state.finishReason state.currentUsage state.model

def ended (produced : List (Event ν) × Except Ending (State ν)) : List (Event ν) × Ending :=
  match produced with
  | (events, .error stop) => (events, stop)
  | (events, .ok state) => (events ++ [closing state], .returned)

def newReason (state : State ν) (chunk : Json ν) : FinishReason :=
  if truthy (optional (some chunk) "done_reason") then
    mapDoneReason (optional (some chunk) "done_reason")
  else state.finishReason

structure Alike (state : State ν) (chunk : Json ν) : Prop where
  /-- The document is not `null`, and it reports no error. -/
  noError : ∃ error, get (some chunk) "error" = .ok error ∧ truthy error = false
  noThinking : thinking (some chunk) = []
  counts : ∃ usage, readUsage (some chunk) = .ok usage
  done : truthy (optional (some chunk) "done") = true →
    truthy (optional (some chunk) "done_reason") = true ∨ state.finishReason = .stop
  more : truthy (optional (some chunk) "done") = false →
    newReason state chunk = state.finishReason ∧
    (present (optional (some chunk) "model")).or state.model = state.model

/-- What follows the last line break is blank, no document, or one on which the readings agree. -/
def LineAlike (settings : AdapterSettings ν) (state : State ν) (rest : JsString) : Prop :=
  trim rest ≠ [] → ∀ chunk, settings.parseJson (trim rest) = some chunk → Alike state chunk

section Readings
variable (settings : AdapterSettings ν) (status : ℕ) (targetModel : JsString)

theorem line_break (rest : JsString) (h : splitLines rest = [rest]) :
    ∃ line, splitLines (rest ++ [0x0A]) = [line, []] ∧ trim line = trim rest := by
  obtain ⟨line, hlines, hrest⟩ := splitLines_break rest h
  refine ⟨line, hlines, ?_⟩
  rcases hrest with rfl | rfl
  · rfl
  · exact (trim_append_space line 0x0D rfl).symm

theorem consume_line (state : State ν) (text : JsString) :
    consume (consumer settings status targetModel) state [text, []] =
      ended (line settings status targetModel state text) := by
  have hcons := consume_cons (consumer settings status targetModel) state text [[]]
    (List.cons_ne_nil [] [])
  have hline : (consumer settings status targetModel).line state text =
    line settings status targetModel state text := rfl
  rw [hline] at hcons
  rw [hcons]
  cases line settings status targetModel state text with
  | mk events next =>
    cases next with
    | error stop => rfl
    | ok s => dsimp only; rw [consume_single]; rfl

omit [JsNumber ν] in
theorem get_ok (value field : Value ν) (key other : String) (h : get value key = .ok field) :
    ∃ field, get value other = .ok field := by
  cases value with
  | none => cases h
  | some json =>
    cases json with
    | null => cases h
    | object fields => exact ⟨_, rfl⟩
    | bool b => exact ⟨_, rfl⟩
    | number n => exact ⟨_, rfl⟩
    | string s => exact ⟨_, rfl⟩
    | array items => exact ⟨_, rfl⟩

section Last
variable (state : State ν) (rest : JsString) (chunk : Json ν)

theorem last_blank (h : trim rest = []) :
    last settings state rest = ([closing state], .returned) := by
  rw [last, if_pos h]
  rfl

theorem last_unread (h : settings.parseJson (trim rest) = none) :
    last settings state rest = ([closing state], .returned) := by
  rw [last, h]
  split_ifs <;> rfl

variable (hrest : trim rest ≠ []) (hchunk : settings.parseJson (trim rest) = some chunk)
include hrest hchunk

theorem last_null (e : TypeError) (h : get (some chunk) "message" = .error e) :
    last settings state rest = ([closing state], .returned) := by
  rw [last, if_neg hrest, hchunk]
  dsimp only
  rw [h]
  rfl

theorem last_uncounted (message : Value ν) (h : get (some chunk) "message" = .ok message)
    (e : TypeError) (husage : readUsage (some chunk) = .error e) :
    last settings state rest = (text (some chunk) ++ [closing state], .returned) := by
  rw [last, if_neg hrest, hchunk]
  dsimp only
  rw [h]
  dsimp only
  rw [husage]
  rfl

theorem last_counted (message : Value ν) (h : get (some chunk) "message" = .ok message)
    (usage : Option (TokenUsage (Json ν))) (husage : readUsage (some chunk) = .ok usage) :
    last settings state rest =
      (text (some chunk) ++ usage.toList.map .usage ++
        [if truthy (optional (some chunk) "done") = true then
          .complete (mapDoneReason (optional (some chunk) "done_reason"))
            (usage.or state.currentUsage) ((present (optional (some chunk) "model")).or state.model)
        else .complete state.finishReason (usage.or state.currentUsage) state.model],
        .returned) := by
  rw [last, if_neg hrest, hchunk]
  dsimp only
  rw [h]
  dsimp only
  rw [husage]
  dsimp only
  split_ifs <;> rfl

end Last

def Plain (produced : List (Event ν) × Ending) : Prop :=
  ∃ events reason usage model,
    produced = (events ++ [.complete reason usage model], .returned) ∧
      ∀ delta, .thoughtDelta delta ∉ events

omit [JsNumber ν] in
theorem plain_closing (state : State ν) : Plain ([closing state], .returned) :=
  ⟨[], _, _, _, rfl, fun _ h => nomatch h⟩

theorem text_thoughtless (chunk : Value ν) (delta : Json ν) : .thoughtDelta delta ∉ text chunk := by
  intro h
  obtain ⟨_, _, h⟩ := List.mem_map.mp h
  cases h

theorem last_plain (state : State ν) (rest : JsString) : Plain (last settings state rest) := by
  by_cases hrest : trim rest = []
  · rw [last_blank settings state rest hrest]
    exact plain_closing state
  cases hchunk : settings.parseJson (trim rest) with
  | none =>
    rw [last_unread settings state rest hchunk]
    exact plain_closing state
  | some chunk =>
    cases hget : get (some chunk) "message" with
    | error e =>
      rw [last_null settings state rest chunk hrest hchunk e hget]
      exact plain_closing state
    | ok message =>
      cases husage : readUsage (some chunk) with
      | error e =>
        rw [last_uncounted settings state rest chunk hrest hchunk message hget e husage]
        exact ⟨_, _, _, _, rfl, text_thoughtless (some chunk)⟩
      | ok usage =>
        rw [last_counted settings state rest chunk hrest hchunk message hget usage husage]
        have hthoughtless : ∀ delta, StreamEvent.thoughtDelta delta ∉
            text (some chunk) ++ usage.toList.map StreamEvent.usage := by
          intro delta h
          rcases List.mem_append.mp h with h | h
          · exact text_thoughtless (some chunk) delta h
          · obtain ⟨_, _, h⟩ := List.mem_map.mp h
            cases h
        split_ifs
        · exact ⟨_, _, _, _, rfl, hthoughtless⟩
        · exact ⟨_, _, _, _, rfl, hthoughtless⟩

theorem present_of_truthy (value : Value ν) (h : truthy value = true) :
    ∃ json, present value = some json := by
  cases value with
  | none => cases h
  | some json => exact ⟨json, if_pos h⟩

theorem present_of_falsy (value : Value ν) (h : truthy value = false) : present value = none :=
  if_neg (by rw [h]; exact Bool.false_ne_true)

theorem mapDoneReason_falsy (reason : Value ν) (h : truthy reason = false) :
    mapDoneReason reason = .stop := by
  rw [mapDoneReason, isText_falsy reason "stop" (by decide) h,
    isText_falsy reason "length" (by decide) h]
  rfl

section Documents
variable (state : State ν) (chunk : Json ν)

theorem readChunk_unreadable (e : TypeError) (h : get (some chunk) "error" = .error e) :
    readChunk settings status targetModel state chunk = ([], .error (failure settings e)) := by
  rw [readChunk, h]

variable (error : Value ν) (herror : get (some chunk) "error" = .ok error)
include herror

/-- An error that the upstream reports is all there is, or the handler throws. -/
theorem readChunk_error (h : truthy error = true) :
    (∃ mapped, readChunk settings status targetModel state chunk =
      ([.error mapped], .error .returned)) ∨
    ∃ e, readChunk settings status targetModel state chunk =
      ([], .error (failure settings e)) := by
  obtain ⟨json, hjson⟩ := present_of_truthy error h
  rw [readChunk, herror]
  dsimp only
  rw [hjson]
  dsimp only
  cases mapError settings status json targetModel with
  | error e => exact .inr ⟨e, rfl⟩
  | ok mapped => exact .inl ⟨mapped, rfl⟩

theorem readChunk_uncounted (h : truthy error = false) (e : TypeError)
    (husage : readUsage (some chunk) = .error e) :
    ∃ events, readChunk settings status targetModel state chunk =
      (events, .error (failure settings e)) := by
  rw [readChunk, herror]
  dsimp only
  rw [present_of_falsy error h]
  dsimp only
  rw [husage]
  exact ⟨_, rfl⟩

theorem readChunk_counted (h : truthy error = false) (usage : Option (TokenUsage (Json ν)))
    (husage : readUsage (some chunk) = .ok usage) :
    ended (readChunk settings status targetModel state chunk) =
      (thinking (some chunk) ++ text (some chunk) ++ usage.toList.map .usage ++
        [.complete (newReason state chunk) (usage.or state.currentUsage)
          ((present (optional (some chunk) "model")).or state.model)],
        .returned) := by
  rw [readChunk, herror]
  dsimp only
  rw [present_of_falsy error h]
  dsimp only
  rw [husage, newReason]
  dsimp only
  split_ifs <;> rfl

end Documents

omit [JsNumber ν] in
theorem plain_ne_error (produced : List (Event ν) × Ending) (h : Plain produced)
    (mapped : ModelAdapterError) : produced ≠ ([.error mapped], .returned) := by
  obtain ⟨events, reason, usage, model, rfl, -⟩ := h
  intro heq
  have hlast := congrArg (fun result => result.1.getLast?) heq
  simp at hlast

omit [JsNumber ν] in
theorem plain_ne_threw (produced : List (Event ν) × Ending) (h : Plain produced)
    (events : List (Event ν)) (error : ModelAdapterError) : produced ≠ (events, .threw error) := by
  obtain ⟨_, reason, usage, model, rfl, -⟩ := h
  intro heq
  cases (Prod.mk.inj heq).2

omit [JsNumber ν] in
theorem plain_thoughtless (produced : List (Event ν) × Ending) (h : Plain produced)
    (delta : Json ν) : .thoughtDelta delta ∉ produced.1 := by
  obtain ⟨events, reason, usage, model, rfl, hevents⟩ := h
  intro hmem
  rcases List.mem_append.mp hmem with hmem | hmem
  · exact hevents delta hmem
  · exact nomatch List.mem_singleton.mp hmem

theorem thinking_nil (chunk : Value ν)
    (h : ∀ delta, StreamEvent.thoughtDelta delta ∉ thinking chunk) : thinking chunk = [] := by
  apply List.eq_nil_iff_forall_not_mem.mpr
  intro event hmem
  obtain ⟨delta, -, hdelta⟩ := List.mem_map.mp hmem
  rw [← hdelta] at hmem
  exact h delta hmem

theorem completion_iff (state : State ν) (chunk : Json ν) (usage : Option (TokenUsage (Json ν))) :
    (if truthy (optional (some chunk) "done") = true then
        StreamEvent.complete (mapDoneReason (optional (some chunk) "done_reason")) usage
          ((present (optional (some chunk) "model")).or state.model)
      else .complete state.finishReason usage state.model) =
      .complete (newReason state chunk) usage
        ((present (optional (some chunk) "model")).or state.model) ↔
    (truthy (optional (some chunk) "done") = true →
      truthy (optional (some chunk) "done_reason") = true ∨ state.finishReason = .stop) ∧
    (truthy (optional (some chunk) "done") = false → newReason state chunk = state.finishReason ∧
      (present (optional (some chunk) "model")).or state.model = state.model) := by
  cases hdone : truthy (optional (some chunk) "done") with
  | true =>
    cases hreason : truthy (optional (some chunk) "done_reason") with
    | true => simp [newReason, hreason]
    | false =>
      have hsame : newReason state chunk = state.finishReason :=
        if_neg (by rw [hreason]; exact Bool.false_ne_true)
      rw [if_pos rfl, mapDoneReason_falsy _ hreason, hsame]
      constructor
      · intro h
        have hstop := (StreamEvent.complete.inj h).1
        exact ⟨fun _ => .inr hstop.symm, fun h => absurd h.symm Bool.false_ne_true⟩
      · intro h
        rcases h.1 rfl with h | h
        · exact absurd h Bool.false_ne_true
        · rw [h]
  | false =>
    rw [if_neg Bool.false_ne_true]
    constructor
    · intro h
      obtain ⟨hreason, -, hmodel⟩ := StreamEvent.complete.inj h
      exact ⟨fun h => absurd h Bool.false_ne_true, fun _ => ⟨hreason.symm, hmodel.symm⟩⟩
    · intro h
      obtain ⟨hreason, hmodel⟩ := h.2 rfl
      rw [hreason, hmodel]

/-- Both readings of the last document agree just when it says nothing that only one of them takes. -/
theorem document_iff (state : State ν) (rest : JsString) (chunk : Json ν) (hrest : trim rest ≠ [])
    (hchunk : settings.parseJson (trim rest) = some chunk) :
    last settings state rest = ended (readChunk settings status targetModel state chunk) ↔
      Alike state chunk := by
  have hplain := last_plain settings state rest
  cases herror : get (some chunk) "error" with
  | error e =>
    rw [readChunk_unreadable settings status targetModel state chunk e herror]
    refine ⟨fun h => absurd h (plain_ne_threw _ hplain [] _), fun h => ?_⟩
    obtain ⟨_, hok, -⟩ := h.noError
    rw [herror] at hok
    cases hok
  | ok error =>
    have hfalsy : Alike state chunk → truthy error = false := by
      intro h
      obtain ⟨_, hok, hfalsy⟩ := h.noError
      rw [herror] at hok
      cases hok
      exact hfalsy
    cases htruthy : truthy error with
    | true =>
      refine ⟨fun h => ?_, fun h => absurd (htruthy.symm.trans (hfalsy h)) (by decide)⟩
      rcases readChunk_error settings status targetModel state chunk error herror htruthy with
        ⟨mapped, hread⟩ | ⟨e, hread⟩
      · rw [hread] at h
        exact absurd h (plain_ne_error _ hplain mapped)
      · rw [hread] at h
        exact absurd h (plain_ne_threw _ hplain [] _)
    | false =>
      cases husage : readUsage (some chunk) with
      | error e =>
        refine ⟨fun h => ?_, fun h => ?_⟩
        · obtain ⟨events, hread⟩ :=
            readChunk_uncounted settings status targetModel state chunk error herror htruthy e husage
          rw [hread] at h
          exact absurd h (plain_ne_threw _ hplain events _)
        · obtain ⟨usage, hok⟩ := h.counts
          rw [husage] at hok
          cases hok
      | ok usage =>
        obtain ⟨message, hmessage⟩ := get_ok _ _ _ "message" herror
        rw [readChunk_counted settings status targetModel state chunk error herror htruthy usage
          husage]
        have hlast := last_counted settings state rest chunk hrest hchunk message hmessage usage husage
        have hcompletion := completion_iff state chunk (usage.or state.currentUsage)
        constructor
        · intro h
          have hthinking : thinking (some chunk) = [] := by
            apply thinking_nil
            intro delta hdelta
            apply plain_thoughtless _ hplain delta
            rw [h]
            simp [hdelta]
          rw [hlast, hthinking, List.nil_append] at h
          obtain ⟨hdone, hmore⟩ := hcompletion.mp
            (List.singleton_inj.mp (List.append_cancel_left (Prod.mk.inj h).1))
          exact ⟨⟨error, herror, htruthy⟩, hthinking, ⟨usage, husage⟩, hdone, hmore⟩
        · intro h
          rw [hlast, h.noThinking, List.nil_append, hcompletion.mpr ⟨h.done, h.more⟩]

/-- What follows the last line break is read alike with and without a line break after it. -/
theorem rest_iff (state : State ν) (rest : JsString) (h : splitLines rest = [rest]) :
    last settings state rest =
        consume (consumer settings status targetModel) state (splitLines (rest ++ [0x0A])) ↔
      LineAlike settings state rest := by
  obtain ⟨text, hlines, htrim⟩ := line_break rest h
  rw [hlines, consume_line, LineAlike, line, htrim]
  by_cases hrest : trim rest = []
  · rw [if_pos hrest, last_blank settings state rest hrest]
    exact ⟨fun _ hne => absurd hrest hne, fun _ => rfl⟩
  rw [if_neg hrest]
  cases hchunk : settings.parseJson (trim rest) with
  | none =>
    rw [last_unread settings state rest hchunk]
    exact ⟨fun _ _ _ hnone => (nomatch hnone), fun _ => rfl⟩
  | some chunk =>
    dsimp only
    rw [document_iff settings status targetModel state rest chunk hrest hchunk]
    refine ⟨fun h _ other hother => ?_, fun h => h hrest chunk rfl⟩
    cases hother
    exact h

end Readings

/-- The stream reads all complete lines of the body, and this is what follows them. -/
def LastLine (settings : AdapterSettings ν) (status : ℕ) (model : Option JsString)
    (body : JsString) (state : State ν) (rest : JsString) : Prop :=
  Reaches (consumer settings status (requestedModel settings model))
    ⟨some (.string (requestedModel settings model)), .stop, none⟩ body state rest

/-- A body without its final line break reads like the one that has it just when the last line, where
the stream gets to it, is alike in both readings. -/
theorem final_newline (settings : AdapterSettings ν) (status : ℕ) (model : Option JsString)
    (body : JsString) (reads terminated : List (List UInt8))
    (hreads : (TextDecoder.texts TextDecoder.fresh reads).flatten = body)
    (hterminated : (TextDecoder.texts TextDecoder.fresh terminated).flatten = body ++ [0x0A]) :
    stream settings status model reads = stream settings status model terminated ↔
      ∀ state rest, LastLine settings status model body state rest →
        LineAlike settings state rest := by
  refine (readLoop_suffix_iff _ _ _ _ _ _ hreads hterminated).trans ?_
  constructor
  · intro h state rest hlast
    exact (rest_iff settings status (requestedModel settings model) state rest
      (hlast.rest)).mp (h state rest hlast)
  · intro h state rest hlast
    exact (rest_iff settings status (requestedModel settings model) state rest
      (hlast.rest)).mpr (h state rest hlast)

def doneText : JsString := js "\x7b\"done\":true\x7d"

def thoughtText : JsString := js "\x7b\"message\":\x7b\"thinking\":\"a\"\x7d\x7d"

def sample : AdapterSettings ℤ where
  parseJson text :=
    if text = doneText then some (.object [(js "done", .bool true)])
    else if text = thoughtText then
      some (.object [(js "message", .object [(js "thinking", .string (js "a"))])])
    else none
  toLowerCase := id
  describe _ := js "TypeError"
  apiKey := []
  defaultModel := js "llama3"
  providerKind := js "ollama"

theorem final_newline_done :
    stream sample 200 none [octets doneText] = stream sample 200 none [octets doneText, [0x0A]] := by
  refine (final_newline sample 200 none doneText _ _ (by decide +kernel) (by decide +kernel)).mpr ?_
  intro state rest h
  obtain ⟨lines, events, hlines, hfeed⟩ := h
  have hsplit : splitLines doneText = [] ++ [doneText] := by decide +kernel
  obtain ⟨rfl, hrest⟩ := List.append_inj' (hlines.symm.trans hsplit) rfl
  cases hfeed
  intro _ chunk hchunk
  have hparse : sample.parseJson (trim rest) = some (.object [(js "done", .bool true)]) := by
    have htext : trim doneText = doneText := by decide +kernel
    rw [List.singleton_inj.mp hrest, htext]
    simp only [sample, if_pos]
  obtain rfl := Option.some.inj (hparse.symm.trans hchunk)
  exact ⟨⟨none, rfl, rfl⟩, rfl, ⟨none, rfl⟩, fun _ => .inr rfl, fun h => nomatch h⟩

/-- A thought on the last line is yielded only when a line break follows. -/
theorem last_thought_lost :
    stream sample 200 none [octets thoughtText] ≠
      stream sample 200 none [octets thoughtText, [0x0A]] := by
  intro h
  have hcount : (stream sample 200 none [octets thoughtText]).1.length ≠
      (stream sample 200 none [octets thoughtText, [0x0A]]).1.length := by decide +kernel
  exact hcount (by rw [h])

end Glassbeetle.OllamaLastLine
