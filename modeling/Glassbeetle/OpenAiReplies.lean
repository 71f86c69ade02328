import Mathlib.Tactic.FinCases
import Glassbeetle.AdapterReplies
import Glassbeetle.OpenAiStream
import Glassbeetle.SseBodies

set_option autoImplicit false

namespace Glassbeetle.OpenAiReplies
open JsText JsValue AdapterTypes AdapterStreams AdapterReplies OpenAiStream LineStream SseBodies

variable {ν : Type} [JsNumber ν]

def complete (payload : List (JsString × Json ν)) (data : Json ν) :
    Except Refusal (CompletionResponse ν) := do
  let choice := first (← language (get (some data) "choices"))
  let message := optional choice "message"
  let usage ← language (readUsage (optional (some data) "usage"))
  return {
    content := (coalesce (optional message "content") none).getD (.string [])
    reasoningContent := coalesce (optional message "reasoning_content") none
    finishReason := mapFinishReason (optional choice "finish_reason")
    usage := usage
    model := orElse (optional (some data) "model") (payload.lookup (js "model")) }

structure Choice where
  content : JsString
  reason : JsString

structure Piece where
  index : ℕ
  text : JsString
  reason : Option JsString

def IsUsage (data : Json ν) : Prop :=
  ∀ key ∈ ["prompt_tokens", "completion_tokens", "total_tokens"],
    IsCount (optional (optional (some data) "usage") key)

structure IsChoice (json : Json ν) (choice : Choice) : Prop where
  content : optional (optional (some json) "message") "content" = some (.string choice.content)
  reason : optional (some json) "finish_reason" = some (.string choice.reason)

structure IsResponse (data : Json ν) (choices : List Choice) : Prop where
  object : ∃ fields, data = .object fields
  choices : ∃ items, optional (some data) "choices" = some (.array items) ∧
    List.Forall₂ IsChoice items choices
  usage : IsUsage data

/-- The index is on the wire as well, but it is not read. -/
structure IsPiece (json : Json ν) (piece : Piece) : Prop where
  object : ∃ fields, json = .object fields
  text : IsText (optional (optional (some json) "delta") "content") piece.text
  reason : optional (some json) "finish_reason" = piece.reason.map .string ∨
    (optional (some json) "finish_reason" = some .null ∧ piece.reason = none)

structure IsChunk (data : Json ν) (chunk : List Piece) : Prop where
  object : ∃ fields, data = .object fields
  noError : optional (some data) "error" = none
  choices : ∃ items, optional (some data) "choices" = some (.array items) ∧
    List.Forall₂ IsPiece items chunk
  usage : IsUsage data

structure IsData (settings : AdapterSettings ν) (text : JsString) (chunk : List Piece) : Prop where
  line : OneLine text
  filled : trim text ≠ []
  noSentinel : trim text ≠ js "[DONE]"
  parsed : ∃ data, settings.parseJson (trim text) = some data ∧ IsChunk data chunk

/-- The pieces of every choice are its content in order, with its reason on the last one. -/
structure Delivers (pieces : List Piece) (choices : List Choice) : Prop where
  known : ∀ piece ∈ pieces, piece.index < choices.length
  content : ∀ i choice, choices[i]? = some choice →
    (pieces.filter (·.index = i)).flatMap (·.text) = choice.content
  reason : ∀ i choice, choices[i]? = some choice → ∃ before,
    (pieces.filter (·.index = i)).map (·.reason) =
      List.replicate before none ++ [some choice.reason]

def reasonAfter (ν : Type) [JsNumber ν] (finishReason : FinishReason) (piece : Piece) :
    FinishReason :=
  match piece.reason with
  | none | some [] => finishReason
  | some reason => mapFinishReason (some (Json.string (ν := ν) reason))

theorem orZero_count (value : Value ν) (h : IsCount value) : ∃ n, orZero value = .number n := by
  rcases h with rfl | ⟨n, rfl⟩
  · exact ⟨JsNumber.ofNat 0, rfl⟩
  · exact ⟨n, rfl⟩

theorem readUsage_typed (data : Json ν) (h : IsUsage data) :
    ∃ usage, readUsage (optional (some data) "usage") = .ok usage := by
  obtain ⟨m, hm⟩ := orZero_count _ (h "prompt_tokens" (by simp))
  obtain ⟨n, hn⟩ := orZero_count _ (h "completion_tokens" (by simp))
  rw [readUsage, hm, hn]
  rcases h "total_tokens" (by simp) with htotal | ⟨total, htotal⟩
  · rw [htotal]
    exact ⟨_, rfl⟩
  · rw [htotal]
    exact ⟨_, rfl⟩

theorem complete_first (payload : List (JsString × Json ν)) (data : Json ν)
    (choice : Choice) (rest : List Choice) (h : IsResponse data (choice :: rest)) :
    ∃ response, complete payload data = .ok response ∧
      response.content = .string choice.content ∧
      response.finishReason = mapFinishReason (some (Json.string (ν := ν) choice.reason)) := by
  obtain ⟨fields, hfields⟩ := h.object
  obtain ⟨items, hitems, hchoices⟩ := h.choices
  obtain ⟨usage, husage⟩ := readUsage_typed data h.usage
  cases hchoices with
  | cons hchoice hrest =>
    rename_i item items
    have hget : get (some data) "choices" = .ok (some (.array (item :: items))) := by
      rw [hfields] at hitems ⊢
      exact congrArg Except.ok hitems
    rw [complete, hget, language_bind, husage]
    refine ⟨_, rfl, ?_, congrArg mapFinishReason hchoice.reason⟩
    change (coalesce (optional (optional (some item) "message") "content") none).getD _ = _
    rw [hchoice.content]
    rfl

structure Adds (told : List (Event ν)) (text : JsString) : Prop where
  quiet : ∀ event ∈ told, event.terminal = false
  text : streamedText told = text

omit [JsNumber ν] in
theorem adds_append (told more : List (Event ν)) (text rest : JsString) (h : Adds told text)
    (hmore : Adds more rest) : Adds (told ++ more) (text ++ rest) :=
  ⟨fun event hevent => (List.mem_append.mp hevent).elim (h.quiet event) (hmore.quiet event),
    by rw [streamedText_append, h.text, hmore.text]⟩

omit [JsNumber ν] in
theorem adds_nil : Adds ([] : List (Event ν)) [] := ⟨fun _ hmem => (nomatch hmem), rfl⟩

theorem adds_delta (value : Value ν) (text : JsString) (h : IsText value text) :
    Adds ((present value).toList.map StreamEvent.textDelta) text := by
  rcases h with rfl | ⟨rfl | rfl, rfl⟩
  · cases text with
    | nil => exact adds_nil
    | cons c rest =>
      refine ⟨fun event hevent => ?_, List.append_nil _⟩
      rw [List.mem_singleton.mp hevent]
      rfl
  · exact adds_nil
  · exact adds_nil

theorem adds_thought (value : Value ν) :
    Adds ((present value).toList.map StreamEvent.thoughtDelta) [] := by
  cases present value with
  | none => exact adds_nil
  | some thought =>
    refine ⟨fun event hevent => ?_, rfl⟩
    rw [List.mem_singleton.mp hevent]
    rfl

theorem context_after (context : Context ν) (reason : Value ν) (piece : Piece)
    (h : reason = piece.reason.map .string ∨ (reason = some .null ∧ piece.reason = none)) :
    (if truthy reason then { context with finishReason := mapFinishReason reason } else context) =
      { context with finishReason := reasonAfter ν context.finishReason piece } := by
  unfold reasonAfter
  rcases h with rfl | ⟨rfl, hnone⟩
  · cases piece.reason with
    | none => rfl
    | some given =>
      cases given with
      | nil => rfl
      | cons c rest => rfl
  · rw [hnone]
    rfl

theorem readChoice_piece (events : List (Event ν)) (context : Context ν) (json : Json ν)
    (piece : Piece) (h : IsPiece json piece) :
    ∃ told, readChoice (events, context) json = .ok (events ++ told,
      { context with finishReason := reasonAfter ν context.finishReason piece }) ∧
      Adds told piece.text := by
  obtain ⟨fields, hfields⟩ := h.object
  have hget : get (some json) "delta" = .ok (optional (some json) "delta") := by
    rw [hfields]
    rfl
  refine ⟨(present (optional (optional (some json) "delta") "content")).toList.map .textDelta ++
    (present (optional (optional (some json) "delta") "reasoning_content")).toList.map .thoughtDelta,
    ?_, ?_⟩
  · rw [readChoice, hget, ← context_after context _ piece h.reason, ← List.append_assoc]
    rfl
  · have hadds := adds_append _ _ _ _ (adds_delta _ _ h.text)
      (adds_thought (optional (optional (some json) "delta") "reasoning_content"))
    rwa [List.append_nil] at hadds

theorem readChoices_pieces (events : List (Event ν)) (context : Context ν)
    (items : List (Json ν)) (chunk : List Piece) (h : List.Forall₂ IsPiece items chunk) :
    ∃ told, items.foldlM readChoice (events, context) = .ok (events ++ told,
      { context with finishReason := chunk.foldl (reasonAfter ν) context.finishReason }) ∧
      Adds told (chunk.flatMap (·.text)) := by
  induction h generalizing events context with
  | nil =>
    refine ⟨[], ?_, adds_nil⟩
    rw [List.append_nil]
    rfl
  | @cons item piece items chunk hitem hrest ih =>
    obtain ⟨told, htold, hadds⟩ := readChoice_piece events context item piece hitem
    obtain ⟨more, hmore, haddsMore⟩ := ih (events ++ told)
      { context with finishReason := reasonAfter ν context.finishReason piece }
    refine ⟨told ++ more, ?_, adds_append _ _ _ _ hadds haddsMore⟩
    rw [List.foldlM_cons, htold, ← List.append_assoc]
    exact hmore

omit [JsNumber ν] in
theorem adds_usage (usage : TokenUsage (Json ν)) : Adds ([.usage usage] : List (Event ν)) [] := by
  refine ⟨fun event hevent => ?_, rfl⟩
  rw [List.mem_singleton.mp hevent]
  rfl

/-- The end of a chunk: its choices, once its model and its usage have been read. -/
theorem readChoices_chunk (data : Json ν) (items : List (Json ν)) (chunk : List Piece)
    (hitems : optional (some data) "choices" = some (.array items))
    (hpieces : List.Forall₂ IsPiece items chunk) (events : List (Event ν)) (context named : Context ν)
    (hreason : named.finishReason = context.finishReason)
    (hcompleted : named.completed = context.completed) (hevents : Adds events []) :
    ∃ told later,
      (do
        let choices ← iterate (coalesce (optional (some data) "choices") (some (.array [])))
        choices.foldlM readChoice (events, named)) = .ok (told, later) ∧
      Adds told (chunk.flatMap (·.text)) ∧
      later.finishReason = chunk.foldl (reasonAfter ν) context.finishReason ∧
      later.completed = context.completed := by
  have hiterate : iterate (coalesce (optional (some data) "choices") (some (.array []))) =
      .ok items := by
    rw [hitems]
    rfl
  obtain ⟨told, htold, hadds⟩ := readChoices_pieces events named items chunk hpieces
  rw [hiterate]
  exact ⟨_, _, htold, adds_append _ _ _ _ hevents hadds, by rw [hreason], hcompleted⟩

theorem parseSseData_chunk (settings : AdapterSettings ν) (context : Context ν) (text : JsString)
    (chunk : List Piece) (h : IsData settings text chunk) :
    ∃ told later, parseSseData settings context (trim text) = .ok (told, later) ∧
      Adds told (chunk.flatMap (·.text)) ∧
      later.finishReason = chunk.foldl (reasonAfter ν) context.finishReason ∧
      later.completed = context.completed := by
  obtain ⟨data, hparsed, hchunk⟩ := h.parsed
  obtain ⟨fields, hfields⟩ := hchunk.object
  obtain ⟨items, hitems, hpieces⟩ := hchunk.choices
  obtain ⟨usage, husage⟩ := readUsage_typed data hchunk.usage
  have herror : get (some data) "error" = .ok none := by
    have hnone := hchunk.noError
    rw [hfields] at hnone ⊢
    exact congrArg Except.ok hnone
  rw [parseSseData]
  dsimp only
  rw [trim_trim, if_neg h.filled, if_neg h.noSentinel, hparsed]
  dsimp only
  rw [herror]
  have hrest := readChoices_chunk data items chunk hitems hpieces
  cases hu : present (optional (some data) "usage") with
  | none =>
    cases present (optional (some data) "model") with
    | none => exact hrest [] context _ rfl rfl adds_nil
    | some model => exact hrest [] context { context with model := some model } rfl rfl adds_nil
  | some counted =>
    have hcounted : optional (some data) "usage" = some counted := by
      unfold present at hu
      split_ifs at hu
      exact hu
    rw [hcounted] at husage
    dsimp only
    rw [husage]
    cases present (optional (some data) "model") with
    | none =>
      exact hrest _ context { context with currentUsage := some usage } rfl rfl (adds_usage usage)
    | some model =>
      exact hrest _ context { context with model := some model, currentUsage := some usage } rfl rfl
        (adds_usage usage)

theorem outcome_chunks (settings : AdapterSettings ν) (context : Context ν)
    (texts : List JsString) (chunks : List (List Piece))
    (h : List.Forall₂ (IsData settings) texts chunks) :
    ∃ told usage model,
      outcome (parseSseData settings) (failure settings) final context
          ((texts ++ [js "[DONE]"]).map trim) =
        (told ++ [.complete (chunks.flatten.foldl (reasonAfter ν) context.finishReason) usage model],
          .returned) ∧
      Adds told (chunks.flatten.flatMap (·.text)) := by
  induction h generalizing context with
  | nil =>
    refine ⟨[], context.currentUsage, context.model, ?_, adds_nil⟩
    have hdone : parseSseData settings context (trim (js "[DONE]")) =
        .ok ([.complete context.finishReason context.currentUsage context.model],
          { context with completed := true }) := by
      have htrim : trim (js "[DONE]") = js "[DONE]" := by decide +kernel
      rw [htrim, parseSseData]
      dsimp only
      rw [htrim]
      rfl
    rw [List.nil_append, List.map_singleton, outcome, hdone]
    rfl
  | @cons text chunk texts chunks htext hrest ih =>
    obtain ⟨told, later, htold, hadds, hreason, -⟩ :=
      parseSseData_chunk settings context text chunk htext
    obtain ⟨more, usage, model, hmore, haddsMore⟩ := ih later
    refine ⟨told ++ more, usage, model, ?_, ?_⟩
    · rw [List.cons_append, List.map_cons, outcome, htold]
      dsimp only
      rw [untilTerminal_quiet told hadds.quiet]
      dsimp only
      rw [hmore, hreason, List.flatten_cons, List.foldl_append, List.append_assoc]
    · rw [List.flatten_cons, List.flatMap_append]
      exact adds_append _ _ _ _ hadds haddsMore

theorem stream_chunks (settings : AdapterSettings ν) (model : Option JsString)
    (texts : List JsString) (chunks : List (List Piece)) (reads : List (List UInt8))
    (h : List.Forall₂ (IsData settings) texts chunks)
    (hreads : (TextDecoder.texts TextDecoder.fresh reads).flatten =
      ((texts ++ [js "[DONE]"]).map frame).flatten) :
    ∃ told usage model', stream settings model reads =
        (told ++ [.complete (chunks.flatten.foldl (reasonAfter ν) .stop) usage model'], .returned) ∧
      Adds told (chunks.flatten.flatMap (·.text)) := by
  have hlines : ∀ text ∈ texts ++ [js "[DONE]"], OneLine text := by
    intro text htext
    rcases List.mem_append.mp htext with hchunk | hdone
    · obtain ⟨i, hi, rfl⟩ := List.getElem_of_mem hchunk
      exact ((List.forall₂_iff_get.mp h).2 i hi (h.length_eq ▸ hi)).line
    · rw [List.mem_singleton.mp hdone]
      change ∀ c ∈ js "[DONE]", c ≠ 0x0A ∧ c ≠ 0x0D
      exact each_of_all _ (by decide +kernel)
  unfold stream consumer
  rw [readLoop_eq _ _ [] _ rfl, List.nil_append, hreads,
    consume_frames _ _ _ (fun _ => rfl) _ _ hlines]
  exact outcome_chunks settings _ texts chunks h

section Interleaving
variable {α β : Type}

theorem length_filter_flatMap (p : α → Bool) (f : α → List β) (items : List α) :
    ((items.filter p).flatMap f).length ≤ (items.flatMap f).length := by
  induction items with
  | nil => exact le_rfl
  | cons a rest ih =>
    rw [List.flatMap_cons, List.length_append, List.filter_cons]
    split_ifs
    · rw [List.flatMap_cons, List.length_append]
      omega
    · omega

theorem flatMap_filter_iff (p : α → Bool) (f : α → List β) (items : List α) :
    items.flatMap f = (items.filter p).flatMap f ↔ ∀ a ∈ items, p a = false → f a = [] := by
  induction items with
  | nil => exact ⟨fun _ _ hmem => (nomatch hmem), fun _ => rfl⟩
  | cons a rest ih =>
    rw [List.flatMap_cons, List.filter_cons, List.forall_mem_cons, ← ih]
    cases hp : p a with
    | true =>
      rw [if_pos rfl, List.flatMap_cons, List.append_cancel_left_eq]
      exact ⟨fun h => ⟨fun hfalse => absurd hfalse.symm Bool.false_ne_true, h⟩, fun h => h.2⟩
    | false =>
      rw [if_neg Bool.false_ne_true]
      constructor
      · intro h
        have hlength := congrArg List.length h
        have hle := length_filter_flatMap p f rest
        rw [List.length_append] at hlength
        have hempty : f a = [] := List.eq_nil_of_length_eq_zero (by omega)
        rw [hempty, List.nil_append] at h
        exact ⟨fun _ => hempty, h⟩
      · rintro ⟨hempty, h⟩
        rw [hempty rfl, List.nil_append, h]

end Interleaving

structure Agrees (response : CompletionResponse ν) (events : List (Event ν)) : Prop where
  content : response.content = .string (streamedText events)
  completed : ∃ usage model, completion events = some ⟨response.finishReason, usage, model⟩

def Parity (completed : Except Refusal (CompletionResponse ν))
    (streamed : List (Event ν) × Ending) : Prop :=
  ∃ response, completed = .ok response ∧ Agrees response streamed.1

theorem others_silent_iff (pieces : List Piece) (choice : Choice) (rest : List Choice)
    (h : Delivers pieces (choice :: rest)) :
    pieces.flatMap (·.text) = choice.content ↔ ∀ other ∈ rest, other.content = [] := by
  have hfirst := flatMap_filter_iff (fun piece : Piece => decide (piece.index = 0)) (·.text) pieces
  rw [h.content 0 choice rfl] at hfirst
  rw [hfirst]
  constructor
  · intro hsilent other hother
    obtain ⟨i, hi⟩ := List.mem_iff_getElem?.mp hother
    rw [← h.content (i + 1) other hi, List.flatMap_eq_nil_iff]
    intro piece hpiece
    obtain ⟨hmem, hindex⟩ := List.mem_filter.mp hpiece
    have hindex : piece.index = i + 1 := of_decide_eq_true hindex
    exact hsilent piece hmem (decide_eq_false (by omega))
  · intro hsilent piece hpiece hindex
    have hindex : piece.index ≠ 0 := of_decide_eq_false hindex
    have hknown := h.known piece hpiece
    obtain ⟨i, hi⟩ := Nat.exists_eq_succ_of_ne_zero hindex
    rw [List.length_cons, hi] at hknown
    have hother : rest[i]? = some rest[i] := List.getElem?_eq_getElem (by omega)
    have hcontent := h.content (i + 1) _ hother
    rw [hsilent _ (List.getElem_mem _), List.flatMap_eq_nil_iff] at hcontent
    exact hcontent piece (List.mem_filter.mpr ⟨hpiece, decide_eq_true hi⟩)

def lastReason (pieces : List Piece) : Option JsString :=
  ((pieces.filterMap (·.reason)).filter (· ≠ [])).getLast?

def reasonOr (ν : Type) [JsNumber ν] (finishReason : FinishReason) (reason : Option JsString) :
    FinishReason :=
  (reason.map fun reason => mapFinishReason (some (Json.string (ν := ν) reason))).getD finishReason

theorem foldl_reasonAfter (finishReason : FinishReason) (pieces : List Piece) :
    pieces.foldl (reasonAfter ν) finishReason = reasonOr ν finishReason (lastReason pieces) := by
  induction pieces generalizing finishReason with
  | nil => rfl
  | cons piece rest ih =>
    rw [List.foldl_cons, ih, lastReason, lastReason, List.filterMap_cons]
    cases hreason : piece.reason with
    | none =>
      rw [reasonAfter, hreason]
    | some reason =>
      cases reason with
      | nil =>
        rw [reasonAfter, hreason]
        rfl
      | cons c more =>
        rw [reasonAfter, hreason]
        dsimp only
        rw [List.filter_cons_of_pos (by simp), List.getLast?_cons]
        cases ((rest.filterMap (·.reason)).filter (· ≠ [])).getLast? with
        | none => rfl
        | some last => rfl

/-- Both answer alike just when the other choices say nothing and the last reason that arrives is
read like the first choice's. -/
theorem openAi_parity (settings : AdapterSettings ν) (model : Option JsString)
    (payload : List (JsString × Json ν)) (data : Json ν) (choice : Choice) (rest : List Choice)
    (texts : List JsString) (chunks : List (List Piece)) (reads : List (List UInt8)) (h : IsResponse data (choice :: rest))
    (hdelivers : Delivers chunks.flatten (choice :: rest))
    (htexts : List.Forall₂ (IsData settings) texts chunks)
    (hreads : (TextDecoder.texts TextDecoder.fresh reads).flatten =
      ((texts ++ [js "[DONE]"]).map frame).flatten) :
    Parity (complete payload data) (stream settings model reads) ↔
      (∀ other ∈ rest, other.content = []) ∧
        reasonOr ν .stop (lastReason chunks.flatten) =
          mapFinishReason (some (Json.string (ν := ν) choice.reason)) := by
  obtain ⟨response, hcomplete, hcontent, hreason⟩ := complete_first payload data choice rest h
  obtain ⟨told, usage, named, hstream, hadds⟩ := stream_chunks settings model texts chunks reads
    htexts hreads
  have htext : streamedText (stream settings model reads).1 = chunks.flatten.flatMap (·.text) := by
    rw [hstream, streamedText_append, hadds.text]
    exact List.append_nil _
  have hcompletion : completion (stream settings model reads).1 =
      some ⟨reasonOr ν .stop (lastReason chunks.flatten), usage, named⟩ := by
    rw [hstream, ← foldl_reasonAfter]
    exact completion_append _ _ hadds.quiet
  rw [← others_silent_iff _ _ _ hdelivers, ← hreason]
  constructor
  · rintro ⟨other, hother, hagrees⟩
    obtain rfl := Except.ok.inj (hcomplete.symm.trans hother)
    obtain ⟨usage', named', hcompleted⟩ := hagrees.completed
    rw [hcompletion] at hcompleted
    refine ⟨?_, (Completion.mk.inj (Option.some.inj hcompleted)).1⟩
    have hsame := hagrees.content
    rw [hcontent, htext] at hsame
    exact (Json.string.inj hsame).symm
  · rintro ⟨hsame, hfinish⟩
    refine ⟨response, hcomplete, ?_, usage, named, ?_⟩
    · rw [hcontent, htext, hsame]
    · rw [hcompletion, hfinish]

def single : Json ℤ :=
  .object [(js "choices", .array [.object [
    (js "message", .object [(js "content", .string (js "a"))]),
    (js "finish_reason", .string (js "stop"))]])]

def double : Json ℤ :=
  .object [(js "choices", .array [
    .object [(js "message", .object [(js "content", .string (js "a"))]),
      (js "finish_reason", .string (js "stop"))],
    .object [(js "message", .object [(js "content", .string (js "b"))]),
      (js "finish_reason", .string (js "stop"))]])]

def chunkText (index text : String) : JsString :=
  js "\x7b\"choices\":[\x7b\"index\":" ++ js index ++
    js ",\"delta\":\x7b\"content\":\"" ++ js text ++
    js "\"\x7d,\"finish_reason\":\"stop\"\x7d]\x7d"

def chunkData (index : ℤ) (text : String) : Json ℤ :=
  .object [(js "choices", .array [.object [(js "index", .number index),
    (js "delta", .object [(js "content", .string (js text))]),
    (js "finish_reason", .string (js "stop"))]])]

def sample : AdapterSettings ℤ where
  parseJson text :=
    if text = chunkText "0" "a" then some (chunkData 0 "a")
    else if text = chunkText "1" "b" then some (chunkData 1 "b") else none
  toLowerCase := id
  describe _ := js "TypeError"
  apiKey := []
  defaultModel := js "gpt-4o"
  providerKind := js "openai"

theorem chunkData_chunk (index : ℤ) (text : String) (place : ℕ) :
    IsChunk (chunkData index text) [⟨place, js text, some (js "stop")⟩] where
  object := ⟨_, rfl⟩
  noError := rfl
  choices := ⟨_, rfl, .cons ⟨⟨_, rfl⟩, .inl rfl, .inl rfl⟩ .nil⟩
  usage key hkey := by
    fin_cases hkey <;> exact .inl rfl

theorem chunkText_data (index text : String) (number : ℤ) (place : ℕ)
    (hline : OneLine (chunkText index text)) (htrim : trim (chunkText index text) ≠ [])
    (hdone : trim (chunkText index text) ≠ js "[DONE]")
    (hparsed : sample.parseJson (trim (chunkText index text)) = some (chunkData number text)) :
    IsData sample (chunkText index text) [⟨place, js text, some (js "stop")⟩] :=
  ⟨hline, htrim, hdone, _, hparsed, chunkData_chunk number text place⟩

theorem chunkText_first :
    IsData sample (chunkText "0" "a") [⟨0, js "a", some (js "stop")⟩] := by
  refine chunkText_data "0" "a" 0 0 ?_ (by decide +kernel) (by decide +kernel) ?_
  · change ∀ c ∈ chunkText "0" "a", c ≠ 0x0A ∧ c ≠ 0x0D
    exact each_of_all _ (by decide +kernel)
  · have htrim : trim (chunkText "0" "a") = chunkText "0" "a" := by decide +kernel
    rw [htrim]
    unfold sample
    dsimp only
    rw [if_pos rfl]

theorem chunkText_second :
    IsData sample (chunkText "1" "b") [⟨1, js "b", some (js "stop")⟩] := by
  refine chunkText_data "1" "b" 1 1 ?_ (by decide +kernel) (by decide +kernel) ?_
  · change ∀ c ∈ chunkText "1" "b", c ≠ 0x0A ∧ c ≠ 0x0D
    exact each_of_all _ (by decide +kernel)
  · have htrim : trim (chunkText "1" "b") = chunkText "1" "b" := by decide +kernel
    have hother : chunkText "1" "b" ≠ chunkText "0" "a" := by decide +kernel
    rw [htrim]
    unfold sample
    dsimp only
    rw [if_neg hother, if_pos rfl]

theorem openAi_parity_single :
    Parity (complete [] single)
      (stream sample none
        [StreamChunking.octets (frame (chunkText "0" "a") ++ frame (js "[DONE]"))]) := by
  refine (openAi_parity sample none [] single ⟨js "a", js "stop"⟩ [] [chunkText "0" "a"]
    [[⟨0, js "a", some (js "stop")⟩]] _ ?_ ?_ (.cons chunkText_first .nil) (by decide +kernel)).mpr
    ⟨fun _ hmem => (nomatch hmem), rfl⟩
  · refine ⟨⟨_, rfl⟩, ⟨_, rfl, .cons ⟨rfl, rfl⟩ .nil⟩, fun key hkey => ?_⟩
    fin_cases hkey <;> exact .inl rfl
  · refine ⟨by decide, fun i choice hi => ?_, fun i choice hi => ?_⟩
    · cases i with
      | zero =>
        cases hi
        rfl
      | succ i => cases hi
    · cases i with
      | zero =>
        cases hi
        exact ⟨0, rfl⟩
      | succ i => cases hi

/-- A delivery of two choices whose second one is told as if it belonged to the first. -/
theorem second_choice_told :
    IsResponse double [⟨js "a", js "stop"⟩, ⟨js "b", js "stop"⟩] ∧
    Delivers [⟨0, js "a", some (js "stop")⟩, ⟨1, js "b", some (js "stop")⟩]
      [⟨js "a", js "stop"⟩, ⟨js "b", js "stop"⟩] ∧
    IsData sample (chunkText "0" "a") [⟨0, js "a", some (js "stop")⟩] ∧
    IsData sample (chunkText "1" "b") [⟨1, js "b", some (js "stop")⟩] ∧
    ¬Parity (complete [] double)
      (stream sample none [StreamChunking.octets (frame (chunkText "0" "a") ++
        frame (chunkText "1" "b") ++ frame (js "[DONE]"))]) := by
  have hresponse : IsResponse double [⟨js "a", js "stop"⟩, ⟨js "b", js "stop"⟩] := by
    refine ⟨⟨_, rfl⟩, ⟨_, rfl, .cons ⟨rfl, rfl⟩ (.cons ⟨rfl, rfl⟩ .nil)⟩, fun key hkey => ?_⟩
    fin_cases hkey <;> exact .inl rfl
  refine ⟨hresponse, ⟨by decide, fun i choice hi => ?_, fun i choice hi => ?_⟩, chunkText_first,
    chunkText_second, ?_⟩
  · rcases i with - | - | i
    · cases hi
      rfl
    · cases hi
      rfl
    · cases hi
  · rcases i with - | - | i
    · cases hi
      exact ⟨0, rfl⟩
    · cases hi
      exact ⟨0, rfl⟩
    · cases hi
  · rintro ⟨response, hresponded, hagrees⟩
    obtain ⟨first, hfirst, hcontent, -⟩ := complete_first [] double _ _ hresponse
    obtain ⟨told, usage, named, hstream, hadds⟩ := stream_chunks sample none
      [chunkText "0" "a", chunkText "1" "b"]
      [[⟨0, js "a", some (js "stop")⟩], [⟨1, js "b", some (js "stop")⟩]]
      [StreamChunking.octets (frame (chunkText "0" "a") ++ frame (chunkText "1" "b") ++
        frame (js "[DONE]"))] (.cons chunkText_first (.cons chunkText_second .nil))
      (by decide +kernel)
    obtain rfl := Except.ok.inj (hfirst.symm.trans hresponded)
    have hsame := hagrees.content
    rw [hcontent, hstream, streamedText_append, hadds.text] at hsame
    have htext : js "a" = js "ab" := Json.string.inj hsame
    exact absurd htext (by decide)

end Glassbeetle.OpenAiReplies
