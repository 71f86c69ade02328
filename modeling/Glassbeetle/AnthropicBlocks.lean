import Glassbeetle.TerminalEvents

set_option autoImplicit false

namespace Glassbeetle.AnthropicBlocks
open JsText JsValue AdapterTypes LineStream AdapterStreams TerminalEvents
open ExecutionChain (ok_of_bind)

variable {ν : Type}

structure Frame where
  currentEvent : JsString
  dataLines : List JsString

abbrev Block := JsString × JsString

def Frame.block (f : Frame) : Block := (f.currentEvent, join (js "\n") f.dataLines)

def Frame.line (f : Frame) (line : JsString) : Option Block × Frame :=
  if trim line = [] then
    if f.dataLines = [] ∧ f.currentEvent = [] then (none, f) else (some f.block, ⟨[], []⟩)
  else if startsWith line (js ":") then (none, f)
  else if startsWith line (js "event:") then (none, { f with currentEvent := trim (line.drop 6) })
  else if startsWith line (js "data:") then
    (none, { f with dataLines := f.dataLines ++ [trimStart (line.drop 5)] })
  else (none, f)

/-- The end of the body; an event name alone is not an event there. -/
def Frame.last (f : Frame) (buffer : JsString) : Option Block :=
  let trailing := trim buffer
  let f : Frame :=
    if startsWith trailing (js "event:") then { f with currentEvent := trim (trailing.drop 6) }
    else if startsWith trailing (js "data:") then
      { f with dataLines := f.dataLines ++ [trimStart (trailing.drop 5)] }
    else if trailing ≠ [] ∧ ¬startsWith trailing (js ":") then
      { f with dataLines := f.dataLines ++ [trailing] }
    else f
  if f.dataLines = [] then none else some f.block

def Frame.blocks (f : Frame) : List JsString → List Block
  | [] => []
  | [rest] => (f.last rest).toList
  | line :: next :: more => (f.line line).1.toList ++ (f.line line).2.blocks (next :: more)

def blocks (text : JsString) : List Block := (Frame.mk [] []).blocks (splitLines text)

inductive Kind where
  /-- Nothing comes of it. -/
  | silent
  /-- Text, thought or token counts. -/
  | speaking
  /-- The reply is complete. -/
  | closing
  /-- An error of the server's. -/
  | failing
  deriving DecidableEq, Repr

variable [JsNumber ν]

def kind (settings : AdapterSettings ν) (block : Block) : Kind :=
  let trimmed := trim block.2
  if trimmed = js "[DONE]" then .closing
  else if trimmed = [] then .silent
  else match settings.parseJson trimmed with
    | none => .silent
    | some parsed =>
      let parsed := some parsed
      let type := if block.1 = [] then optional parsed "type" else some (.string block.1)
      if isText type "message_start" then
        if truthy (optional (optional parsed "message") "usage") then .speaking else .silent
      else if isText type "content_block_delta" then
        let delta := optional parsed "delta"
        if (isText (optional delta "type") "text_delta" ∧ (asString (optional delta "text")).isSome) ∨
            (isText (optional delta "type") "thinking_delta" ∧
              (asString (optional delta "thinking")).isSome) then .speaking
        else .silent
      else if isText type "message_delta" then
        if (optional (optional parsed "usage") "output_tokens").isSome then .speaking else .silent
      else if isText type "message_stop" then .closing
      else if isText type "error" then .failing
      else .silent

/-- No error of the server's precedes the event that completes the reply, and nothing speaks after it. -/
def Orderly : List Kind → Prop
  | [] => True
  | .failing :: _ => False
  | .closing :: rest => ∀ k ∈ rest, k = .silent
  | .silent :: rest => Orderly rest
  | .speaking :: rest => Orderly rest

instance (kinds : List Kind) : Decidable (Orderly kinds) :=
  match kinds with
  | [] => inferInstanceAs (Decidable True)
  | .failing :: _ => inferInstanceAs (Decidable False)
  | .closing :: rest => inferInstanceAs (Decidable (∀ k ∈ rest, k = Kind.silent))
  | .silent :: rest => instDecidableOrderly rest
  | .speaking :: rest => instDecidableOrderly rest

section Parsing
variable (settings : AdapterSettings ν)

def Yields (kind : Kind) (events : List (Event ν)) (before after : Bool) : Prop :=
  match kind with
  | .silent => events = [] ∧ after = before
  | .speaking => ∃ e, events = [e] ∧ e.terminal = false ∧ after = before
  | .closing => ∃ e, events = [e] ∧ e.terminal = true ∧ after = true
  | .failing => ∃ e, events = [e] ∧ e.terminal = true ∧ after = before

omit [JsNumber ν] in
theorem get_optional (parsed : Json ν) (key : String) (value : Value ν)
    (h : get (some parsed) key = .ok value) : optional (some parsed) key = value := by
  cases parsed <;> cases h <;> rfl

theorem messageStart_yields (parsed : Value ν) (ctx next : ReplyContext ν) (events : List (Event ν))
    (h : AnthropicStream.messageStart parsed ctx = .ok (events, next)) :
    Yields (if truthy (optional (optional parsed "message") "usage") = true then .speaking else .silent)
      events ctx.completed next.completed := by
  unfold AnthropicStream.messageStart at h
  dsimp only at h
  split_ifs at h ⊢
  · obtain ⟨usage, -, h⟩ := ok_of_bind _ _ _ h
    cases h
    refine ⟨_, rfl, rfl, ?_⟩
    cases present (optional (optional parsed "message") "model") <;> rfl
  · cases h
    refine ⟨rfl, ?_⟩
    cases present (optional (optional parsed "message") "model") <;> rfl

omit [JsNumber ν] in
theorem asString_isSome (value : Value ν) : (asString value).isSome ↔ ∃ s, value = some (.string s) := by
  rcases value with _ | (_ | b | n | s | items | fields) <;> simp [asString]

omit [JsNumber ν] in
theorem contentBlockDelta_yields (parsed : Value ν) (completed : Bool) :
    Yields (if (isText (optional (optional parsed "delta") "type") "text_delta" ∧
          (asString (optional (optional parsed "delta") "text")).isSome) ∨
        (isText (optional (optional parsed "delta") "type") "thinking_delta" ∧
          (asString (optional (optional parsed "delta") "thinking")).isSome) then .speaking else .silent)
      (AnthropicStream.contentBlockDelta parsed) completed completed := by
  unfold AnthropicStream.contentBlockDelta
  dsimp only
  by_cases htext : isText (optional (optional parsed "delta") "type") "text_delta" = true ∧
      (asString (optional (optional parsed "delta") "text")).isSome
  · rw [if_pos (.inl htext)]
    obtain ⟨text, hstring⟩ := (asString_isSome _).mp htext.2
    rw [htext.1, hstring]
    exact ⟨_, rfl, rfl, rfl⟩
  by_cases hthinking : isText (optional (optional parsed "delta") "type") "thinking_delta" = true ∧
      (asString (optional (optional parsed "delta") "thinking")).isSome
  · rw [if_pos (.inr hthinking)]
    obtain ⟨thinking, hstring⟩ := (asString_isSome _).mp hthinking.2
    split
    · exact ⟨_, rfl, rfl, rfl⟩
    · rw [hthinking.1, hstring]
      exact ⟨_, rfl, rfl, rfl⟩
  · rw [if_neg (not_or.mpr ⟨htext, hthinking⟩)]
    split
    next text htype hstring =>
      exact absurd ⟨htype, (asString_isSome _).mpr ⟨text, hstring⟩⟩ htext
    next =>
      split
      next thinking htype hstring =>
        exact absurd ⟨htype, (asString_isSome _).mpr ⟨thinking, hstring⟩⟩ hthinking
      next => exact ⟨rfl, rfl⟩

theorem messageDelta_yields (parsed : Value ν) (ctx next : ReplyContext ν) (events : List (Event ν))
    (h : AnthropicStream.messageDelta parsed ctx = .ok (events, next)) :
    Yields (if (optional (optional parsed "usage") "output_tokens").isSome = true then .speaking
      else .silent) events ctx.completed next.completed := by
  have hreason : ∀ (reported : Bool) (reason : FinishReason),
      (if reported = true then { ctx with finishReason := reason } else ctx).completed =
        ctx.completed := by
    intro reported reason
    cases reported <;> rfl
  unfold AnthropicStream.messageDelta at h
  dsimp only at h
  cases htokens : optional (optional parsed "usage") "output_tokens" with
  | none =>
    rw [htokens] at h
    cases h
    exact ⟨rfl, hreason _ _⟩
  | some outputTokens =>
    rw [htokens] at h
    obtain ⟨usage, -, h⟩ := ok_of_bind _ _ _ h
    cases h
    exact ⟨_, rfl, rfl, hreason _ _⟩

omit [JsNumber ν] in
theorem ite_bind {α β : Type} (c : Prop) [Decidable c] (x y : Except TypeError α)
    (f : α → Except TypeError β) :
    (if c then x >>= f else y >>= f) = (if c then x else y) >>= f := by
  split_ifs <;> rfl

theorem parse_yields (block : Block) (ctx next : ReplyContext ν) (events : List (Event ν))
    (h : AnthropicStream.parseSseEvent settings block.1 ctx block.2 = .ok (events, next)) :
    Yields (kind settings block) events ctx.completed next.completed := by
  unfold AnthropicStream.parseSseEvent at h
  unfold kind
  dsimp only at h ⊢
  by_cases hdone : trim block.2 = js "[DONE]"
  · rw [if_pos hdone] at h ⊢
    obtain ⟨event, hevent, h⟩ := ok_of_bind _ _ _ h
    cases h
    exact ⟨event, rfl, reply_complete _ event hevent, rfl⟩
  rw [if_neg hdone] at h ⊢
  by_cases hempty : trim block.2 = []
  · rw [if_pos hempty] at h ⊢
    cases h
    exact ⟨rfl, rfl⟩
  rw [if_neg hempty] at h ⊢
  cases hparsed : settings.parseJson (trim block.2) with
  | none =>
    rw [hparsed] at h
    cases h
    exact ⟨rfl, rfl⟩
  | some parsed =>
    rw [hparsed] at h
    dsimp only at h ⊢
    rw [ite_bind] at h
    obtain ⟨type, htype, h⟩ := ok_of_bind _ _ _ h
    have hsame : (if block.1 = [] then optional (some parsed) "type" else some (.string block.1)) =
        type := by
      split_ifs at htype ⊢
      · exact get_optional parsed "type" type htype
      · exact Except.ok.inj htype
    rw [hsame]
    by_cases hstart : isText type "message_start" = true
    · rw [if_pos hstart] at h ⊢
      obtain ⟨message, -, h⟩ := ok_of_bind _ _ _ h
      exact messageStart_yields (some parsed) ctx next events h
    rw [if_neg hstart] at h ⊢
    by_cases hblock : isText type "content_block_delta" = true
    · rw [if_pos hblock] at h ⊢
      obtain ⟨delta, -, h⟩ := ok_of_bind _ _ _ h
      cases h
      exact contentBlockDelta_yields (some parsed) _
    rw [if_neg hblock] at h ⊢
    by_cases hdelta : isText type "message_delta" = true
    · rw [if_pos hdelta] at h ⊢
      obtain ⟨delta, -, h⟩ := ok_of_bind _ _ _ h
      exact messageDelta_yields (some parsed) ctx next events h
    rw [if_neg hdelta] at h ⊢
    by_cases hstop : isText type "message_stop" = true
    · rw [if_pos hstop] at h ⊢
      obtain ⟨event, hevent, h⟩ := ok_of_bind _ _ _ h
      cases h
      exact ⟨event, rfl, reply_complete _ event hevent, rfl⟩
    rw [if_neg hstop] at h ⊢
    by_cases herror : isText type "error" = true
    · rw [if_pos herror] at h ⊢
      obtain ⟨error, -, h⟩ := ok_of_bind _ _ _ h
      obtain ⟨mapped, -, h⟩ := ok_of_bind _ _ _ h
      cases h
      exact ⟨_, rfl, rfl, rfl⟩
    rw [if_neg herror] at h ⊢
    cases h
    exact ⟨rfl, rfl⟩

/-- What is still to come: a reply under way ends with one terminal event exactly if the rest is orderly,
and after a complete reply nothing comes exactly if the rest is silent. -/
structure Closes (completed : Bool) (events : List (Event ν)) (kinds : List Kind) : Prop where
  nonempty : completed = false → events ≠ []
  underWay : completed = false → (OneTerminal events ↔ Orderly kinds)
  complete : completed = true → (events = [] ↔ ∀ k ∈ kinds, k = .silent)

theorem closes_final (ctx : ReplyContext ν) (last : List (Event ν)) (h : ctx.final = .ok last) :
    Closes ctx.completed last [] := by
  cases hcompleted : ctx.completed with
  | false =>
    have hone := reply_final ctx last hcompleted h
    refine ⟨fun _ hnil => ?_, fun _ => iff_of_true hone trivial, nofun⟩
    rw [hnil] at hone
    exact not_oneTerminal_nil hone
  | true =>
    unfold ReplyContext.final at h
    rw [if_pos hcompleted] at h
    cases h
    exact ⟨nofun, nofun, fun _ => iff_of_true rfl nofun⟩

omit [JsNumber ν] in
theorem closes_cons (kind : Kind) (kinds : List Kind) (before after : Bool)
    (events rest : List (Event ν)) (h : Yields kind events before after)
    (hrest : Closes after rest kinds) : Closes before (events ++ rest) (kind :: kinds) := by
  cases kind with
  | silent =>
    obtain ⟨rfl, rfl⟩ := h
    refine ⟨hrest.nonempty, hrest.underWay, fun hbefore => (hrest.complete hbefore).trans ?_⟩
    exact ⟨fun hall k hk => (List.mem_cons.mp hk).elim id (hall k),
      fun hall k hk => hall k (List.mem_cons_of_mem _ hk)⟩
  | speaking =>
    obtain ⟨e, rfl, hterminal, rfl⟩ := h
    refine ⟨fun _ => List.cons_ne_nil _ _, fun hbefore => ?_, fun _ => iff_of_false
      (List.cons_ne_nil _ _) fun hall => absurd (hall _ List.mem_cons_self) nofun⟩
    rw [List.singleton_append, oneTerminal_cons, if_neg (by rw [hterminal]; exact Bool.false_ne_true)]
    exact hrest.underWay hbefore
  | closing =>
    obtain ⟨e, rfl, hterminal, rfl⟩ := h
    refine ⟨fun _ => List.cons_ne_nil _ _, fun _ => ?_, fun _ => iff_of_false
      (List.cons_ne_nil _ _) fun hall => absurd (hall _ List.mem_cons_self) nofun⟩
    rw [List.singleton_append, oneTerminal_cons, if_pos hterminal]
    exact hrest.complete rfl
  | failing =>
    obtain ⟨e, rfl, hterminal, rfl⟩ := h
    refine ⟨fun _ => List.cons_ne_nil _ _, fun hbefore => ?_, fun _ => iff_of_false
      (List.cons_ne_nil _ _) fun hall => absurd (hall _ List.mem_cons_self) nofun⟩
    rw [List.singleton_append, oneTerminal_cons, if_pos hterminal]
    exact iff_of_false (hrest.nonempty hbefore) id

end Parsing

section Framing
variable (settings : AdapterSettings ν)

def Frame.state (f : Frame) (context : ReplyContext ν) : AnthropicStream.State ν :=
  ⟨f.currentEvent, f.dataLines, context⟩

theorem line_frame (f : Frame) (ctx : ReplyContext ν) (text : JsString) :
    AnthropicStream.line settings (f.state ctx) text =
      match f.line text with
      | (none, f) => ([], .ok (f.state ctx))
      | (some block, f) =>
        match AnthropicStream.parseSseEvent settings block.1 ctx block.2 with
        | .error e => ([], .error (failed settings "Anthropic" (js "anthropic") e))
        | .ok (events, ctx) => (events, .ok (f.state ctx)) := by
  unfold AnthropicStream.line Frame.line Frame.state
  split_ifs <;> rfl

theorem last_frame (f : Frame) (ctx : ReplyContext ν) (buffer : JsString) :
    AnthropicStream.last settings (f.state ctx) buffer =
      match (match f.last buffer with
        | none => Except.ok ([], ctx)
        | some block => AnthropicStream.parseSseEvent settings block.1 ctx block.2) with
      | .error e => ([], failed settings "Anthropic" (js "anthropic") e)
      | .ok (events, ctx) =>
        match ctx.final with
        | .error e => (events, failed settings "Anthropic" (js "anthropic") e)
        | .ok final => (events ++ final, .returned) := by
  unfold AnthropicStream.last Frame.last Frame.state
  dsimp only
  split_ifs <;> rfl

theorem last_closes (f : Frame) (ctx : ReplyContext ν) (buffer : JsString)
    (h : (AnthropicStream.last settings (f.state ctx) buffer).2 = .returned) :
    Closes ctx.completed (AnthropicStream.last settings (f.state ctx) buffer).1
      ((f.last buffer).toList.map (kind settings)) := by
  rw [last_frame] at h ⊢
  cases hlast : f.last buffer with
  | none =>
    rw [hlast] at h
    dsimp only at h ⊢
    cases hfinal : ctx.final with
    | error e =>
      rw [hfinal] at h
      cases h
    | ok last => exact closes_final ctx last hfinal
  | some block =>
    rw [hlast] at h
    dsimp only at h ⊢
    cases hparsed : AnthropicStream.parseSseEvent settings block.1 ctx block.2 with
    | error e =>
      rw [hparsed] at h
      cases h
    | ok parsed =>
      obtain ⟨events, next⟩ := parsed
      rw [hparsed] at h
      dsimp only at h ⊢
      cases hfinal : next.final with
      | error e =>
        rw [hfinal] at h
        cases h
      | ok last =>
        exact closes_cons _ [] _ _ events last (parse_yields settings block ctx next events hparsed)
          (closes_final next last hfinal)

theorem consume_closes (f : Frame) (ctx : ReplyContext ν) (lines : List JsString) (hlines : lines ≠ [])
    (h : (consume (AnthropicStream.consumer settings) (f.state ctx) lines).2 = .returned) :
    Closes ctx.completed (consume (AnthropicStream.consumer settings) (f.state ctx) lines).1
      ((f.blocks lines).map (kind settings)) := by
  induction lines generalizing f ctx with
  | nil => exact absurd rfl hlines
  | cons line rest ih =>
    cases rest with
    | nil =>
      rw [consume_single] at h ⊢
      exact last_closes settings f ctx line h
    | cons next more =>
      rw [consume_cons _ _ _ _ (List.cons_ne_nil _ _)] at h ⊢
      have hline : (AnthropicStream.consumer settings).line (f.state ctx) line = _ :=
        line_frame settings f ctx line
      rw [hline] at h ⊢
      unfold Frame.blocks
      rw [List.map_append]
      cases hframe : f.line line with
      | mk block g =>
        rw [hframe] at h
        cases block with
        | none => exact ih g ctx (List.cons_ne_nil _ _) h
        | some block =>
          dsimp only at h ⊢
          cases hparsed : AnthropicStream.parseSseEvent settings block.1 ctx block.2 with
          | error e =>
            rw [hparsed] at h
            cases h
          | ok parsed =>
            obtain ⟨events, after⟩ := parsed
            rw [hparsed] at h
            exact closes_cons _ _ _ _ events _ (parse_yields settings block ctx after events hparsed)
              (ih g after (List.cons_ne_nil _ _) h)

theorem anthropic_oneTerminal (model : Option JsString) (reads : List (List UInt8))
    (h : (AnthropicStream.stream settings model reads).2 = .returned) :
    OneTerminal (AnthropicStream.stream settings model reads).1 ↔
      Orderly ((blocks (TextDecoder.texts TextDecoder.fresh reads).flatten).map (kind settings)) := by
  unfold AnthropicStream.stream at h ⊢
  rw [readLoop_eq _ _ [] _ rfl, List.nil_append] at h ⊢
  exact (consume_closes settings ⟨[], []⟩ (.start settings model) _ (splitLines_ne_nil _) h).underWay rfl

theorem one_terminal_event (kind : AdapterKind) (status : ℕ) (model : Option JsString)
    (reads : List (List UInt8))
    (h : (StreamChunking.stream kind settings status model reads).2 = .returned) :
    OneTerminal (StreamChunking.stream kind settings status model reads).1 ↔
      (kind = .anthropic →
        Orderly ((blocks (TextDecoder.texts TextDecoder.fresh reads).flatten).map
          (AnthropicBlocks.kind settings))) := by
  cases kind with
  | anthropic =>
    rw [forall_prop_of_true rfl]
    exact anthropic_oneTerminal settings model reads h
  | openAi => exact iff_of_true (openAi_ends settings model reads h) nofun
  | google => exact iff_of_true (google_ends settings model reads h) nofun
  | ollama => exact iff_of_true (ollama_ends settings status model reads h) nofun

end Framing

def body (text : String) : List UInt8 := (js text).map UInt16.toUInt8

theorem one_terminal_event_done :
    OneTerminal (StreamChunking.stream .anthropic StreamChunking.nullRuntime 200 none
      [body "data: [DO", body "NE]\n\n"]).1 :=
  (one_terminal_event StreamChunking.nullRuntime .anthropic 200 none _ (by decide +kernel)).mpr
    fun _ => by decide +kernel

def overloaded : String := "\x7b\"type\":\"error\",\"error\":\x7b\"type\":\"overloaded_error\"\x7d\x7d"

def overloadedRuntime : AdapterSettings ℤ :=
  { StreamChunking.nullRuntime with
    parseJson := fun text =>
      if text = js overloaded then
        some (.object [(js "type", .string (js "error")),
          (js "error", .object [(js "type", .string (js "overloaded_error"))])])
      else none
    defaultModel := js "claude-sonnet-4"
    providerKind := js "anthropic" }

/-- The error that the server reports is followed by the `complete` for a body without an end. -/
theorem error_then_complete :
    (StreamChunking.stream .anthropic overloadedRuntime 200 none
        [body ("event: error\ndata: " ++ overloaded ++ "\n\n")]).2 = .returned ∧
      ¬OneTerminal (StreamChunking.stream .anthropic overloadedRuntime 200 none
        [body ("event: error\ndata: " ++ overloaded ++ "\n\n")]).1 := by
  decide +kernel

end Glassbeetle.AnthropicBlocks
