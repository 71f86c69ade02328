import Glassbeetle.ExecutionChain
import Glassbeetle.StreamChunking

set_option autoImplicit false

namespace Glassbeetle.TerminalEvents
open JsText JsValue AdapterTypes LineStream AdapterStreams
open ExecutionChain (ok_of_bind)

variable {ν : Type}

/-- A single `complete` or `error`, and nothing after it. -/
def OneTerminal (events : List (Event ν)) : Prop :=
  ∃ before last, events = before ++ [last] ∧ last.terminal = true ∧ ∀ e ∈ before, e.terminal = false

def Quiet (events : List (Event ν)) : Prop := ∀ e ∈ events, e.terminal = false

theorem quiet_nil : Quiet ([] : List (Event ν)) := fun _ h => nomatch h

theorem quiet_append (events more : List (Event ν)) (h : Quiet events) (hmore : Quiet more) :
    Quiet (events ++ more) :=
  fun e he => (List.mem_append.mp he).elim (h e) (hmore e)

theorem oneTerminal_single (e : Event ν) (h : e.terminal = true) : OneTerminal [e] :=
  ⟨[], e, rfl, h, quiet_nil⟩

theorem not_oneTerminal_nil : ¬OneTerminal ([] : List (Event ν)) := by
  rintro ⟨before, last, h, -⟩
  exact absurd h (by simp)

theorem oneTerminal_cons (e : Event ν) (rest : List (Event ν)) :
    OneTerminal (e :: rest) ↔ if e.terminal = true then rest = [] else OneTerminal rest := by
  constructor
  · rintro ⟨before, last, hevents, hlast, hbefore⟩
    cases before with
    | nil =>
      obtain ⟨rfl, rfl⟩ := List.cons.inj hevents
      rw [if_pos hlast]
    | cons first before =>
      obtain ⟨rfl, rfl⟩ := List.cons.inj hevents
      rw [if_neg (by rw [hbefore e List.mem_cons_self]; exact Bool.false_ne_true)]
      exact ⟨before, last, rfl, hlast, fun x hx => hbefore x (List.mem_cons_of_mem _ hx)⟩
  · intro h
    split_ifs at h with hterminal
    · rw [h]
      exact oneTerminal_single e hterminal
    · obtain ⟨before, last, rfl, hlast, hbefore⟩ := h
      refine ⟨e :: before, last, rfl, hlast, fun x hx => ?_⟩
      rcases List.mem_cons.mp hx with rfl | hx
      · exact Bool.eq_false_iff.mpr hterminal
      · exact hbefore x hx

instance decidableOneTerminal : (events : List (Event ν)) → Decidable (OneTerminal events)
  | [] => .isFalse not_oneTerminal_nil
  | e :: rest =>
    letI := decidableOneTerminal rest
    decidable_of_iff (if e.terminal = true then rest.isEmpty = true else OneTerminal rest) (by
      rw [oneTerminal_cons, List.isEmpty_iff])

theorem oneTerminal_append (events rest : List (Event ν)) (h : Quiet events) :
    OneTerminal (events ++ rest) ↔ OneTerminal rest := by
  induction events with
  | nil => exact Iff.rfl
  | cons e events ih =>
    rw [List.cons_append, oneTerminal_cons,
      if_neg (by rw [h e List.mem_cons_self]; exact Bool.false_ne_true)]
    exact ih fun x hx => h x (List.mem_cons_of_mem _ hx)

section Sse
variable {σ : Type} (parse : Parse ν σ) (failure : TypeError → Ending)
  (final : σ → Except TypeError (List (Event ν))) (Open : σ → Prop)

theorem untilTerminal_split (events : List (Event ν)) :
    (untilTerminal events = ((untilTerminal events).1, true) ∧ OneTerminal (untilTerminal events).1) ∨
      (untilTerminal events = (events, false) ∧ Quiet events) := by
  induction events with
  | nil => exact .inr ⟨rfl, quiet_nil⟩
  | cons e rest ih =>
    unfold untilTerminal
    split_ifs with hterminal
    · exact .inl ⟨rfl, oneTerminal_single e hterminal⟩
    · rcases ih with ⟨hflag, hone⟩ | ⟨hsame, hquiet⟩
      · refine .inl ⟨by rw [hflag], ?_⟩
        rw [oneTerminal_cons, if_neg hterminal]
        exact hone
      · refine .inr ⟨by rw [hsame], fun x hx => ?_⟩
        rcases List.mem_cons.mp hx with rfl | hx
        · exact Bool.eq_false_iff.mpr hterminal
        · exact hquiet x hx

def Ends (events : List (Event ν)) (ending : Ending) : Prop := ending = .returned → OneTerminal events

variable (hfailure : ∀ e, failure e ≠ .returned)
  (hparse : ∀ context data events next, Open context → parse context data = .ok (events, next) →
    Quiet events → Open next)
  (hfinal : ∀ context last, Open context → final context = .ok last → OneTerminal last)

include hparse in
theorem sseLine_ok (events more : List (Event ν)) (state next : SseState σ) (text : JsString)
    (h : Quiet events ∧ Open state.context) (hline : sseLine parse failure state text = (more, .ok next)) :
    Quiet (events ++ more) ∧ Open next.context := by
  unfold sseLine at hline
  split_ifs at hline
  · cases hline
    exact ⟨quiet_append _ _ h.1 quiet_nil, h.2⟩
  · split at hline
    next e _ => cases hline
    next produced context hparsed =>
      rcases untilTerminal_split produced with ⟨hflag, -⟩ | ⟨hsame, hquiet⟩
      · rw [hflag] at hline
        cases hline
      · rw [hsame] at hline
        cases hline
        exact ⟨quiet_append _ _ h.1 hquiet, hparse _ _ _ _ h.2 hparsed hquiet⟩
  · cases hline
    exact ⟨quiet_append _ _ h.1 quiet_nil, h.2⟩
  · cases hline
    exact ⟨quiet_append _ _ h.1 quiet_nil, h.2⟩
  · cases hline
    exact ⟨quiet_append _ _ h.1 quiet_nil, h.2⟩

include hfailure

theorem sseLine_stop (events more : List (Event ν)) (state : SseState σ) (text : JsString)
    (stop : Ending) (h : Quiet events ∧ Open state.context)
    (hline : sseLine parse failure state text = (more, .error stop)) : Ends (events ++ more) stop := by
  intro hreturned
  unfold sseLine at hline
  split_ifs at hline
  · cases hline
  · split at hline
    next e _ =>
      cases hline
      exact absurd hreturned (hfailure e)
    next produced context _ =>
      rcases untilTerminal_split produced with ⟨hflag, hone⟩ | ⟨hsame, -⟩
      · rw [hflag] at hline
        cases hline
        exact (oneTerminal_append _ _ h.1).mpr hone
      · rw [hsame] at hline
        cases hline
  · cases hline
  · cases hline
  · cases hline

include hparse hfinal

theorem sseLast_ends (events : List (Event ν)) (state : SseState σ) (buffer : JsString)
    (h : Quiet events ∧ Open state.context) :
    Ends (events ++ (sseLast parse failure final state buffer).1)
      (sseLast parse failure final state buffer).2 := by
  unfold sseLast
  dsimp only
  split
  next e _ => exact fun hreturned => absurd hreturned (hfailure e)
  next produced context hparsed =>
    have hopen : Quiet produced → Open context := by
      intro hquiet
      split_ifs at hparsed
      all_goals first
        | (cases hparsed; exact h.2)
        | exact hparse _ _ _ _ h.2 hparsed hquiet
    intro hreturned
    rw [oneTerminal_append _ _ h.1]
    rcases untilTerminal_split produced with ⟨hflag, hone⟩ | ⟨hsame, hquiet⟩
    · rw [hflag]
      exact hone
    · rw [hsame] at hreturned ⊢
      cases hlast : final context with
      | error e =>
        simp only [hlast] at hreturned
        exact absurd hreturned (hfailure e)
      | ok last =>
        exact (oneTerminal_append _ _ hquiet).mpr (hfinal context last (hopen hquiet) hlast)

theorem sse_ends (context : σ) (hopen : Open context) (pieces : List JsString) :
    Ends (readLoop ⟨sseLine parse failure, sseLast parse failure final⟩ ⟨[], context⟩ [] pieces).1
      (readLoop ⟨sseLine parse failure, sseLast parse failure final⟩ ⟨[], context⟩ [] pieces).2 := by
  rw [readLoop_eq _ _ [] pieces rfl]
  exact consume_rule ⟨sseLine parse failure, sseLast parse failure final⟩
    (fun events state => Quiet events ∧ Open state.context) Ends
    (fun events state text more next h => sseLine_ok parse failure Open hparse events more state next text h)
    (fun events state text more stop h =>
      sseLine_stop parse failure Open hfailure events more state text stop h)
    (fun events state rest h =>
      sseLast_ends parse failure final Open hfailure hparse hfinal events state rest h)
    [] ⟨[], context⟩ _ (splitLines_ne_nil _) ⟨quiet_nil, hopen⟩

end Sse

section Adapters
variable [JsNumber ν] (settings : AdapterSettings ν)

omit [JsNumber ν] in
theorem failed_ne (name : String) (kind : JsString) (e : TypeError) :
    failed settings name kind e ≠ .returned := nofun

theorem readChoice_completed (progress next : List (Event ν) × OpenAiStream.Context ν)
    (choice : Json ν) (h : OpenAiStream.readChoice progress choice = .ok next) :
    next.2.completed = progress.2.completed := by
  unfold OpenAiStream.readChoice at h
  obtain ⟨delta, -, h⟩ := ok_of_bind _ _ _ h
  cases h
  dsimp only
  split_ifs <;> rfl

theorem readChoices_completed (choices : List (Json ν))
    (progress next : List (Event ν) × OpenAiStream.Context ν)
    (h : choices.foldlM OpenAiStream.readChoice progress = .ok next) :
    next.2.completed = progress.2.completed := by
  induction choices generalizing progress with
  | nil => cases h; rfl
  | cons choice rest ih =>
    rw [List.foldlM_cons] at h
    obtain ⟨mid, hfirst, h⟩ := ok_of_bind _ _ _ h
    exact (ih mid h).trans (readChoice_completed progress mid choice hfirst)

theorem openAi_choices (progress next : List (Event ν) × OpenAiStream.Context ν) (parsed : Value ν)
    (h : (do
      let choices ← JsValue.iterate (JsValue.coalesce (JsValue.optional parsed "choices")
        (some (.array [])))
      choices.foldlM OpenAiStream.readChoice progress) = .ok next) :
    next.2.completed = progress.2.completed := by
  obtain ⟨choices, -, h⟩ := ok_of_bind _ _ _ h
  exact readChoices_completed choices progress next h

theorem openAi_parse (ctx next : OpenAiStream.Context ν) (dataStr : JsString)
    (events : List (Event ν)) (hopen : ctx.completed = false)
    (h : OpenAiStream.parseSseData settings ctx dataStr = .ok (events, next)) (hquiet : Quiet events) :
    next.completed = false := by
  unfold OpenAiStream.parseSseData at h
  dsimp only at h
  split_ifs at h
  · cases h
    exact hopen
  · cases h
    exact absurd (hquiet _ List.mem_cons_self) nofun
  · split at h
    · cases h
      exact hopen
    next parsed _ =>
      obtain ⟨error, -, h⟩ := ok_of_bind _ _ _ h
      split_ifs at h
      · -- An error's event ends the stream, with or without a code.
        cases hcode : present (JsValue.optional error "code") <;>
        · rw [hcode] at h
          obtain ⟨_, -, h⟩ := ok_of_bind _ _ _ h
          obtain ⟨mapped, -, h⟩ := ok_of_bind _ _ _ h
          cases h
          exact absurd (hquiet _ List.mem_cons_self) nofun
      · cases husage : present (JsValue.optional (some parsed) "usage") with
        | none =>
          rw [husage] at h
          obtain ⟨progress, hprogress, h⟩ := ok_of_bind _ _ _ h
          cases hprogress
          refine (openAi_choices _ _ _ h).trans ?_
          cases present (JsValue.optional (some parsed) "model") <;> exact hopen
        | some usage =>
          rw [husage] at h
          obtain ⟨read, -, h⟩ := ok_of_bind _ _ _ h
          obtain ⟨progress, hprogress, h⟩ := ok_of_bind _ _ _ h
          cases hprogress
          refine (openAi_choices _ _ _ h).trans ?_
          cases present (JsValue.optional (some parsed) "model") <;> exact hopen

omit [JsNumber ν] in
theorem openAi_final (ctx : OpenAiStream.Context ν) (last : List (Event ν))
    (hopen : ctx.completed = false) (h : OpenAiStream.final ctx = .ok last) : OneTerminal last := by
  unfold OpenAiStream.final at h
  rw [hopen] at h
  cases h
  exact oneTerminal_single _ rfl

theorem openAi_ends (model : Option JsString) (reads : List (List UInt8)) :
    Ends (OpenAiStream.stream settings model reads).1 (OpenAiStream.stream settings model reads).2 :=
  sse_ends (OpenAiStream.parseSseData settings) (OpenAiStream.failure settings) OpenAiStream.final
    (fun ctx => ctx.completed = false) (failed_ne settings "OpenAI" settings.providerKind)
    (fun ctx dataStr events next => openAi_parse settings ctx next dataStr events)
    openAi_final _ rfl _

theorem reply_complete (ctx : ReplyContext ν) (event : Event ν) (h : ctx.complete = .ok event) :
    event.terminal = true := by
  unfold ReplyContext.complete at h
  obtain ⟨usage, -, h⟩ := ok_of_bind _ _ _ h
  cases h
  rfl

theorem reply_final (ctx : ReplyContext ν) (last : List (Event ν)) (hopen : ctx.completed = false)
    (h : ctx.final = .ok last) : OneTerminal last := by
  unfold ReplyContext.final at h
  rw [hopen, if_neg Bool.false_ne_true] at h
  obtain ⟨event, hevent, h⟩ := ok_of_bind _ _ _ h
  cases h
  exact oneTerminal_single _ (reply_complete ctx event hevent)

/-- The usage that a chunk reports neither completes nor reopens the stream. -/
theorem google_usage (parsed : Value ν) (ctx next : ReplyContext ν) (deltas events : List (Event ν))
    (h : (match present (JsValue.optional parsed "usageMetadata") with
      | none => pure (deltas, ctx)
      | some usage => do
        let ctx := ctx.onUsage (JsValue.optional (some usage) "promptTokenCount")
          (JsValue.optional (some usage) "candidatesTokenCount")
        return (deltas ++ [.usage (← ctx.getUsage)], ctx) :
        Except TypeError (List (Event ν) × ReplyContext ν)) = .ok (events, next)) :
    next.completed = ctx.completed := by
  split at h
  · cases h
    rfl
  · obtain ⟨total, -, h⟩ := ok_of_bind _ _ _ h
    cases h
    rfl

theorem google_candidate (parsed : Value ν) (ctx next : ReplyContext ν) (events : List (Event ν))
    (h : GoogleStream.readCandidate parsed ctx = .ok (events, next)) :
    next.completed = ctx.completed := by
  have hreason : ∀ (reported : Bool) (reason : FinishReason),
      (if reported = true then { ctx with finishReason := reason } else ctx).completed =
        ctx.completed := by
    intro reported reason
    cases reported <;> rfl
  unfold GoogleStream.readCandidate at h
  dsimp only at h
  split at h
  · obtain ⟨error, -, h⟩ := ok_of_bind _ _ _ h
    cases h
    rfl
  · cases hparts : present (JsValue.optional (JsValue.optional
        (first (JsValue.optional parsed "candidates")) "content") "parts") with
    | none =>
      rw [hparts] at h
      obtain ⟨deltas, -, h⟩ := ok_of_bind _ _ _ h
      have hlast := google_usage parsed _ next deltas events h
      exact hlast.trans (hreason _ _)
    | some parts =>
      rw [hparts] at h
      obtain ⟨items, -, h⟩ := ok_of_bind _ _ _ h
      obtain ⟨read, -, h⟩ := ok_of_bind _ _ _ h
      obtain ⟨deltas, -, h⟩ := ok_of_bind _ _ _ h
      have hlast := google_usage parsed _ next deltas events h
      exact hlast.trans (hreason _ _)

theorem google_parse (ctx next : ReplyContext ν) (dataStr : JsString) (events : List (Event ν))
    (hopen : ctx.completed = false)
    (h : GoogleStream.parseSseChunk settings ctx dataStr = .ok (events, next)) (hquiet : Quiet events) :
    next.completed = false := by
  unfold GoogleStream.parseSseChunk at h
  dsimp only at h
  split_ifs at h
  · cases h
    exact hopen
  · obtain ⟨event, hevent, h⟩ := ok_of_bind _ _ _ h
    cases h
    have hterminal := reply_complete _ event hevent
    rw [hquiet _ List.mem_cons_self] at hterminal
    cases hterminal
  · split at h
    · cases h
      exact hopen
    next parsed _ =>
      obtain ⟨error, -, h⟩ := ok_of_bind _ _ _ h
      split_ifs at h
      · obtain ⟨mapped, -, h⟩ := ok_of_bind _ _ _ h
        cases h
        exact absurd (hquiet _ List.mem_cons_self) nofun
      · obtain ⟨mapped, -, h⟩ := ok_of_bind _ _ _ h
        cases h
        exact absurd (hquiet _ List.mem_cons_self) nofun
      · rw [google_candidate (some parsed) _ next events h]
        cases present (JsValue.optional (some parsed) "modelVersion") <;> exact hopen

theorem google_ends (model : Option JsString) (reads : List (List UInt8)) :
    Ends (GoogleStream.stream settings model reads).1 (GoogleStream.stream settings model reads).2 :=
  sse_ends (GoogleStream.parseSseChunk settings) (GoogleStream.failure settings) ReplyContext.final
    (fun ctx => ctx.completed = false) (failed_ne settings "Gemini" (js "google"))
    (fun ctx dataStr events next => google_parse settings ctx next dataStr events)
    reply_final _ rfl _

theorem quiet_text (chunk : Value ν) : Quiet (OllamaStream.text chunk) := by
  intro e he
  obtain ⟨delta, -, rfl⟩ := List.mem_map.mp he
  rfl

theorem quiet_thinking (chunk : Value ν) : Quiet (OllamaStream.thinking chunk) := by
  intro e he
  obtain ⟨delta, -, rfl⟩ := List.mem_map.mp he
  rfl

omit [JsNumber ν] in
theorem quiet_usage (usage : Option (TokenUsage (Json ν))) :
    Quiet (usage.toList.map (StreamEvent.usage : TokenUsage (Json ν) → Event ν)) := by
  intro e he
  obtain ⟨usage, -, rfl⟩ := List.mem_map.mp he
  rfl

def After {σ : Type} (more : List (Event ν)) : Except Ending σ → Prop
  | .ok _ => Quiet more
  | .error stop => Ends more stop

/-- Ollama's adapter returns at a `done`, at an in-band error and at the end of the body. -/
theorem ollama_chunk (status : ℕ) (targetModel : JsString) (state : OllamaStream.State ν)
    (chunk : Json ν) (more : List (Event ν)) (next : Except Ending (OllamaStream.State ν))
    (h : OllamaStream.readChunk settings status targetModel state chunk = (more, next)) :
    After more next := by
  unfold OllamaStream.readChunk at h
  split at h
  next e _ =>
    cases h
    exact fun hreturned => absurd hreturned (failed_ne settings _ _ e)
  next error _ =>
    dsimp only at h
    split at h
    · split at h
      next e _ =>
        cases h
        exact fun hreturned => absurd hreturned (failed_ne settings _ _ e)
      next mapped _ =>
        cases h
        exact fun _ => oneTerminal_single _ rfl
    · have hdeltas := quiet_append _ _ (quiet_thinking (some chunk)) (quiet_text (some chunk))
      split at h
      next e _ =>
        cases h
        exact fun hreturned => absurd hreturned (failed_ne settings _ _ e)
      next usage _ =>
        have hevents := quiet_append _ _ hdeltas (quiet_usage usage)
        split at h
        · cases h
          exact fun _ => (oneTerminal_append _ _ hevents).mpr (oneTerminal_single _ rfl)
        · cases h
          exact hevents

theorem ollama_line (status : ℕ) (targetModel : JsString) (state : OllamaStream.State ν)
    (text : JsString) (more : List (Event ν)) (next : Except Ending (OllamaStream.State ν))
    (h : OllamaStream.line settings status targetModel state text = (more, next)) :
    After more next := by
  unfold OllamaStream.line at h
  dsimp only at h
  split_ifs at h
  · cases h
    exact quiet_nil
  · split at h
    · cases h
      exact quiet_nil
    · exact ollama_chunk settings status targetModel state _ more next h

theorem ollama_last (state : OllamaStream.State ν) (buffer : JsString) :
    OneTerminal (OllamaStream.last settings state buffer).1 := by
  unfold OllamaStream.last
  dsimp only
  split_ifs
  · exact oneTerminal_single _ rfl
  · split
    · exact oneTerminal_single _ rfl
    next chunk _ =>
      split
      · exact oneTerminal_single _ rfl
      · split
        · exact (oneTerminal_append _ _ (quiet_text _)).mpr (oneTerminal_single _ rfl)
        next usage _ =>
          have hevents := quiet_append _ _ (quiet_text (some chunk)) (quiet_usage usage)
          split_ifs
          · exact (oneTerminal_append _ _ hevents).mpr (oneTerminal_single _ rfl)
          · exact (oneTerminal_append _ _ hevents).mpr (oneTerminal_single _ rfl)

theorem ollama_ends (status : ℕ) (model : Option JsString) (reads : List (List UInt8)) :
    Ends (OllamaStream.stream settings status model reads).1
      (OllamaStream.stream settings status model reads).2 := by
  unfold OllamaStream.stream
  dsimp only
  rw [readLoop_eq _ _ [] _ rfl]
  refine consume_rule _ (fun events _ => Quiet events) Ends (fun events state text more next h hline => ?_)
    (fun events state text more stop h hline hreturned => ?_) (fun events state rest h _ => ?_)
    [] _ _ (splitLines_ne_nil _) quiet_nil
  · exact quiet_append _ _ h (ollama_line settings status _ state text more _ hline)
  · exact (oneTerminal_append _ _ h).mpr
      (ollama_line settings status _ state text more _ hline hreturned)
  · exact (oneTerminal_append _ _ h).mpr (ollama_last settings state rest)

end Adapters

end Glassbeetle.TerminalEvents
