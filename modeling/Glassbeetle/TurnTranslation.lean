import Glassbeetle.ContextConstruction
import Glassbeetle.MaximalRuns

set_option autoImplicit false

/-!
# Turns for Anthropic and Gemini

Both `translateMessages`, which hoist system messages, merge neighbours of the
same role and put a user turn first. What they keep is proved for Anthropic's;
Gemini's is the same fold over wrapped turns.
-/
namespace Glassbeetle.TurnTranslation
open JsText ContextConstruction

inductive AnthropicRole where
  | user
  | assistant
  deriving DecidableEq, Repr

structure AnthropicWireMessage where
  role : AnthropicRole
  content : JsString
  deriving DecidableEq, Repr

inductive GeminiRole where
  | user
  | model
  deriving DecidableEq, Repr

structure GeminiPart where
  text : JsString
  deriving DecidableEq, Repr

structure GeminiContent where
  role : GeminiRole
  parts : List GeminiPart
  deriving DecidableEq, Repr

def formattedContent (msg : AdapterMessage) : JsString :=
  match truthy msg.name with
  | some name => name ++ js ": " ++ msg.content
  | none => msg.content

namespace Anthropic

def hoistMessage (acc : List JsString × List AdapterMessage) (msg : AdapterMessage) :
    List JsString × List AdapterMessage :=
  if msg.role = js "system" then
    if (trim msg.content).length > 0 then (acc.1 ++ [trim msg.content], acc.2) else acc
  else (acc.1, acc.2 ++ [msg])

def hoist (systemPrompt : Option JsString) (messages : List AdapterMessage) :
    List JsString × List AdapterMessage :=
  messages.foldl hoistMessage ((trimmed systemPrompt).toList, [])

def wireRole (msg : AdapterMessage) : AnthropicRole :=
  if msg.role = js "assistant" then .assistant else .user

def mergeMessage (wireMessages : List AnthropicWireMessage) (msg : AdapterMessage) :
    List AnthropicWireMessage :=
  match wireMessages.getLast? with
  | some previous =>
    if previous.role = wireRole msg then
      wireMessages.dropLast ++
        [{ previous with content := previous.content ++ js "\n\n" ++ formattedContent msg }]
    else wireMessages ++ [⟨wireRole msg, formattedContent msg⟩]
  | none => wireMessages ++ [⟨wireRole msg, formattedContent msg⟩]

def filler : AnthropicWireMessage := ⟨.user, js " "⟩

def translateMessages (systemPrompt : Option JsString) (messages : List AdapterMessage) :
    Option JsString × List AnthropicWireMessage :=
  let (systemParts, nonSystemMessages) := hoist systemPrompt messages
  let systemText := if systemParts ≠ [] then some (join (js "\n\n") systemParts) else none
  if nonSystemMessages = [] then (systemText, [filler])
  else
    let wireMessages := nonSystemMessages.foldl mergeMessage []
    match wireMessages.head? with
    | some ⟨.assistant, _⟩ => (systemText, filler :: wireMessages)
    | _ => (systemText, wireMessages)

end Anthropic

namespace Gemini

def hoistMessage (acc : List JsString × List AdapterMessage) (msg : AdapterMessage) :
    List JsString × List AdapterMessage :=
  if msg.role = js "system" then
    match truthy (some (trim msg.content)) with
    | some text => (acc.1 ++ [text], acc.2)
    | none => acc
  else (acc.1, acc.2 ++ [msg])

def hoist (systemPrompt : Option JsString) (messages : List AdapterMessage) :
    List JsString × List AdapterMessage :=
  messages.foldl hoistMessage ((trimmed systemPrompt).toList, [])

def wireRole (msg : AdapterMessage) : GeminiRole :=
  if msg.role = js "assistant" then .model else .user

def mergeMessage (contents : List GeminiContent) (msg : AdapterMessage) : List GeminiContent :=
  match contents.getLast? with
  | some previous =>
    if previous.role = wireRole msg then
      match previous.parts with
      | part :: rest => contents.dropLast ++
          [{ previous with parts := ⟨part.text ++ js "\n\n" ++ formattedContent msg⟩ :: rest }]
      | [] => contents.dropLast ++ [{ previous with parts := [⟨formattedContent msg⟩] }]
    else contents ++ [⟨wireRole msg, [⟨formattedContent msg⟩]⟩]
  | none => contents ++ [⟨wireRole msg, [⟨formattedContent msg⟩]⟩]

def filler : GeminiContent := ⟨.user, [⟨js " "⟩]⟩

def translateMessages (systemPrompt : Option JsString) (messages : List AdapterMessage) :
    Option (List GeminiPart) × List GeminiContent :=
  let (systemParts, nonSystemMessages) := hoist systemPrompt messages
  let systemInstruction :=
    if systemParts ≠ [] then some [⟨join (js "\n\n") systemParts⟩] else none
  if nonSystemMessages = [] then (systemInstruction, [filler])
  else
    let contents := nonSystemMessages.foldl mergeMessage []
    match contents.head? with
    | some ⟨.model, _⟩ => (systemInstruction, filler :: contents)
    | _ => (systemInstruction, contents)

end Gemini

def spoken (messages : List AdapterMessage) : List AdapterMessage :=
  messages.filter (·.role ≠ js "system")

def hoisted (systemPrompt : Option JsString) (messages : List AdapterMessage) : List JsString :=
  (trimmed systemPrompt).toList ++
    (messages.filter (·.role = js "system")).filterMap fun msg => trimmed (some msg.content)

def mergedTurn (run : List AdapterMessage) : AnthropicWireMessage where
  role := (run.head?.map Anthropic.wireRole).getD .user
  content := join (js "\n\n") (run.map formattedContent)

def renamedRole : AnthropicRole → GeminiRole
  | .user => .user
  | .assistant => .model

def renamed (turn : AnthropicWireMessage) : GeminiContent :=
  ⟨renamedRole turn.role, [⟨turn.content⟩]⟩

theorem trimmed_some (text : JsString) :
    trimmed (some text) = if trim text = [] then none else some (trim text) := rfl

theorem hoist_eq (messages : List AdapterMessage) (parts : List JsString)
    (rest : List AdapterMessage) :
    messages.foldl Anthropic.hoistMessage (parts, rest) =
      (parts ++ (messages.filter (·.role = js "system")).filterMap (fun msg => trimmed (some msg.content)),
        rest ++ spoken messages) := by
  induction messages generalizing parts rest with
  | nil => simp [spoken]
  | cons msg messages ih =>
    rw [List.foldl_cons]
    by_cases hrole : msg.role = js "system"
    · by_cases hblank : trim msg.content = []
      · have hstep : Anthropic.hoistMessage (parts, rest) msg = (parts, rest) := by
          simp [Anthropic.hoistMessage, hrole, hblank]
        rw [hstep, ih]
        simp [spoken, hrole, trimmed_some, hblank]
      · have hstep : Anthropic.hoistMessage (parts, rest) msg = (parts ++ [trim msg.content], rest) := by
          simp [Anthropic.hoistMessage, hrole, List.length_pos_iff, hblank]
        rw [hstep, ih]
        simp [spoken, hrole, trimmed_some, hblank]
    · have hstep : Anthropic.hoistMessage (parts, rest) msg = (parts, rest ++ [msg]) := by
        simp [Anthropic.hoistMessage, hrole]
      rw [hstep, ih]
      simp [spoken, hrole]

theorem gemini_hoistMessage : Gemini.hoistMessage = Anthropic.hoistMessage := by
  funext acc msg
  unfold Gemini.hoistMessage Anthropic.hoistMessage
  by_cases hblank : trim msg.content = []
  · have htext : truthy (some []) = none := rfl
    simp [hblank, htext]
  · have htext : truthy (some (trim msg.content)) = some (trim msg.content) := by
      simp [truthy, hblank]
    simp [htext, List.length_pos_iff, hblank]

theorem join_concat (separator text : JsString) (parts : List JsString) (h : parts ≠ []) :
    join separator (parts ++ [text]) = join separator parts ++ separator ++ text := by
  induction parts with
  | nil => exact absurd rfl h
  | cons first rest ih =>
    cases rest with
    | nil => simp [join, List.intercalate, List.intersperse]
    | cons next rest =>
      have := ih (List.cons_ne_nil _ _)
      simp only [join, List.intercalate, List.cons_append, List.intersperse_cons_cons,
        List.flatten_cons] at this ⊢
      rw [this]
      simp

theorem mergedTurn_concat (run : List AdapterMessage) (msg : AdapterMessage) (h : run ≠ []) :
    mergedTurn (run ++ [msg]) =
      { mergedTurn run with
        content := (mergedTurn run).content ++ js "\n\n" ++ formattedContent msg } := by
  have hhead : (run ++ [msg]).head? = run.head? := List.head?_append_of_ne_nil run h
  unfold mergedTurn
  rw [hhead, List.map_append, List.map_singleton, join_concat _ _ _ (by simpa using h)]

theorem mergedTurn_role {messages : List AdapterMessage} {runs : List (List AdapterMessage)}
    (h : MaximalRuns Anthropic.wireRole messages runs) (run : List AdapterMessage) (hrun : run ∈ runs)
    (msg : AdapterMessage) (hmsg : msg ∈ run) : (mergedTurn run).role = Anthropic.wireRole msg := by
  obtain ⟨first, hfirst⟩ := Option.isSome_iff_exists.mp (List.isSome_head?.mpr (h.nonempty run hrun))
  unfold mergedTurn
  rw [hfirst]
  exact h.uniform run hrun first (List.mem_of_head? hfirst) msg hmsg

theorem mergeMessage_runs {messages : List AdapterMessage} {runs : List (List AdapterMessage)}
    (h : MaximalRuns Anthropic.wireRole messages runs) (msg : AdapterMessage) :
    ∃ longer, MaximalRuns Anthropic.wireRole (messages ++ [msg]) longer ∧
      Anthropic.mergeMessage (runs.map mergedTurn) msg = longer.map mergedTurn := by
  have hsingle : mergedTurn [msg] = ⟨Anthropic.wireRole msg, formattedContent msg⟩ := by
    simp [mergedTurn, join, List.intercalate]
  rcases List.eq_nil_or_concat runs with rfl | ⟨before, last, rfl⟩
  · refine ⟨[[msg]], h.start msg (fun _ hlast => absurd hlast (by simp)), ?_⟩
    simp [Anthropic.mergeMessage, hsingle]
  · rw [List.concat_eq_append] at h ⊢
    have hlast : last ∈ before ++ [last] := by simp
    unfold Anthropic.mergeMessage
    rw [List.map_append, List.map_singleton, List.getLast?_append_of_ne_nil _ (by simp)]
    simp only [List.getLast?_singleton]
    split_ifs with hrole
    · refine ⟨before ++ [last ++ [msg]], h.extend msg (fun a ha => ?_), ?_⟩
      · rw [← mergedTurn_role h last hlast a ha, hrole]
      · rw [List.dropLast_concat, List.map_append, List.map_singleton,
          mergedTurn_concat last msg (h.nonempty last hlast)]
    · refine ⟨(before ++ [last]) ++ [[msg]], h.start msg (fun other hother a ha => ?_), ?_⟩
      · obtain rfl : last = other := by simpa using hother
        rw [← mergedTurn_role h last hlast a ha]
        exact hrole
      · rw [← hsingle]
        simp

theorem mergeMessage_fold (messages : List AdapterMessage) :
    ∃ runs, MaximalRuns Anthropic.wireRole messages runs ∧
      messages.foldl Anthropic.mergeMessage [] = runs.map mergedTurn := by
  induction messages using List.reverseRecOn with
  | nil => exact ⟨[], .empty _, rfl⟩
  | append_singleton messages msg ih =>
    obtain ⟨runs, hruns, hfold⟩ := ih
    rw [List.foldl_concat, hfold]
    exact mergeMessage_runs hruns msg

theorem renamed_role (turn : AnthropicWireMessage) (msg : AdapterMessage) :
    (renamed turn).role = Gemini.wireRole msg ↔ turn.role = Anthropic.wireRole msg := by
  unfold renamed Gemini.wireRole Anthropic.wireRole
  cases turn.role <;> split_ifs <;> simp [renamedRole]

theorem gemini_mergeMessage (turns : List AnthropicWireMessage) (msg : AdapterMessage) :
    Gemini.mergeMessage (turns.map renamed) msg = (Anthropic.mergeMessage turns msg).map renamed := by
  have hsingle : renamed ⟨Anthropic.wireRole msg, formattedContent msg⟩ =
      ⟨Gemini.wireRole msg, [⟨formattedContent msg⟩]⟩ := by
    unfold renamed Gemini.wireRole Anthropic.wireRole
    split_ifs <;> rfl
  unfold Gemini.mergeMessage Anthropic.mergeMessage
  rw [List.getLast?_map]
  cases turns.getLast? with
  | none => simp [hsingle]
  | some previous =>
    simp only [Option.map_some, renamed_role]
    split_ifs
    · rw [List.map_append, ← List.map_dropLast]
      rfl
    · simp [hsingle]

theorem gemini_fold (messages : List AdapterMessage) (turns : List AnthropicWireMessage) :
    messages.foldl Gemini.mergeMessage (turns.map renamed) =
      (messages.foldl Anthropic.mergeMessage turns).map renamed := by
  induction messages generalizing turns with
  | nil => rfl
  | cons msg messages ih => rw [List.foldl_cons, gemini_mergeMessage, ih, List.foldl_cons]

/-- The two adapters agree up to the names of roles and the wrapping of text. -/
theorem gemini_translateMessages (systemPrompt : Option JsString) (messages : List AdapterMessage) :
    Gemini.translateMessages systemPrompt messages =
      ((Anthropic.translateMessages systemPrompt messages).1.map fun text => [⟨text⟩],
        (Anthropic.translateMessages systemPrompt messages).2.map renamed) := by
  have hhoist : Gemini.hoist = Anthropic.hoist := by
    unfold Gemini.hoist Anthropic.hoist
    rw [gemini_hoistMessage]
  unfold Gemini.translateMessages Anthropic.translateMessages
  rw [hhoist]
  obtain ⟨parts, spoken⟩ := Anthropic.hoist systemPrompt messages
  have hsystem : (if parts ≠ [] then some [⟨join (js "\n\n") parts⟩] else none : Option (List GeminiPart)) =
      (if parts ≠ [] then some (join (js "\n\n") parts) else none).map fun text => [⟨text⟩] := by
    split_ifs <;> rfl
  dsimp only
  rw [hsystem]
  by_cases hempty : spoken = []
  · rw [if_pos hempty, if_pos hempty]
    rfl
  · rw [if_neg hempty, if_neg hempty, show ([] : List GeminiContent) = [].map renamed from rfl,
      gemini_fold, List.head?_map]
    rcases spoken.foldl Anthropic.mergeMessage [] with - | ⟨⟨role, content⟩, rest⟩
    · rfl
    · cases role <;> rfl

/-- What a translation keeps of the conversation. -/
structure Translates (systemPrompt : Option JsString) (messages : List AdapterMessage)
    (systemText : Option JsString) (turns : List AnthropicWireMessage) : Prop where
  system : systemText = if hoisted systemPrompt messages = [] then none
    else some (join (js "\n\n") (hoisted systemPrompt messages))
  first : turns.head?.map (·.role) = some .user
  alternate : turns.IsChain fun a b => a.role ≠ b.role
  runs : ∃ runs, MaximalRuns Anthropic.wireRole (spoken messages) runs ∧
    (turns = runs.map mergedTurn ∨ turns = Anthropic.filler :: runs.map mergedTurn)

theorem anthropic_translates (systemPrompt : Option JsString) (messages : List AdapterMessage) :
    Translates systemPrompt messages (Anthropic.translateMessages systemPrompt messages).1
      (Anthropic.translateMessages systemPrompt messages).2 := by
  have hhoist : Anthropic.hoist systemPrompt messages =
      (hoisted systemPrompt messages, spoken messages) := by
    unfold Anthropic.hoist
    rw [hoist_eq]
    rfl
  have hsystem : (if hoisted systemPrompt messages ≠ [] then
      some (join (js "\n\n") (hoisted systemPrompt messages)) else none) =
      if hoisted systemPrompt messages = [] then none
        else some (join (js "\n\n") (hoisted systemPrompt messages)) := ite_not _ _ _
  obtain ⟨runs, hruns, hfold⟩ := mergeMessage_fold (spoken messages)
  have hchain := hruns.alternate mergedTurn (·.role) (mergedTurn_role hruns)
  unfold Anthropic.translateMessages
  rw [hhoist]
  dsimp only
  rw [hsystem]
  by_cases hempty : spoken messages = []
  · rw [if_pos hempty]
    refine ⟨rfl, rfl, List.isChain_singleton _, [], ?_, .inr rfl⟩
    rw [hempty]
    exact .empty _
  · rw [if_neg hempty, hfold]
    cases hturns : runs.map mergedTurn with
    | nil =>
      have hnil : runs = [] := by simpa using hturns
      exact absurd (by rw [← hruns.flatten, hnil]; rfl) hempty
    | cons first rest =>
      rw [hturns] at hchain
      obtain ⟨role, content⟩ := first
      cases role with
      | user => exact ⟨rfl, rfl, hchain, runs, hruns, .inl hturns.symm⟩
      | assistant =>
        refine ⟨rfl, rfl, List.isChain_cons_cons.mpr ⟨nofun, hchain⟩, runs, hruns, .inr ?_⟩
        rw [hturns]
        rfl

/-- Both translations keep the conversation, and Gemini's is Anthropic's renamed. -/
theorem turn_translation (systemPrompt : Option JsString) (messages : List AdapterMessage) :
    Translates systemPrompt messages (Anthropic.translateMessages systemPrompt messages).1
        (Anthropic.translateMessages systemPrompt messages).2 ∧
      Gemini.translateMessages systemPrompt messages =
        ((Anthropic.translateMessages systemPrompt messages).1.map fun text => [⟨text⟩],
          (Anthropic.translateMessages systemPrompt messages).2.map renamed) :=
  ⟨anthropic_translates systemPrompt messages, gemini_translateMessages systemPrompt messages⟩

end Glassbeetle.TurnTranslation
