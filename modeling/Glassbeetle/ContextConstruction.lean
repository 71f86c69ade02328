import Mathlib.Data.List.Sort
import Glassbeetle.JsText
import Glassbeetle.SuffixFitting

set_option autoImplicit false

/-!
# Context construction

`context-construction.service.ts`: which messages of a chat become the history
of a request, in what order, and what is said about the others.
-/
namespace Glassbeetle.ContextConstruction
open JsText SuffixFitting

structure ContextInputMessage where
  id : Option JsString
  sequence : ℤ
  role : JsString
  content : JsString
  status : JsString
  agentId : Option JsString
  agentName : Option JsString
  agentRole : Option JsString
  deriving DecidableEq, Repr

structure AdapterMessage where
  role : JsString
  content : JsString
  name : Option JsString
  deriving DecidableEq, Repr

structure ContextSourceData where
  systemPromptTemplate : Option JsString
  personality : Option JsString
  instructions : Option JsString
  contextSummary : Option JsString
  deriving DecidableEq, Repr

inductive ContextFittingStrategy where
  | refuse
  | truncateOldest
  deriving DecidableEq, Repr

/-- What `retrieveMemories` gives: its list, a value that is no array, or an exception. -/
inductive Retrieved where
  | memories (list : List JsString)
  | notArray
  | thrown
  deriving DecidableEq, Repr

structure BuildContextInput where
  sources : ContextSourceData
  messages : List ContextInputMessage
  contextWindow : Option ℤ
  fittingStrategy : Option ContextFittingStrategy
  compactedBeforeSequence : Option ℤ
  memorySeam : Option Retrieved
  isTeamChat : Bool
  currentAgentId : Option JsString
  maxSequence : Option ℤ
  deriving DecidableEq, Repr

structure SystemPromptBreakdown where
  promptTemplate : Option JsString
  personality : Option JsString
  instructions : Option JsString
  memorySeam : Option JsString
  contextSummary : Option JsString
  combined : Option JsString
  deriving DecidableEq, Repr

structure ContextMessageDetail where
  id : Option JsString
  sequence : ℤ
  role : JsString
  content : JsString
  agentId : Option JsString
  estimatedTokens : ℕ
  status : JsString
  deriving DecidableEq, Repr

inductive ExclusionReason where
  | statusNotComplete
  | emptyContent
  | compactedHistory
  | maxSequenceBoundary
  | truncatedForWindow
  deriving DecidableEq, Repr

structure ContextExcludedMessage where
  id : Option JsString
  sequence : ℤ
  role : JsString
  status : JsString
  reason : ExclusionReason
  detail : JsString
  deriving DecidableEq, Repr

structure ContextTokenEstimate where
  systemTokens : ℕ
  messagesTokens : ℕ
  totalTokens : ℕ
  contextWindow : Option ℕ
  fitsContextWindow : Bool
  heuristic : JsString
  deriving DecidableEq, Repr

structure AssembledContext where
  systemPrompt : Option JsString
  messages : List AdapterMessage
  systemDetails : SystemPromptBreakdown
  messageDetails : List ContextMessageDetail
  excludedMessages : List ContextExcludedMessage
  tokenEstimate : ContextTokenEstimate
  deriving DecidableEq, Repr

structure ContextLengthExceededError where
  message : JsString
  deriving DecidableEq, Repr

/-- `value?.trim() || null` -/
def trimmed (value : Option JsString) : Option JsString :=
  value.bind fun text => if trim text = [] then none else some (trim text)

def truthy (value : Option JsString) : Option JsString := value.filter (· ≠ [])

/-- `Math.ceil(text.length / 4)`, and nothing for an absent text. -/
def estimateTokens (text : Option JsString) : ℕ :=
  match text with
  | none => 0
  | some text => (text.length + 3) / 4

def estimateMessageTokens (message : AdapterMessage) : ℕ :=
  4 + estimateTokens (some message.content) + estimateTokens message.name

def assembleSystemPrompt (sources : ContextSourceData) (memorySeamContent : Option JsString) :
    Option JsString × SystemPromptBreakdown :=
  let promptTemplate := trimmed sources.systemPromptTemplate
  let personality := trimmed sources.personality
  let instructions := trimmed sources.instructions
  let memorySeam := trimmed memorySeamContent
  let rawSummary := trimmed sources.contextSummary
  let contextSummary := rawSummary.map fun summary => js "Context summary:\n" ++ summary
  let sections :=
    [promptTemplate, personality, instructions, memorySeam, contextSummary].filterMap id
  let combined := if sections.length > 0 then some (join (js "\n\n") sections) else none
  (combined, {
    promptTemplate := promptTemplate
    personality := personality
    instructions := instructions
    memorySeam := memorySeam
    contextSummary := rawSummary
    combined := combined })

/-- A failing seam injects nothing. -/
def memorySeamContent (memorySeam : Option Retrieved) : Option JsString :=
  match memorySeam with
  | some (.memories (first :: rest)) =>
    some (js "<memories>\n" ++ join (js "\n") (first :: rest) ++ js "\n</memories>")
  | _ => none

def complete : JsString := js "complete"

def excluded (msg : ContextInputMessage) (reason : ExclusionReason) (detail : JsString) :
    ContextExcludedMessage :=
  { id := msg.id, sequence := msg.sequence, role := msg.role, status := msg.status
    reason := reason, detail := detail }

def validRole (role : JsString) : JsString :=
  if role ∈ [js "user", js "assistant", js "system", js "tool"] then role else js "user"

def formattedContent (input : BuildContextInput) (msg : ContextInputMessage) : JsString :=
  if input.isTeamChat ∧ validRole msg.role = js "assistant" then
    if (truthy input.currentAgentId).isSome ∧ msg.agentId = input.currentAgentId then msg.content
    else if (truthy msg.agentId).isSome then
      let peerName := (truthy msg.agentName).getD (js "Team Member")
      let peerRole := match truthy msg.agentRole with
        | some role => js " (" ++ role ++ js ")"
        | none => []
      js "[Team Member: " ++ peerName ++ peerRole ++ js "]:\n" ++ msg.content
    else js "[Team Member: Former Agent]:\n" ++ msg.content
  else msg.content

structure Candidate where
  msg : ContextInputMessage
  adapterMessage : AdapterMessage
  estimatedTokens : ℕ
  deriving DecidableEq, Repr

def candidate (input : BuildContextInput) (msg : ContextInputMessage) : Candidate :=
  let adapterMessage : AdapterMessage :=
    { role := validRole msg.role, content := formattedContent input msg, name := none }
  { msg := msg, adapterMessage := adapterMessage
    estimatedTokens := estimateMessageTokens adapterMessage }

def before (bound : Option ℤ) (sequence : ℤ) : Option ℤ := bound.filter (sequence < ·)

def after (bound : Option ℤ) (sequence : ℤ) : Option ℤ := bound.filter (· < sequence)

/-- The body of the loop over the messages: the first rule that applies decides. -/
def consider (input : BuildContextInput) (msg : ContextInputMessage) :
    ContextExcludedMessage ⊕ Candidate :=
  if msg.status ≠ complete then
    .inl (excluded msg .statusNotComplete (js "Message status \"" ++ msg.status ++
      js "\" is not complete (in-flight generation or partial error output)."))
  else if msg.content = [] ∨ trim msg.content = [] then
    .inl (excluded msg .emptyContent
      (js "Message text content is empty or contains only whitespace."))
  else match before input.compactedBeforeSequence msg.sequence with
    | some bound =>
      .inl (excluded msg .compactedHistory (js "Message sequence " ++ decimal msg.sequence ++
        js " superseded by compaction summary (prior to sequence " ++ decimal bound ++ js ")."))
    | none =>
      match after input.maxSequence msg.sequence with
      | some bound =>
        .inl (excluded msg .maxSequenceBoundary (js "Message sequence " ++ decimal msg.sequence ++
          js " excluded because it exceeds max sequence boundary " ++ decimal bound ++ js "."))
      | none => .inr (candidate input msg)

def sift (input : BuildContextInput) :
    List ContextInputMessage → List Candidate × List ContextExcludedMessage
  | [] => ([], [])
  | msg :: rest =>
    match consider input msg with
    | .inl out => ((sift input rest).1, out :: (sift input rest).2)
    | .inr item => (item :: (sift input rest).1, (sift input rest).2)

def rawMessages (input : BuildContextInput) : List ContextInputMessage :=
  input.messages.insertionSort fun a b => a.sequence ≤ b.sequence

def contextWindow (input : BuildContextInput) : Option ℕ :=
  (input.contextWindow.filter (0 < ·)).map Int.toNat

def droppedForWindow (window : ℕ) (dropped : Candidate × ℕ) : ContextExcludedMessage :=
  excluded dropped.1.msg .truncatedForWindow
    (js "Message dropped because total estimated tokens (" ++ decimal dropped.2 ++
      js ") exceeded model context window (" ++ decimal window ++ js ").")

def fitWindow (strategy : ContextFittingStrategy) (systemTokens : ℕ) (window : Option ℕ)
    (candidates : List Candidate) :
    Except ContextLengthExceededError (List Candidate × List ContextExcludedMessage) :=
  match window with
  | none => .ok (candidates, [])
  | some window =>
    let total := total systemTokens Candidate.estimatedTokens
    if window < total candidates then
      match strategy with
      | .truncateOldest =>
        let fitted := fit systemTokens Candidate.estimatedTokens window candidates
        if window < total fitted.2 then
          .error ⟨js "Context length exceeded: prompt contains approximately " ++
            decimal (total fitted.2) ++ js " tokens, which exceeds the model limit of " ++
            decimal window ++ js " tokens even after dropping older messages."⟩
        else .ok (fitted.2, fitted.1.map (droppedForWindow window))
      | .refuse =>
        .error ⟨js "Context length exceeded: prompt contains approximately " ++
          decimal (total candidates) ++ js " tokens, which exceeds the model limit of " ++
          decimal window ++ js " tokens."⟩
    else .ok (candidates, [])

def messageDetail (item : Candidate) : ContextMessageDetail :=
  { id := item.msg.id, sequence := item.msg.sequence, role := item.adapterMessage.role
    content := item.adapterMessage.content, agentId := item.msg.agentId
    estimatedTokens := item.estimatedTokens, status := item.msg.status }

def heuristic : JsString := js
  "Character-based heuristic (~4 characters per token + 4 tokens overhead per message/system turn). Exact token count requires model-specific tokenizer."

def systemPrompt (input : BuildContextInput) : Option JsString :=
  (assembleSystemPrompt input.sources (memorySeamContent input.memorySeam)).1

def systemTokens (input : BuildContextInput) : ℕ :=
  match systemPrompt input with
  | some prompt => 4 + estimateTokens (some prompt)
  | none => 0

def assemble (input : BuildContextInput) (active : List Candidate)
    (excludedMessages : List ContextExcludedMessage) : AssembledContext :=
  let messagesTokens := (active.map Candidate.estimatedTokens).sum
  let totalTokens := systemTokens input + messagesTokens
  { systemPrompt := systemPrompt input
    messages := active.map Candidate.adapterMessage
    systemDetails := (assembleSystemPrompt input.sources (memorySeamContent input.memorySeam)).2
    messageDetails := active.map messageDetail
    excludedMessages := excludedMessages
    tokenEstimate := {
      systemTokens := systemTokens input
      messagesTokens := messagesTokens
      totalTokens := totalTokens
      contextWindow := contextWindow input
      fitsContextWindow := match contextWindow input with
        | none => true
        | some window => totalTokens ≤ window
      heuristic := heuristic } }

def buildContextPure (input : BuildContextInput) :
    Except ContextLengthExceededError AssembledContext := do
  let (candidates, excludedMessages) := sift input (rawMessages input)
  let (active, dropped) ← fitWindow (input.fittingStrategy.getD .refuse) (systemTokens input)
    (contextWindow input) candidates
  return assemble input active (excludedMessages ++ dropped)

end Glassbeetle.ContextConstruction
