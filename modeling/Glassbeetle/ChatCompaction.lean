import Mathlib.Data.List.Sort
import Glassbeetle.ContextConstruction
import Glassbeetle.Database
import Glassbeetle.Runs

set_option autoImplicit false

/-!
# Compaction of one chat

The rows of a chat, its summary and its boundary, under the operations that
change them. `compactChat` reads before it awaits the provider and writes after,
so any number of them may be between the two.
-/
namespace Glassbeetle.ChatCompaction
open JsText Database

structure Row where
  sequence : ℤ
  role : JsString
  content : JsString
  status : MessageStatus
  deriving DecidableEq, Repr

def Row.inFlight (row : Row) : Bool := row.status.inFlight

def Row.spoken (row : Row) : Bool := row.status = .complete ∧ trim row.content ≠ []

/-- `COALESCE(MAX(sequence), 0) + 1` -/
def nextSequence (rows : List Row) : ℤ := ((rows.map (·.sequence)).max?).getD 0 + 1

def formatMessagesForCompaction (messages : List Row) : JsString :=
  join (js "\n\n") (messages.map fun m =>
    js "[Sequence " ++ decimal m.sequence ++ js " | " ++ m.role ++ js "]:\n" ++ trim m.content)

def includesSummary (existingSummary : Option JsString) : Bool :=
  existingSummary.any fun summary => trim summary ≠ []

def buildCompactionUserPrompt (existingSummary : Option JsString) (messages : List Row) : JsString :=
  if includesSummary existingSummary then
    js "The conversation was previously summarised as follows:\n\n" ++
    js "<prior_summary>\n" ++ trim (existingSummary.getD []) ++ js "\n</prior_summary>\n\n" ++
    js "Here are the new conversation turns that have taken place since that summary:\n\n" ++
    js "<new_turns>\n" ++ formatMessagesForCompaction messages ++ js "\n</new_turns>\n\n" ++
    js "Please produce an updated, cohesive summary that incorporates these new turns into the prior summary. " ++
    js "Return only the updated summary."
  else
    js "Here are the conversation turns to summarise:\n\n" ++
    js "<conversation_turns>\n" ++ formatMessagesForCompaction messages ++
    js "\n</conversation_turns>\n\n" ++
    js "Please produce a dense, factual summary of this conversation history. " ++
    js "Return only the summary."

inductive CompactError where
  | invalidOptions (message : JsString)
  | noMessagesToCompact (message : JsString)
  deriving DecidableEq, Repr

structure Chat where
  rows : List Row
  contextSummary : Option JsString
  compactedBeforeSequence : Option ℤ
  deriving DecidableEq, Repr

structure CompactionRequest where
  messages : List Row
  newCompactedBeforeSequence : ℤ
  userPrompt : JsString
  deriving DecidableEq, Repr

/-- A boundary of zero is no boundary. -/
def uncompacted (chat : Chat) : List Row :=
  let allMessages := chat.rows.insertionSort fun a b => a.sequence ≤ b.sequence
  match chat.compactedBeforeSequence with
  | some boundary =>
    if boundary = 0 then allMessages else allMessages.filter fun m => boundary ≤ m.sequence
  | none => allMessages

/-- Steps 2 to 6 of `compactChat`. -/
def readHistory (chat : Chat) (preserveRecentCount : ℤ) : Except CompactError CompactionRequest :=
  if preserveRecentCount < 0 then
    .error (.invalidOptions
      (js "preserveRecentCount must be an integer greater than or equal to 0"))
  else
    let uncompactedMessages := uncompacted chat
    if (uncompactedMessages.length : ℤ) ≤ preserveRecentCount then
      .error (.noMessagesToCompact
        (js "Chat has no messages eligible for compaction (found " ++
          decimal uncompactedMessages.length ++ js " uncompacted messages, but preserveRecentCount is " ++
          decimal preserveRecentCount ++ js ")"))
    else
      let messagesToCompact :=
        uncompactedMessages.take (uncompactedMessages.length - preserveRecentCount.toNat)
      let validMessagesToPrompt := messagesToCompact.filter Row.spoken
      match validMessagesToPrompt, messagesToCompact.getLast? with
      | first :: rest, some last =>
        .ok {
          messages := first :: rest
          newCompactedBeforeSequence := last.sequence + 1
          userPrompt := buildCompactionUserPrompt chat.contextSummary (first :: rest) }
      | _, _ =>
        .error (.noMessagesToCompact
          (js "No complete messages with content are available for compaction"))

inductive Chain where
  | start (prompted : List ℤ)
  | fold (prompted : List ℤ) (prior : Chain)
  deriving DecidableEq, Repr

def Chain.Holds : Chain → ℤ → Prop
  | .start prompted, sequence => sequence ∈ prompted
  | .fold prompted prior, sequence => sequence ∈ prompted ∨ prior.Holds sequence

instance Chain.decidableHolds : (chain : Chain) → (sequence : ℤ) → Decidable (chain.Holds sequence)
  | .start prompted, sequence => inferInstanceAs (Decidable (sequence ∈ prompted))
  | .fold prompted prior, sequence =>
    have := prior.decidableHolds sequence
    inferInstanceAs (Decidable (sequence ∈ prompted ∨ prior.Holds sequence))

/-- A compaction awaiting its provider. Only the boundary is the program's; the chain and the
rows in flight at the read are recorded for the proofs. -/
structure Job where
  newCompactedBeforeSequence : ℤ
  userPrompt : JsString
  chain : Chain
  inFlight : List ℤ
  deriving DecidableEq, Repr

structure State where
  chat : Chat
  jobs : List Job
  /-- The provenance of the summary in place. -/
  chain : Option Chain
  deriving DecidableEq, Repr

inductive Action where
  | append (role content : JsString)
  | insertPending
  | flush (sequence : ℤ) (status : MessageStatus) (content : JsString)
  | compactRead (preserveRecentCount : ℤ)
  | compactWrite (job : ℕ) (reply : JsString)
  | compactFail (job : ℕ)
  deriving DecidableEq, Repr

def initial : State := ⟨⟨[], none, none⟩, [], none⟩

def addRow (s : State) (role content : JsString) (status : MessageStatus) : State :=
  { s with chat := { s.chat with
      rows := s.chat.rows ++ [⟨nextSequence s.chat.rows, role, content, status⟩] } }

def flushRow (sequence : ℤ) (status : MessageStatus) (content : JsString) (row : Row) : Row :=
  if row.sequence = sequence ∧ row.inFlight then { row with status := status, content := content }
  else row

def chainOf (s : State) (prompted : List Row) : Chain :=
  match s.chain, includesSummary s.chat.contextSummary with
  | some prior, true => .fold (prompted.map (·.sequence)) prior
  | _, _ => .start (prompted.map (·.sequence))

def step (s : State) : Action → State
  | .append role content => addRow s role content .complete
  | .insertPending => addRow s (js "assistant") [] .pending
  | .flush sequence status content =>
    { s with chat := { s.chat with rows := s.chat.rows.map (flushRow sequence status content) } }
  | .compactRead preserveRecentCount =>
    match readHistory s.chat preserveRecentCount with
    | .ok request =>
      { s with jobs := s.jobs ++ [{
          newCompactedBeforeSequence := request.newCompactedBeforeSequence
          userPrompt := request.userPrompt
          chain := chainOf s request.messages
          inFlight := (s.chat.rows.filter Row.inFlight).map (·.sequence) }] }
    | .error _ => s
  | .compactWrite index reply =>
    match s.jobs[index]? with
    | some job =>
      { chat := { s.chat with
          contextSummary := some (trim reply)
          compactedBeforeSequence := some job.newCompactedBeforeSequence }
        jobs := s.jobs.eraseIdx index
        chain := some job.chain }
    | none => s
  | .compactFail index => { s with jobs := s.jobs.eraseIdx index }

/-- Every spoken message is still history, or part of the summary in place. -/
def Kept (s : State) : Prop :=
  ∀ row ∈ s.chat.rows, row.spoken →
    (∀ boundary ∈ s.chat.compactedBeforeSequence, boundary ≤ row.sequence) ∨
      includesSummary s.chat.contextSummary ∧ ∃ chain ∈ s.chain, chain.Holds row.sequence

instance (s : State) : Decidable (Kept s) := inferInstanceAs (Decidable (∀ _ ∈ _, _ → _ ∨ _ ∧ _))

/-- The step neither completes a turn below the boundary, nor puts the boundary above a turn
completed since the history was read, nor replaces the summary with nothing. -/
def Harmless (s : State) : Action → Prop
  | .flush sequence status content =>
    (∃ row ∈ s.chat.rows, row.sequence = sequence ∧ row.inFlight) → status = .complete →
      trim content ≠ [] → ∀ boundary ∈ s.chat.compactedBeforeSequence, boundary ≤ sequence
  | .compactWrite index reply =>
    ∀ job ∈ s.jobs[index]?, trim reply ≠ [] ∧ ∀ row ∈ s.chat.rows,
      row.sequence < job.newCompactedBeforeSequence → row.sequence ∈ job.inFlight → ¬ row.spoken
  | _ => True

end Glassbeetle.ChatCompaction
