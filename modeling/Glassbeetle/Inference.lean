import Glassbeetle.AsyncGenerator
import Glassbeetle.ExecutionChain

set_option autoImplicit false

/-!
# The steps of a completion

What `completeChat` and `streamChat` do to the database and what they send and
yield. Whenever a run is suspended, at a yield or while it awaits the adapter,
other requests may run.
-/
namespace Glassbeetle.Inference
open JsText JsValue AdapterTypes Database ExecutionChain AsyncGenerator

variable {ν : Type}

structure CompletionResponse where
  content : JsString
  usage : Option (TokenUsage ℤ)

structure Script where
  events : List (StreamEvent JsString ℤ)
  ending : Option Failure

structure StreamErrorPayload where
  code : JsString
  message : JsString
  retryable : Bool
  deriving DecidableEq, Repr

/-- Everything a run meets. `others`, `aborted` and the clocks depend on the suspensions so far,
the provider's answers on the requests so far. -/
structure Environment (ν : Type) extends Runtime ν where
  newId : ℕ → JsString
  newId_injective : ∀ m n, newId m = newId n → m = n
  others : ℕ → Tables ν → Tables ν
  /-- Nobody else puts a row of this run back in flight. -/
  others_keep : ∀ moment db n, ∀ row ∈ (others moment db).messages, row.id = newId n →
    row.status.inFlight = true → ∃ old ∈ db.messages, old.id = newId n ∧ old.status.inFlight = true
  aborted : ℕ → Bool
  nowIso : ℕ → JsString
  /-- `Date.now()` -/
  now : ℕ → ℤ
  storageFails : ℕ → Bool
  /-- `adapterFactory.create`: whether the adapter supports streaming. -/
  create : ℕ → AdapterConfig → Except Failure Bool
  complete : ℕ → AdapterConfig → CompletionRequest ν → Except Failure CompletionResponse
  stream : ℕ → AdapterConfig → CompletionRequest ν → Script
  /-- Normalisation, redaction and `toStreamErrorPayload`. -/
  errorPayload : Execution ν → Failure → StreamErrorPayload

inductive SseCompletionEvent where
  | messageStart (messageId chatId : JsString) (sequence : ℤ) (agentId agentName : JsString)
  | token (messageId text : JsString)
  | thought (messageId thought : JsString)
  | usage (usage : TokenUsage ℤ)
  | messageComplete (messageId : JsString) (tokenCount : Option ℤ) (usage : Option (TokenUsage ℤ))
  | error (payload : StreamErrorPayload)
  | done
  deriving DecidableEq, Repr

structure Turn where
  member : TeamMember
  maxSequence : Option ℤ
  extraInstructions : Option JsString

/-- A step after the first event that can keep the run from going on as it should, with what
decides it. -/
inductive Hazard (ν : Type) where
  | turn (moment : ℕ) (db : Tables ν) (chat : ChatRow) (turn : Turn)
  | creation (moment : ℕ) (config : AdapterConfig)
  | usageRow (db : Tables ν) (agentId chatId : JsString) (execution : Execution ν)
  | provider (failure : Failure)

structure World (ν : Type) where
  db : Tables ν
  clock : ℕ
  issued : ℕ
  emitted : List SseCompletionEvent
  requests : List (JsString × CompletionRequest ν)
  /-- The rows it has created as pending. -/
  opened : List JsString
  hazards : List (Hazard ν)

def World.start (db : Tables ν) : World ν := ⟨db, 0, 0, [], [], [], []⟩

abbrev Run (ν α : Type) := Gen (World ν) SseCompletionEvent Failure α

variable (env : Environment ν)

def suspend : Run ν Unit :=
  Gen.modify fun w => { w with db := env.others w.clock w.db, clock := w.clock + 1 }

def yieldEvent (event : SseCompletionEvent) : Run ν Unit := do
  Gen.modify fun w => { w with emitted := w.emitted ++ [event] }
  Gen.emit event
  suspend env

def yieldUsage (usage : Option (TokenUsage ℤ)) : Run ν Unit :=
  match usage with
  | some usage => yieldEvent env (.usage usage)
  | none => pure ()

def note (hazard : World ν → Hazard ν) : Run ν Unit :=
  Gen.modify fun w =>
    if w.emitted = [] then w else { w with hazards := w.hazards ++ [hazard w] }

def newId : Run ν JsString := do
  let w ← Gen.read
  Gen.modify fun w => { w with issued := w.issued + 1 }
  return env.newId w.issued

def isAborted : Run ν Bool := do
  return env.aborted (← Gen.read).clock

theorem isAborted_eq (present : ∀ moment, env.aborted moment = false) :
    isAborted env = pure false := by
  funext w
  change Trace.mk [] (.ok (env.aborted w.clock)) w = Trace.mk [] (.ok false) w
  rw [present]

def send (agentId : JsString) (request : CompletionRequest ν) : Run ν Unit :=
  Gen.modify fun w => { w with requests := w.requests ++ [(agentId, request)] }

def sequenceAllocationFailed : Failure :=
  .http 500 (js "SEQUENCE_ALLOCATION_FAILED") (js "Failed to allocate sequence for chat message")

def createPendingMessageRow (chat : ChatRow) (agent : AgentRow ν) : Run ν MessageRow := do
  let id ← newId env
  let w ← Gen.read
  let now := env.nowIso w.clock
  if env.storageFails w.clock then Gen.fail sequenceAllocationFailed
  else match w.db.insertMessage id chat.id agent.id [] .pending none now with
    | none => Gen.fail sequenceAllocationFailed
    | some (row, db) => do
      Gen.modify fun w => { w with db := db.touchChat chat.id now, opened := w.opened ++ [id] }
      return row

structure Progress where
  accumulatedContent : JsString
  lastFlushedLength : ℕ
  lastFlushTime : ℤ
  currentStatus : MessageStatus
  reportedUsage : Option (TokenUsage ℤ)

def Progress.outputTokens (p : Progress) : Option ℤ := p.reportedUsage.map (·.outputTokens)

def Progress.start (time : ℤ) : Progress := ⟨[], 0, time, .pending, none⟩

def flushPartial (chat : ChatRow) (row : MessageRow) (p : Progress) (newStatus : MessageStatus)
    (tokenCount : Option ℤ) : Run ν Progress := do
  let w ← Gen.read
  Gen.modify fun w => { w with
    db := (w.db.writeMessage row.id newStatus p.accumulatedContent tokenCount).touchChat chat.id
      (env.nowIso w.clock) }
  return { p with
    lastFlushedLength := p.accumulatedContent.length
    lastFlushTime := env.now w.clock
    currentStatus := newStatus }

/-- The first delta is written at once, later ones every 200 characters or 500 milliseconds. -/
def onTextDelta (chat : ChatRow) (row : MessageRow) (p : Progress) (delta : JsString) :
    Run ν Progress := do
  let p := { p with accumulatedContent := p.accumulatedContent ++ delta }
  if p.currentStatus = .pending then flushPartial env chat row p .streaming p.outputTokens
  else do
    let w ← Gen.read
    if p.lastFlushedLength + 200 ≤ p.accumulatedContent.length ∨
        500 ≤ env.now w.clock - p.lastFlushTime then
      flushPartial env chat row p .streaming p.outputTokens
    else return p

def readStream (chat : ChatRow) (row : MessageRow) (ending : Option Failure) :
    List (StreamEvent JsString ℤ) → Progress → Run ν (Progress × Option Failure)
  | [], p => do
    suspend env
    return (p, ending)
  | event :: rest, p => do
    suspend env
    if ← isAborted env then return (p, none)
    else match event with
      | .textDelta delta => do
        let p ← onTextDelta env chat row p delta
        yieldEvent env (.token row.id delta)
        readStream chat row ending rest p
      | .thoughtDelta thought => do
        yieldEvent env (.thought row.id thought)
        readStream chat row ending rest p
      | .usage usage => readStream chat row ending rest { p with reportedUsage := some usage }
      | .complete _ usage _ =>
        readStream chat row ending rest { p with reportedUsage := usage.or p.reportedUsage }
      | .error error => return (p, some (.adapter error))

def generationInterrupted : JsString := js "Generation interrupted"

/-- The client has gone: partial content is kept, an empty reply is an error. -/
def finishAborted (chat : ChatRow) (row : MessageRow) (p : Progress) : Run ν Progress :=
  if p.accumulatedContent ≠ [] then flushPartial env chat row p .complete p.outputTokens
  else flushPartial env chat row { p with accumulatedContent := generationInterrupted } .error none

def usageEvent (id occurredAt agentId chatId : JsString) (execution : Execution ν)
    (usage : Option (TokenUsage ℤ)) : UsageEventRow where
  id := id
  occurredAt := occurredAt
  eventType := js "chat_completion"
  agentId := some agentId
  providerId := some execution.provider.id
  modelId := some execution.model.id
  chatId := some chatId
  inputTokens := usage.map (·.inputTokens)
  outputTokens := usage.map (·.outputTokens)

def foreignKeyFailed : Failure := .thrown (js "SqliteError") (js "FOREIGN KEY constraint failed")

def recordUsage (chat : ChatRow) (agent : AgentRow ν) (execution : Execution ν)
    (usage : Option (TokenUsage ℤ)) : Run ν Unit := do
  let id ← newId env
  let w ← Gen.read
  match w.db.insertUsageEvent
    (usageEvent id (env.nowIso w.clock) agent.id chat.id execution usage) with
  | none => Gen.fail foreignKeyFailed
  | some db => Gen.modify fun w => { w with db := db }

structure CompletionResponseDto where
  id : JsString
  chatId : JsString
  sequence : ℤ
  role : JsString
  agentId : Option JsString
  content : JsString
  status : MessageStatus
  tokenCount : Option ℤ
  createdAt : JsString
  usage : Option (TokenUsage ℤ)
  deriving DecidableEq

def persistenceFailed : Failure :=
  .http 500 (js "PERSISTENCE_FAILED")
    (js "Completion generated successfully but failed to persist to conversation history")

/-- Only a positive count is stored. -/
def storedTokenCount (usage : Option (TokenUsage ℤ)) : Option ℤ :=
  (usage.map (·.outputTokens)).filter (0 < ·)

/-- One transaction: a failing statement leaves nothing behind. -/
def persistAssistantReply (chat : ChatRow) (agent : AgentRow ν) (execution : Execution ν)
    (response : CompletionResponse) : Run ν CompletionResponseDto := do
  let messageId ← newId env
  let usageId ← newId env
  let w ← Gen.read
  let now := env.nowIso w.clock
  let written := do
    let (row, db) ← w.db.insertMessage messageId chat.id agent.id response.content .complete
      (storedTokenCount response.usage) now
    let db ← (db.touchChat chat.id now).insertUsageEvent
      (usageEvent usageId now agent.id chat.id execution response.usage)
    return (row, db)
  if env.storageFails w.clock then Gen.fail persistenceFailed
  else match written with
    | none => Gen.fail persistenceFailed
    | some (row, db) => do
      Gen.modify fun w => { w with db := db }
      return {
        id := row.id
        chatId := row.chatId
        sequence := row.sequence
        role := row.role
        agentId := row.agentId
        content := row.content
        status := row.status
        tokenCount := row.tokenCount
        createdAt := row.createdAt
        usage := response.usage }

/-- `adapter.complete` with its errors normalised, which only changes what they say. -/
def callComplete (agentId : JsString) (execution : Execution ν) (request : CompletionRequest ν) :
    Run ν CompletionResponse := do
  let turn := (← Gen.read).requests.length
  send agentId request
  suspend env
  Gen.lift (env.complete turn execution.config request)

/-- Nobody else acts, the client stays and the database works. -/
def Environment.alone (runtime : Runtime ν)
    (complete : AdapterConfig → CompletionRequest ν → Except Failure CompletionResponse)
    (stream : AdapterConfig → CompletionRequest ν → Script) : Environment ν where
  toRuntime := runtime
  newId n := List.replicate n 0x61
  newId_injective m n h := by simpa using congrArg List.length h
  others _ db := db
  others_keep _ _ _ row h hid hflight := ⟨row, h, hid, hflight⟩
  aborted _ := false
  nowIso _ := []
  now _ := 0
  storageFails _ := false
  create _ _ := .ok true
  complete _ := complete
  stream _ := stream
  errorPayload _ failure := ⟨js "PROVIDER_ERROR", failure.message, false⟩

end Glassbeetle.Inference
