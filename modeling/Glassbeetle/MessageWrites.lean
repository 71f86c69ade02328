import Glassbeetle.Completions
import Glassbeetle.TeamMembers
import Glassbeetle.Transactions

set_option autoImplicit false

/-!
# Writing messages

The operations that write rows of `messages`, statement by statement. Any
statement may fail; the environment of a call says which ones do.
-/
namespace Glassbeetle.MessageWrites
open JsText Utf8Text Database ContextConstruction ExecutionChain AdapterTypes Inference Transactions

variable {ν : Type}

structure SqliteError where
  code : JsString
  message : JsString

def isUniqueConstraint (error : SqliteError) : Bool :=
  error.code = js "SQLITE_CONSTRAINT_UNIQUE" ∨
    includes error.message (js "UNIQUE constraint failed: messages.chat_id, messages.sequence")

structure Calls where
  newId : ℕ → JsString
  usageId : ℕ → JsString
  nowIso : ℕ → JsString
  fault : ℕ → ℕ → Option SqliteError

structure NewMessage where
  id : JsString
  chatId : JsString
  role : JsString
  agentId : Option JsString
  content : JsString
  status : MessageStatus
  tokenCount : Option ℤ
  createdAt : JsString

def NewMessage.row (m : NewMessage) (sequence : ℤ) : MessageRow :=
  ⟨m.id, m.chatId, sequence, m.role, m.agentId, stored m.content, m.status, m.tokenCount,
    m.createdAt⟩

def messageRoles : List JsString := [js "user", js "assistant", js "system", js "tool"]

def insertMessage (m : NewMessage) : StateT (Tables ν) (Except SqliteError) MessageRow := fun db =>
  let row := m.row (db.maxSequence m.chatId + 1)
  if row.role ∉ messageRoles then
    .error ⟨js "SQLITE_CONSTRAINT_CHECK", js "CHECK constraint failed: role"⟩
  else if row.id ∈ db.messages.map (·.id) then
    .error ⟨js "SQLITE_CONSTRAINT_PRIMARYKEY", js "UNIQUE constraint failed: messages.id"⟩
  else if db.messages.any (fun old => old.chatId = row.chatId ∧ old.sequence = row.sequence) then
    .error ⟨js "SQLITE_CONSTRAINT_UNIQUE",
      js "UNIQUE constraint failed: messages.chat_id, messages.sequence"⟩
  else if (db.chat row.chatId).isNone ∨ row.agentId.any (fun id => (db.agent id).isNone) then
    .error ⟨js "SQLITE_CONSTRAINT_FOREIGNKEY", js "FOREIGN KEY constraint failed"⟩
  else .ok (row, { db with messages := db.messages ++ [row] })

def touchChat (chatId now : JsString) : StateT (Tables ν) (Except SqliteError) Unit := fun db =>
  .ok ((), db.touchChat chatId now)

def insertUsageEvent (row : UsageEventRow) : StateT (Tables ν) (Except SqliteError) Unit :=
  fun db =>
    if row.id ∈ db.usageEvents.map (·.id) then
      .error ⟨js "SQLITE_CONSTRAINT_PRIMARYKEY", js "UNIQUE constraint failed: usage_events.id"⟩
    else match db.insertUsageEvent row with
      | some after => .ok ((), after)
      | none => .error ⟨js "SQLITE_CONSTRAINT_FOREIGNKEY", js "FOREIGN KEY constraint failed"⟩

structure CreateMessageDto where
  content : JsString
  role : Option JsString
  agentId : Option JsString

structure CreateOptions where
  id : Option JsString
  now : Option JsString

structure MessageResponseDto where
  id : JsString
  chatId : JsString
  sequence : ℤ
  role : JsString
  agentId : Option JsString
  content : JsString
  status : MessageStatus
  tokenCount : Option ℤ
  createdAt : JsString

def mapMessageRowToResponse (row : MessageRow) : MessageResponseDto :=
  ⟨row.id, row.chatId, row.sequence, row.role, row.agentId, row.content, row.status,
    row.tokenCount, row.createdAt⟩

def maxRetries : ℕ := 3

def sqliteFailure (error : SqliteError) : Failure := .thrown (js "SqliteError") error.message

def lookup (fault : Option SqliteError) : Except Failure Unit :=
  match fault with
  | some error => .error (sqliteFailure error)
  | none => .ok ()

/-- The checks of `create` before anything is written. -/
def checkReferences (calls : Calls) (chatId : JsString) (dto : CreateMessageDto) (db : Tables ν) :
    Except Failure Unit := do
  lookup (calls.fault 0 0)
  if (db.chat chatId).isNone then throw (Completions.chatNotFound chatId)
  match truthy dto.agentId with
  | none => return ()
  | some agentId =>
    lookup (calls.fault 0 1)
    if (db.agent agentId).isNone then
      throw (unprocessable "AGENT_NOT_FOUND"
        (js "Referenced agentId \"" ++ agentId ++ js "\" does not exist"))

def insertAttempt (calls : Calls) (m : NewMessage) (now : JsString) (attempt : ℕ) :
    Tables ν → Except SqliteError MessageRow × Tables ν :=
  transaction (calls.fault attempt 0) (calls.fault attempt 3) (do
    let row ← statement (calls.fault attempt 1) (insertMessage m)
    statement (calls.fault attempt 2) (touchChat m.chatId now)
    return row)

def sequenceConflict : Failure :=
  .http 409 (js "MESSAGE_SEQUENCE_CONFLICT")
    (js "Could not resolve sequence assignment conflict after multiple retries")

def create (calls : Calls) (chatId : JsString) (dto : CreateMessageDto) (options : CreateOptions)
    (db : Tables ν) : Except Failure MessageResponseDto × Tables ν :=
  match checkReferences calls chatId dto db with
  | .error failure => (.error failure, db)
  | .ok () =>
    let attempt n :=
      let now := if n = 1 then (truthy options.now).getD (calls.nowIso n) else calls.nowIso n
      insertAttempt calls {
        id := if n = 1 then (truthy options.id).getD (calls.newId n) else calls.newId n
        chatId := chatId
        role := dto.role.getD (js "user")
        agentId := dto.agentId
        content := dto.content
        status := .complete
        tokenCount := none
        createdAt := now } now n
    settle mapMessageRowToResponse
      (fun error => if isUniqueConstraint error then sequenceConflict else sqliteFailure error)
      (retry isUniqueConstraint attempt (maxRetries - 1) 1 db)

/-- The identifier and the time are drawn once, for all attempts. -/
def createPendingMessageRow (calls : Calls) (chatId agentId : JsString) (db : Tables ν) :
    Except Failure MessageRow × Tables ν :=
  let attempt := insertAttempt calls {
    id := calls.newId 0
    chatId := chatId
    role := js "assistant"
    agentId := some agentId
    content := []
    status := .pending
    tokenCount := none
    createdAt := calls.nowIso 0 } (calls.nowIso 0)
  settle id (fun _ => sequenceAllocationFailed)
    (retry isUniqueConstraint attempt (maxRetries - 1) 1 db)

def persistAttempt (calls : Calls) (chat : ChatRow) (agent : AgentRow ν) (execution : Execution ν)
    (response : CompletionResponse) (attempt : ℕ) :
    Tables ν → Except SqliteError MessageRow × Tables ν :=
  transaction (calls.fault attempt 0) (calls.fault attempt 4) (do
    let row ← statement (calls.fault attempt 1) (insertMessage {
      id := calls.newId attempt
      chatId := chat.id
      role := js "assistant"
      agentId := some agent.id
      content := response.content
      status := .complete
      tokenCount := storedTokenCount response.usage
      createdAt := calls.nowIso attempt })
    statement (calls.fault attempt 2) (touchChat chat.id (calls.nowIso attempt))
    statement (calls.fault attempt 3) (insertUsageEvent (usageEvent (calls.usageId attempt)
      (calls.nowIso attempt) agent.id chat.id execution response.usage))
    return row)

def persistAssistantReply (calls : Calls) (chat : ChatRow) (agent : AgentRow ν)
    (execution : Execution ν) (response : CompletionResponse) (db : Tables ν) :
    Except Failure CompletionResponseDto × Tables ν :=
  settle (fun row => ⟨row.id, row.chatId, row.sequence, row.role, row.agentId, row.content,
      row.status, row.tokenCount, row.createdAt, response.usage⟩) (fun _ => persistenceFailed)
    (retry isUniqueConstraint (persistAttempt calls chat agent execution response)
      (maxRetries - 1) 1 db)

/-- One statement on its own, whose failure is ignored. -/
def recordTurnErrorRow (calls : Calls) (chatId agentId : JsString) (db : Tables ν) : Tables ν :=
  (autocommit (statement (calls.fault 0 0) (insertMessage {
    id := calls.newId 0
    chatId := chatId
    role := js "assistant"
    agentId := some agentId
    content := js "Generation failed mid-team turn"
    status := .error
    tokenCount := none
    createdAt := calls.nowIso 0 })) db).2

/-- Two statements without a transaction. -/
def flushPartial (calls : Calls) (chatId messageId : JsString) (newStatus : MessageStatus)
    (accumulatedContent : JsString) (tokenCount : Option ℤ) (db : Tables ν) :
    Except Failure Unit × Tables ν :=
  match autocommit (statement (calls.fault 0 0) fun db : Tables ν =>
    .ok ((), db.writeMessage messageId newStatus accumulatedContent tokenCount)) db with
  | (.error error, after) => (.error (sqliteFailure error), after)
  | (.ok (), after) =>
    match autocommit (statement (calls.fault 0 1) (touchChat chatId (calls.nowIso 0))) after with
    | (.error error, after) => (.error (sqliteFailure error), after)
    | (.ok (), after) => (.ok (), after)

def deleteAgent (calls : Calls) (id : JsString) (db : Tables ν) : Except Failure Unit × Tables ν :=
  match calls.fault 0 0 with
  | some error => (.error (sqliteFailure error), db)
  | none =>
    match TeamMembers.deleteAgent db id with
    | .error failure => (.error failure, db)
    | .ok after => (.ok (), after)

/-- `ChatsService.delete` -/
def deleteChat (calls : Calls) (id : JsString) (db : Tables ν) : Except Failure Unit × Tables ν :=
  match calls.fault 0 0 with
  | some error => (.error (sqliteFailure error), db)
  | none =>
    if (db.chat id).isNone then (.error (Completions.chatNotFound id), db)
    else (.ok (), db.deleteChat id)

def foreignKeyError : SqliteError :=
  ⟨js "SQLITE_CONSTRAINT_FOREIGNKEY", js "FOREIGN KEY constraint failed"⟩

/-- The number is taken inside the statement, so a reply with a new key meets only foreign keys. -/
theorem insertMessage_assistant (db : Tables ν) (id chatId agentId content : JsString)
    (status : MessageStatus) (tokenCount : Option ℤ) (createdAt : JsString)
    (hid : id ∉ db.messages.map (·.id)) :
    insertMessage ⟨id, chatId, js "assistant", some agentId, content, status, tokenCount, createdAt⟩
      db = match db.insertMessage id chatId agentId content status tokenCount createdAt with
        | some inserted => .ok inserted
        | none => .error foreignKeyError := by
  have hunique : (db.messages.any fun old =>
      decide (old.chatId = chatId ∧ old.sequence = db.maxSequence chatId + 1)) = false := by
    rw [List.any_eq_false]
    intro old hold
    rw [decide_eq_true_eq]
    rintro ⟨hchat, hseq⟩
    have := le_maxSequence db chatId old hold hchat
    omega
  unfold insertMessage Tables.insertMessage
  dsimp only [NewMessage.row]
  rw [if_neg (not_not.mpr (by decide)), if_neg hid, hunique]
  have hkeys : ((db.chat chatId).isNone = true ∨
      (some agentId).any (fun id => (db.agent id).isNone) = true) ↔
      ¬((db.chat chatId).isSome = true ∧ (db.agent agentId).isSome = true) := by
    cases db.chat chatId <;> cases h : db.agent agentId <;> simp [h]
  by_cases hboth : (db.chat chatId).isSome = true ∧ (db.agent agentId).isSome = true
  · rw [if_neg (by decide), if_neg (mt hkeys.mp (not_not.mpr hboth)), if_pos hboth]
  · rw [if_neg (by decide), if_pos (hkeys.mpr hboth), if_neg hboth]
    rfl

theorem statement_none {σ ε α : Type} (effect : StateT σ (Except ε) α) :
    statement none effect = effect := rfl

end Glassbeetle.MessageWrites
