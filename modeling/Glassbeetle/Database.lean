import Mathlib.Data.List.Sort
import Glassbeetle.AdapterTypes
import Glassbeetle.Utf8Text

set_option autoImplicit false

/-!
# The tables that a completion reads and writes

Texts are stored as UTF-8, so the content of a message is read back without its
lone surrogates.
-/
namespace Glassbeetle.Database
open JsText Utf8Text

inductive MessageStatus where
  | pending
  | streaming
  | complete
  | error
  deriving DecidableEq, Repr

def MessageStatus.text : MessageStatus → JsString
  | .pending => js "pending"
  | .streaming => js "streaming"
  | .complete => js "complete"
  | .error => js "error"

def MessageStatus.inFlight (status : MessageStatus) : Bool :=
  status = .pending ∨ status = .streaming

structure AgentRow (ν : Type) where
  id : JsString
  name : JsString
  personality : Option JsString
  instructions : Option JsString
  systemPromptId : Option JsString
  modelId : Option JsString
  temperature : Option ν
  maxTokens : Option ℤ
  modelParams : Option JsString

structure ModelRow (ν : Type) where
  id : JsString
  providerId : JsString
  modelIdentifier : JsString
  displayName : JsString
  contextWindow : Option ℤ
  defaultTemperature : Option ν
  defaultMaxTokens : Option ℤ
  enabled : Bool

structure ProviderRow where
  id : JsString
  name : JsString
  kind : JsString
  baseUrl : Option JsString
  isLocal : Bool
  enabled : Bool
  createdAt : JsString
  updatedAt : JsString
  deriving DecidableEq

structure ChatRow where
  id : JsString
  agentId : Option JsString
  teamId : Option JsString
  contextSummary : Option JsString
  compactedBeforeSequence : Option ℤ
  updatedAt : JsString

inductive TeamStrategy where
  | sequential
  | coordinator
  | broadcast
  | autonomous
  deriving DecidableEq, Repr

structure TeamRow where
  id : JsString
  name : JsString
  strategy : Option TeamStrategy
  maxTurnsPerInteraction : Option ℤ
  updatedAt : JsString

structure TeamMemberRow where
  teamId : JsString
  agentId : JsString
  role : Option JsString
  position : Option ℤ
  isCoordinator : Bool
  createdAt : JsString

structure SystemPromptRow where
  id : JsString
  content : JsString

structure MessageRow where
  id : JsString
  chatId : JsString
  sequence : ℤ
  role : JsString
  agentId : Option JsString
  content : JsString
  status : MessageStatus
  tokenCount : Option ℤ
  createdAt : JsString
  deriving DecidableEq

structure UsageEventRow where
  id : JsString
  occurredAt : JsString
  eventType : JsString
  agentId : Option JsString
  providerId : Option JsString
  modelId : Option JsString
  chatId : Option JsString
  inputTokens : Option ℤ
  outputTokens : Option ℤ
  deriving DecidableEq

structure Tables (ν : Type) where
  agents : List (AgentRow ν)
  models : List (ModelRow ν)
  providers : List ProviderRow
  /-- A provider's key, or the message of the error that decrypting it throws. -/
  credentials : List (JsString × Except JsString JsString)
  systemPrompts : List SystemPromptRow
  teams : List TeamRow
  teamMembers : List TeamMemberRow
  chats : List ChatRow
  messages : List MessageRow
  usageEvents : List UsageEventRow

variable {ν : Type}

def Tables.agent (db : Tables ν) (id : JsString) : Option (AgentRow ν) :=
  db.agents.find? (·.id = id)

def Tables.model (db : Tables ν) (id : JsString) : Option (ModelRow ν) :=
  db.models.find? (·.id = id)

def Tables.provider (db : Tables ν) (id : JsString) : Option ProviderRow :=
  db.providers.find? (·.id = id)

def Tables.team (db : Tables ν) (id : JsString) : Option TeamRow := db.teams.find? (·.id = id)

def Tables.chat (db : Tables ν) (id : JsString) : Option ChatRow := db.chats.find? (·.id = id)

theorem agent_id (db : Tables ν) (id : JsString) (agent : AgentRow ν)
    (h : db.agent id = some agent) : agent.id = id := by
  have hfound := List.find?_some h
  exact of_decide_eq_true hfound

theorem chat_isSome (db : Tables ν) (id : JsString) (chat : ChatRow)
    (h : db.chat id = some chat) : (db.chat chat.id).isSome := by
  have hid := List.find?_some h
  rw [of_decide_eq_true hid, h]
  rfl

/-- `COALESCE(MAX(sequence), 0)` over the messages of a chat. -/
def Tables.maxSequence (db : Tables ν) (chatId : JsString) : ℤ :=
  (((db.messages.filter (·.chatId = chatId)).map (·.sequence)).max?).getD 0

theorem le_maxSequence (db : Tables ν) (chatId : JsString) (row : MessageRow)
    (hrow : row ∈ db.messages) (hchat : row.chatId = chatId) :
    row.sequence ≤ db.maxSequence chatId := by
  have hmem : row.sequence ∈ (db.messages.filter (·.chatId = chatId)).map (·.sequence) :=
    List.mem_map_of_mem (List.mem_filter.mpr ⟨hrow, by simpa using hchat⟩)
  unfold Tables.maxSequence
  cases hmax : ((db.messages.filter (·.chatId = chatId)).map (·.sequence)).max? with
  | none =>
    rw [List.max?_eq_none_iff.mp hmax] at hmem
    cases hmem
  | some top => exact (List.max?_eq_some_iff.mp hmax).2 _ hmem

def Tables.insertMessage (db : Tables ν) (id chatId agentId content : JsString)
    (status : MessageStatus) (tokenCount : Option ℤ) (createdAt : JsString) :
    Option (MessageRow × Tables ν) :=
  if (db.chat chatId).isSome ∧ (db.agent agentId).isSome then
    let row : MessageRow := {
      id := id
      chatId := chatId
      sequence := db.maxSequence chatId + 1
      role := js "assistant"
      agentId := some agentId
      content := stored content
      status := status
      tokenCount := tokenCount
      createdAt := createdAt }
    some (row, { db with messages := db.messages ++ [row] })
  else none

theorem insertMessage_some (db : Tables ν) (id chatId agentId content : JsString)
    (status : MessageStatus) (tokenCount : Option ℤ) (createdAt : JsString) (row : MessageRow)
    (after : Tables ν)
    (h : db.insertMessage id chatId agentId content status tokenCount createdAt =
      some (row, after)) :
    row = ⟨id, chatId, db.maxSequence chatId + 1, js "assistant", some agentId, stored content,
      status, tokenCount, createdAt⟩ ∧ after = { db with messages := db.messages ++ [row] } := by
  unfold Tables.insertMessage at h
  split_ifs at h
  obtain ⟨rfl, rfl⟩ := Prod.mk.inj (Option.some.inj h)
  exact ⟨rfl, rfl⟩

theorem insertMessage_none (db : Tables ν) (id chatId agentId content : JsString)
    (status : MessageStatus) (tokenCount : Option ℤ) (createdAt : JsString)
    (h : db.insertMessage id chatId agentId content status tokenCount createdAt = none) :
    ¬((db.chat chatId).isSome ∧ (db.agent agentId).isSome) := by
  intro hboth
  unfold Tables.insertMessage at h
  rw [if_pos hboth] at h
  cases h

def writeRow (id : JsString) (status : MessageStatus) (content : JsString) (tokenCount : Option ℤ)
    (row : MessageRow) : MessageRow :=
  if row.id = id then
    { row with status := status, content := stored content, tokenCount := tokenCount }
  else row

/-- `UPDATE messages SET status = ?, content = ?, token_count = ? WHERE id = ?` -/
def Tables.writeMessage (db : Tables ν) (id : JsString) (status : MessageStatus)
    (content : JsString) (tokenCount : Option ℤ) : Tables ν :=
  { db with messages := db.messages.map (writeRow id status content tokenCount) }

@[simp] theorem writeRow_id (id : JsString) (status : MessageStatus) (content : JsString)
    (tokenCount : Option ℤ) (row : MessageRow) :
    (writeRow id status content tokenCount row).id = row.id := by
  unfold writeRow
  split_ifs <;> rfl

def touchRow (chatId now : JsString) (chat : ChatRow) : ChatRow :=
  if chat.id = chatId then { chat with updatedAt := now } else chat

def Tables.touchChat (db : Tables ν) (chatId now : JsString) : Tables ν :=
  { db with chats := db.chats.map (touchRow chatId now) }

theorem touchChat_isSome (db : Tables ν) (chatId now id : JsString) :
    ((db.touchChat chatId now).chat id).isSome = (db.chat id).isSome := by
  unfold Tables.chat Tables.touchChat
  rw [List.find?_map, Option.isSome_map]
  refine congrArg (fun p => (db.chats.find? p).isSome) (funext fun chat => ?_)
  change decide ((touchRow chatId now chat).id = id) = decide (chat.id = id)
  unfold touchRow
  split_ifs <;> rfl

def Tables.touchTeam (db : Tables ν) (teamId now : JsString) : Tables ν :=
  { db with teams := db.teams.map fun team =>
    if team.id = teamId then { team with updatedAt := now } else team }

def Tables.insertUsageEvent (db : Tables ν) (row : UsageEventRow) : Option (Tables ν) :=
  if row.agentId.all (fun id => (db.agent id).isSome) ∧
      row.providerId.all (fun id => (db.provider id).isSome) ∧
      row.modelId.all (fun id => (db.model id).isSome) ∧
      row.chatId.all (fun id => (db.chat id).isSome) then
    some { db with usageEvents := db.usageEvents ++ [row] }
  else none

theorem insertUsageEvent_isSome (db : Tables ν) (row : UsageEventRow) :
    (db.insertUsageEvent row).isSome ↔
      row.agentId.all (fun id => (db.agent id).isSome) ∧
        row.providerId.all (fun id => (db.provider id).isSome) ∧
        row.modelId.all (fun id => (db.model id).isSome) ∧
        row.chatId.all fun id => (db.chat id).isSome := by
  unfold Tables.insertUsageEvent
  split_ifs with h
  · exact iff_of_true rfl h
  · exact iff_of_false (by simp) h

theorem insertUsageEvent_rows (db after : Tables ν) (row : UsageEventRow)
    (h : db.insertUsageEvent row = some after) : after.messages = db.messages := by
  unfold Tables.insertUsageEvent at h
  split_ifs at h
  obtain rfl := Option.some.inj h
  rfl

/-- `ON DELETE SET NULL` -/
def cleared (id : JsString) (reference : Option JsString) : Option JsString :=
  if reference = some id then none else reference

/-- `DELETE FROM agents`; nothing where a chat of the agent's own would be left without an owner. -/
def Tables.deleteAgent (db : Tables ν) (id : JsString) : Option (Tables ν) :=
  if db.chats.any (fun chat => chat.agentId = some id) then none
  else some { db with
    agents := db.agents.filter fun agent => agent.id ≠ id
    teamMembers := db.teamMembers.filter fun member => member.agentId ≠ id
    messages := db.messages.map fun row => { row with agentId := cleared id row.agentId }
    usageEvents := db.usageEvents.map fun row => { row with agentId := cleared id row.agentId } }

def Tables.deleteTeam (db : Tables ν) (id : JsString) : Option (Tables ν) :=
  if db.chats.any (fun chat => chat.teamId = some id) then none
  else some { db with
    teams := db.teams.filter fun team => team.id ≠ id
    teamMembers := db.teamMembers.filter fun member => member.teamId ≠ id }

def Tables.deleteChat (db : Tables ν) (id : JsString) : Tables ν :=
  { db with
    chats := db.chats.filter fun chat => chat.id ≠ id
    messages := db.messages.filter fun row => row.chatId ≠ id
    usageEvents := db.usageEvents.map fun row => { row with chatId := cleared id row.chatId } }

end Glassbeetle.Database
