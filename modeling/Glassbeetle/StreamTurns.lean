import Glassbeetle.MessageWrites
import Glassbeetle.Runs

set_option autoImplicit false

/-!
# Completions, step by step

Streaming turns as they go from one suspension to the next, any number of them at
a time. Between two turns a call writes nothing but what a reply writes, so the
turns that a call takes, of the agent of the chat or of any members, are left open.
-/
namespace Glassbeetle.StreamTurns
open JsText AdapterTypes Database ExecutionChain Inference Transactions MessageWrites

variable {ν : Type}

structure StreamTurn (ν : Type) where
  chat : ChatRow
  agent : AgentRow ν
  execution : Execution ν
  messageId : JsString
  /-- A member's turn in a team, not the agent's of the chat. -/
  member : Bool
  progress : Progress

/-- What the statements at the end of a turn meet: those of the first flush, the usage event, and the
flush after an exception. -/
structure Statements where
  flush : Calls
  usage : Calls
  rescue : Calls

variable (t : StreamTurn ν)

def StreamTurn.append (delta : JsString) : StreamTurn ν :=
  { t with progress := { t.progress with
    accumulatedContent := t.progress.accumulatedContent ++ delta } }

def StreamTurn.report (usage : Option (TokenUsage ℤ)) : StreamTurn ν :=
  { t with progress := { t.progress with reportedUsage := usage.or t.progress.reportedUsage } }

def StreamTurn.flushed (now : ℤ) : StreamTurn ν :=
  { t with progress := { t.progress with
    lastFlushedLength := t.progress.accumulatedContent.length
    lastFlushTime := now
    currentStatus := .streaming } }

def StreamTurn.interrupted : StreamTurn ν :=
  { t with progress := { t.progress with accumulatedContent := generationInterrupted } }

def StreamTurn.due (now : ℤ) : Bool :=
  t.progress.currentStatus = .pending ∨
    t.progress.lastFlushedLength + 200 ≤ t.progress.accumulatedContent.length ∨
    500 ≤ now - t.progress.lastFlushTime

def flush (calls : Calls) (newStatus : MessageStatus) (tokenCount : Option ℤ) (db : Tables ν) :
    Except Failure Unit × Tables ν :=
  flushPartial calls t.chat.id t.messageId newStatus t.progress.accumulatedContent tokenCount db

def finishAborted (calls : Calls) (db : Tables ν) : Except Failure Unit × Tables ν :=
  if t.progress.accumulatedContent ≠ [] then flush t calls .complete t.progress.outputTokens db
  else flush t.interrupted calls .error none db

def finishFailed (calls : Calls) (db : Tables ν) : Except Failure Unit × Tables ν :=
  flush t calls .error t.progress.outputTokens db

def recordUsage (calls : Calls) (db : Tables ν) : Except Failure Unit × Tables ν :=
  settle id sqliteFailure (autocommit (statement (calls.fault 0 0)
    (MessageWrites.insertUsageEvent (usageEvent (calls.usageId 0) (calls.nowIso 0) t.agent.id t.chat.id
      t.execution t.progress.reportedUsage))) db)

def finishComplete (s : Statements) (db : Tables ν) : Except Failure Unit × Tables ν :=
  match flush t s.flush .complete t.progress.outputTokens db with
  | (.error failure, after) => (.error failure, after)
  | (.ok (), after) => recordUsage t s.usage after

variable (toLowerCase : JsString → JsString)

def onFailure (calls : Calls) (aborted : Bool) (failure : Failure) (db : Tables ν) : Tables ν :=
  if aborted ∨ SingleAgentChat.abortLike toLowerCase failure then (finishAborted t calls db).2
  else (finishFailed t calls db).2

/-- How `streamChat` ends once the stream has, and whether it has recorded the usage. -/
def endAgentTurn (s : Statements) (aborted : Bool) (ending : Option Failure) (db : Tables ν) :
    Bool × Tables ν :=
  match ending with
  | some failure => (false, onFailure t toLowerCase s.rescue aborted failure db)
  | none =>
    if aborted then
      match finishAborted t s.flush db with
      | (.ok (), after) => (false, after)
      | (.error failure, after) =>
        let t := if t.progress.accumulatedContent ≠ [] then t else t.interrupted
        (false, onFailure t toLowerCase s.rescue aborted failure after)
    else
      match finishComplete t s db with
      | (.ok (), after) => (true, after)
      | (.error failure, after) => (false, onFailure t toLowerCase s.rescue aborted failure after)

/-- How `streamMemberTurn` ends; what its last statements throw, it throws. -/
def endMemberTurn (s : Statements) (aborted : Bool) (ending : Option Failure) (db : Tables ν) :
    Bool × Tables ν :=
  if aborted then (false, (finishAborted t s.flush db).2)
  else match ending with
    | some _ => (false, (finishFailed t s.rescue db).2)
    | none =>
      match finishComplete t s db with
      | (.ok (), after) => (true, after)
      | (.error _, after) => (false, after)

def endTurn (s : Statements) (aborted : Bool) (ending : Option Failure) (db : Tables ν) :
    Bool × Tables ν :=
  if t.member then endMemberTurn t s aborted ending db
  else endAgentTurn t toLowerCase s aborted ending db

inductive Outcome (ν : Type) where
  | running (t : StreamTurn ν)
  | over (recorded : Bool)

def onEvent (s : Statements) (aborted : Bool) (now : ℤ) (event : StreamEvent JsString ℤ)
    (db : Tables ν) : Outcome ν × Tables ν :=
  let ends := fun (t : StreamTurn ν) ending db =>
    let (recorded, after) := endTurn t toLowerCase s aborted ending db
    (Outcome.over recorded, after)
  if aborted then ends t none db
  else match event with
    | .textDelta delta =>
      let t := t.append delta
      if t.due now then
        match flush t s.flush .streaming t.progress.outputTokens db with
        | (.ok (), after) => (.running (t.flushed now), after)
        | (.error failure, after) => ends t (some failure) after
      else (.running t, db)
    | .thoughtDelta _ => (.running t, db)
    | .usage usage => (.running (t.report (some usage)), db)
    | .complete _ usage _ => (.running (t.report usage), db)
    | .error error => ends t (some (.adapter error)) db

/-- The database, the streaming turns under way, and the messages of those that have ended without
a usage event. -/
structure System (ν : Type) where
  db : Tables ν
  turns : List (StreamTurn ν)
  unrecorded : List JsString

inductive Action (ν : Type) where
  /-- A provider has answered `completeChat`. -/
  | reply (calls : Calls) (chat : ChatRow) (agent : AgentRow ν) (execution : Execution ν)
      (response : CompletionResponse)
  | turnError (calls : Calls) (chatId agentId : JsString)
  /-- A streaming turn begins. -/
  | start (calls : Calls) (chat : ChatRow) (agent : AgentRow ν) (execution : Execution ν)
      (member : Bool) (now : ℤ)
  | event (messageId : JsString) (s : Statements) (aborted : Bool) (now : ℤ)
      (event : StreamEvent JsString ℤ)
  /-- The provider's stream ends, with an exception or without. -/
  | streamEnd (messageId : JsString) (s : Statements) (aborted : Bool) (ending : Option Failure)
  /-- The consumer returns at a yield, or the member's adapter cannot be created. -/
  | leave (messageId : JsString)

def System.without (s : System ν) (messageId : JsString) : List (StreamTurn ν) :=
  s.turns.filter (·.messageId ≠ messageId)

def System.close (s : System ν) (messageId : JsString) (recorded : Bool) (db : Tables ν) : System ν where
  db := db
  turns := s.without messageId
  unrecorded := if recorded then s.unrecorded else messageId :: s.unrecorded

def System.put (s : System ν) (t : StreamTurn ν) (db : Tables ν) : System ν :=
  { s with db := db, turns := s.turns.map fun old => if old.messageId = t.messageId then t else old }

def step (s : System ν) : Action ν → System ν
  | .reply calls chat agent execution response =>
    { s with db := (persistAssistantReply calls chat agent execution response s.db).2 }
  | .turnError calls chatId agentId => { s with db := recordTurnErrorRow calls chatId agentId s.db }
  | .start calls chat agent execution member now =>
    match createPendingMessageRow calls chat.id agent.id s.db with
    | (.error _, after) => { s with db := after }
    | (.ok row, after) =>
      { s with
        db := after
        turns := s.turns ++ [⟨chat, agent, execution, row.id, member, .start now⟩] }
  | .event messageId statements aborted now event =>
    match s.turns.find? (·.messageId = messageId) with
    | none => s
    | some t =>
      match onEvent t toLowerCase statements aborted now event s.db with
      | (.running t, after) => s.put t after
      | (.over recorded, after) => s.close messageId recorded after
  | .streamEnd messageId statements aborted ending =>
    match s.turns.find? (·.messageId = messageId) with
    | none => s
    | some t =>
      let (recorded, after) := endTurn t toLowerCase statements aborted ending s.db
      s.close messageId recorded after
  | .leave messageId =>
    match s.turns.find? (·.messageId = messageId) with
    | none => s
    | some _ => s.close messageId false s.db

end Glassbeetle.StreamTurns
