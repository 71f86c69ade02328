import Glassbeetle.DataSchema
import Glassbeetle.ExecutionChain
import Glassbeetle.ForeignKeys
import Glassbeetle.Runs
import Glassbeetle.Utf8Text

set_option autoImplicit false

/-!
# The life of the records

The services that create, change and delete rows which other rows refer to, over the schema's own
foreign keys.
-/
namespace Glassbeetle.RecordLifecycle
open JsText Utf8Text ExecutionChain SqlTables ForeignKeys DataSchema

abbrev DataStore := Store TableName ColumnName Cell

def tableOrder : List TableName :=
  [.spendBudget, .userProfile, .backupPolicy, .backups, .usageEvents, .artifacts, .sharedMemories,
    .messages, .chats, .projects, .teamMembers, .teams, .agentMemories, .agents,
    .providerCredentials, .models, .providers, .systemPrompts]

def Valid (db : DataStore) : Prop := Sound .id schema db

def hasId (id : JsString) (row : TableRow) : Bool := row .id = some (.text (stored id))

def storedCell : Cell → Cell
  | .text value => .text (stored value)
  | cell => cell

def storedRow (row : TableRow) : TableRow := fun column => (row column).map storedCell

def storedChanges (changes : List (ColumnName × Option Cell)) : List (ColumnName × Option Cell) :=
  changes.map fun change => (change.1, change.2.map storedCell)

def constraintFailed : Violation → Failure
  | .check => .thrown (js "SqliteError") (js "CHECK constraint failed")
  | .unique => .thrown (js "SqliteError") (js "UNIQUE constraint failed")
  | .foreignKey => .thrown (js "SqliteError") (js "FOREIGN KEY constraint failed")

def deleteRow (target : TableName) (id : JsString) (db : DataStore) : Except Violation DataStore :=
  deleteWhere .id schema tableOrder db target (fun row => row .id = some (.text (stored id)))

/-- A transaction: an error leaves the rows as they were. -/
def answer {α : Type} (db : DataStore) : Except Failure (α × DataStore) → Except Failure α × DataStore
  | .ok (a, after) => (.ok a, after)
  | .error e => (.error e, db)

def run {α : Type} : Except Violation α → Except Failure α
  | .ok a => .ok a
  | .error violation => .error (constraintFailed violation)

/-! ### Deleting one row -/

/-- Deletes, then finds out whether there was a row. -/
def deleteCounted (target : TableName) (missing : Failure) (id : JsString) (db : DataStore) :
    Except Failure Unit × DataStore :=
  match deleteRow target id db with
  | .error violation => (.error (constraintFailed violation), db)
  | .ok after => if (db target).any (hasId id) then (.ok (), after) else (.error missing, after)

/-- Finds out whether there is a row, then deletes. -/
def deleteChecked (target : TableName) (missing : Failure) (id : JsString) (db : DataStore) :
    Except Failure Unit × DataStore :=
  if (db target).any (hasId id) then
    match deleteRow target id db with
    | .error violation => (.error (constraintFailed violation), db)
    | .ok after => (.ok (), after)
  else (.error missing, db)

def notFound (code noun : String) (id : JsString) : Failure :=
  .http 404 (js code) (js noun ++ js " with ID \"" ++ id ++ js "\" not found")

def deleteSystemPrompt (id : JsString) : DataStore → Except Failure Unit × DataStore :=
  deleteCounted .systemPrompts (notFound "SYSTEM_PROMPT_NOT_FOUND" "System prompt" id) id

def modelNotFound (id : JsString) : Failure :=
  .http 404 (js "NOT_FOUND") (js "Model '" ++ id ++ js "' not found")

def deleteModel (id : JsString) : DataStore → Except Failure Unit × DataStore :=
  deleteChecked .models (modelNotFound id) id

/-- The database's side; the picture's file is unlinked afterwards. -/
def deleteAgent (id : JsString) : DataStore → Except Failure Unit × DataStore :=
  deleteCounted .agents (notFound "AGENT_NOT_FOUND" "Agent" id) id

def deleteTeam (id : JsString) : DataStore → Except Failure Unit × DataStore :=
  deleteChecked .teams (notFound "TEAM_NOT_FOUND" "Team" id) id

/-- The database's side; the image's file is unlinked afterwards. -/
def deleteProject (id : JsString) : DataStore → Except Failure Unit × DataStore :=
  deleteCounted .projects (notFound "PROJECT_NOT_FOUND" "Project" id) id

def deleteChat (id : JsString) : DataStore → Except Failure Unit × DataStore :=
  deleteCounted .chats (notFound "CHAT_NOT_FOUND" "Chat" id) id

def providerNotFound (id : JsString) : Failure :=
  .http 404 (js "NOT_FOUND") (js "Provider '" ++ id ++ js "' not found")

def removeProvider (id : JsString) : DataStore → Except Failure Unit × DataStore :=
  deleteChecked .providers (providerNotFound id) id

structure DeleteAllChatsResponseDto where
  deletedChats : ℕ
  deletedMessages : ℕ
  deriving DecidableEq

def removeAll (db : DataStore) : Except Failure DeleteAllChatsResponseDto × DataStore :=
  answer db do
    let after ← run (deleteWhere .id schema tableOrder db .chats fun _ => true)
    return (⟨(db .chats).length, (db .messages).length⟩, after)

/-! ### Chats -/

/-- Absent and `null` fields are one. -/
structure CreateChatDto where
  title : Option JsString
  projectId : Option JsString
  agentId : Option JsString
  teamId : Option JsString
  /-- Whether `contextSummary` or `context_summary` is given. -/
  contextSummary : Bool

structure UpdateChatDto where
  /-- Absent, `null` or a text. -/
  title : Option (Option JsString)
  projectId : Option (Option JsString)
  /-- Whether `agentId` or `teamId` is given. -/
  owner : Bool
  contextSummary : Bool

structure ChatResponseDto where
  id : Option JsString
  title : Option JsString
  projectId : Option JsString
  agentId : Option JsString
  teamId : Option JsString
  contextSummary : Option JsString
  createdAt : Option JsString
  updatedAt : Option JsString
  deriving DecidableEq

def cellText : Option Cell → Option JsString
  | some (.text value) => some value
  | _ => none

def mapChatRowToResponse (row : TableRow) : ChatResponseDto where
  id := cellText (row .id)
  title := cellText (row .title)
  projectId := cellText (row .projectId)
  agentId := cellText (row .agentId)
  teamId := cellText (row .teamId)
  contextSummary := cellText (row .contextSummary)
  createdAt := cellText (row .createdAt)
  updatedAt := cellText (row .updatedAt)

def mapCreateChatDtoToRow (dto : CreateChatDto) (id now : JsString) : TableRow
  | .id => some (.text id)
  | .title => dto.title.map .text
  | .projectId => dto.projectId.map .text
  | .agentId => dto.agentId.map .text
  | .teamId => dto.teamId.map .text
  | .createdAt => some (.text now)
  | .updatedAt => some (.text now)
  | _ => none

def badRequest (message : String) : Failure := .http 400 (js "BAD_REQUEST") (js message)

def assertNoContextSummary (contextSummary : Bool) : Except Failure Unit :=
  if contextSummary then
    .error (badRequest "context_summary is read-only and cannot be set directly; it is managed by the compaction endpoint")
  else .ok ()

def given (value : Option JsString) : Bool := value.any fun text => !(trim text).isEmpty

def assertOwnerRule (dto : CreateChatDto) : Except Failure Unit :=
  if given dto.agentId && given dto.teamId then
    .error (badRequest "A chat cannot belong to both an agent and a team; specify either agentId or teamId, but not both")
  else if !given dto.agentId && !given dto.teamId then
    .error (badRequest "A chat must have an owner: specify either agentId or teamId")
  else .ok ()

def assertNoOwnerChange (dto : UpdateChatDto) : Except Failure Unit :=
  if dto.owner then
    .error (badRequest "Changing the owner of a chat is not allowed: message history is tied to the original owner (agent or team)")
  else .ok ()

def unknownReference (code field : String) (id : JsString) : Failure :=
  .http 422 (js code) (js "Referenced " ++ js field ++ js " \"" ++ id ++ js "\" does not exist")

/-- An identifier that is not empty must be that of a row. -/
def assertReferenced (db : DataStore) (table : TableName) (code field : String) :
    Option JsString → Except Failure Unit
  | none => .ok ()
  | some id =>
    if id.isEmpty || (db table).any (hasId id) then .ok () else .error (unknownReference code field id)

/-- What `create` checks before it writes. -/
def createChecks (dto : CreateChatDto) (db : DataStore) : Except Failure Unit := do
  assertNoContextSummary dto.contextSummary
  assertOwnerRule dto
  assertReferenced db .agents "AGENT_NOT_FOUND" "agentId" dto.agentId
  assertReferenced db .teams "TEAM_NOT_FOUND" "teamId" dto.teamId
  assertReferenced db .projects "PROJECT_NOT_FOUND" "projectId" dto.projectId

def createChat (dto : CreateChatDto) (id now : JsString) (db : DataStore) :
    Except Failure ChatResponseDto × DataStore :=
  answer db do
    createChecks dto db
    let row := mapCreateChatDtoToRow dto id now
    let after ← run (insert .id schema db .chats (storedRow row))
    return (mapChatRowToResponse row, after)

/-- The columns that differ from the stored row, and `updated_at` if any does. -/
def applyChatUpdates (existing : TableRow) (dto : UpdateChatDto) (now : JsString) :
    List (ColumnName × Option Cell) :=
  let change := fun (column : ColumnName) (asked : Option (Option JsString)) =>
    match asked with
    | none => []
    | some value =>
      if value.map Cell.text = existing column then [] else [(column, value.map Cell.text)]
  let changes := change .title dto.title ++ change .projectId dto.projectId
  if changes.isEmpty then [] else changes ++ [(.updatedAt, some (.text now))]

def assertProjectExists (db : DataStore) : Option (Option JsString) → Except Failure Unit
  | some (some id) =>
    if (db .projects).any (hasId id) then .ok ()
    else .error (unknownReference "PROJECT_NOT_FOUND" "projectId" id)
  | _ => .ok ()

/-- What `update` checks, and the row that it found. -/
def updateChecks (chatId : JsString) (dto : UpdateChatDto) (db : DataStore) :
    Except Failure TableRow := do
  assertNoContextSummary dto.contextSummary
  assertNoOwnerChange dto
  match (db .chats).find? (hasId chatId) with
  | none => .error (notFound "CHAT_NOT_FOUND" "Chat" chatId)
  | some existing =>
    assertProjectExists db dto.projectId
    return existing

def updateChat (chatId : JsString) (dto : UpdateChatDto) (now : JsString) (db : DataStore) :
    Except Failure ChatResponseDto × DataStore :=
  answer db do
    let existing ← updateChecks chatId dto db
    let changes := applyChatUpdates existing dto now
    if changes.isEmpty then return (mapChatRowToResponse existing, db)
    let after ← run (updateWhere .id schema db .chats (hasId chatId) (storedChanges changes))
    if (db .chats).any (hasId chatId) then return (mapChatRowToResponse (assign changes existing), after)
    else .error (notFound "CHAT_NOT_FOUND" "Chat" chatId)

/-! ### What the schema's references allow -/

theorem tableOrder_layered : Layered schema tableOrder := by decide

theorem tableOrder_all (table : TableName) : table ∈ tableOrder := by cases table <;> decide

theorem ids_kept (table : TableName) :
    ∀ reference ∈ references .setNull (schema table), reference.1 ≠ .id := by
  cases table <;> decide

/-- The tables that are deleted from one row at a time, and whose rows take along no row that
another refers to. -/
def flatTables : List TableName := [.systemPrompts, .models, .agents, .teams, .projects, .chats]

theorem flatTables_flat (target : TableName) (h : target ∈ flatTables) : Flat schema target := by
  apply flat_of_all schema tableOrder tableOrder_all target
  revert target
  exact each_of_all _ (by decide)

theorem guarded_references (table target : TableName)
    (h : ¬ (table = .chats ∧ (target = .agents ∨ target = .teams))) :
    ∀ reference ∈ references .setNull (schema table), reference.2 = target →
      reference.1 ∉ guarded (schema table) := by
  cases table <;> cases target <;> first | exact absurd (by decide) h | decide

def owns (target : TableName) (id : JsString) (db : DataStore) : Bool :=
  (db .chats).any fun chat =>
    (target = .agents && chat .agentId = some (.text id)) ||
      (target = .teams && chat .teamId = some (.text id))

theorem owns_iff (target : TableName) (id : JsString) (db : DataStore) :
    owns target id db = true ↔ ∃ chat ∈ db .chats,
      (target = .agents ∧ chat .agentId = some (.text id)) ∨
        (target = .teams ∧ chat .teamId = some (.text id)) := by
  simp [owns]

theorem chat_owner (db : DataStore) (hdb : Valid db) (chat : TableRow) (hchat : chat ∈ db .chats) :
    (chat .agentId).isSome ≠ (chat .teamId).isSome := by
  have hadmits := ((verify_none .id schema db .chats).mp (hdb .chats)).1 chat hchat
  simpa [Definition.admits, schema, chats, Check.holds] using
    (Bool.and_eq_true_iff.mp hadmits).2

theorem chat_references : references .setNull (schema .chats) =
    [(.projectId, .projects), (.agentId, .agents), (.teamId, .teams)] := rfl

theorem ownerless_refused (db : DataStore) (hdb : Valid db) (target : TableName) (id : JsString)
    (chat : TableRow) (hchat : chat ∈ db .chats)
    (hcell : target = .agents ∧ chat .agentId = some (.text id) ∨
      target = .teams ∧ chat .teamId = some (.text id)) :
    (schema .chats).admits (forgetful schema target (.text id) .chats chat) = false := by
  have howner := chat_owner db hdb chat hchat
  have hnone : forgetful schema target (.text id) .chats chat .agentId = none ∧
      forgetful schema target (.text id) .chats chat .teamId = none := by
    rcases hcell with ⟨rfl, hcell⟩ | ⟨rfl, hcell⟩
    · have hteam : chat .teamId = none := by simpa [hcell] using howner
      simp [forgetful, chat_references, refersTo, hcell, hteam]
    · have hagent : chat .agentId = none := by simpa [hcell] using howner
      simp [forgetful, chat_references, refersTo, hcell, hagent]
  simp [Definition.admits, schema, chats, Check.holds, hnone.1, hnone.2]

/-- A row that must forget the one deleted and may not: a chat and its owner. -/
theorem refuses_owner (db : DataStore) (hdb : Valid db) (target : TableName) (id : JsString)
    (htarget : target ∈ flatTables) (hexists : ∃ row ∈ db target, row .id = some (.text id)) :
    (∃ table ∈ tableOrder, ∃ row ∈ db table, refuses .id schema tableOrder db target
      (fun row => row .id = some (.text id)) table row = true) ↔ owns target id db = true := by
  have hflat := refuses_flat .id schema tableOrder tableOrder_layered tableOrder_all db target
    (.text id) (flatTables_flat target htarget) hexists
  simp only [hflat, Bool.and_eq_true, Bool.not_eq_true']
  constructor
  · rintro ⟨table, -, row, hrow, ⟨-, hforgets⟩, hrefused⟩
    by_cases hcase : table = .chats ∧ (target = .agents ∨ target = .teams)
    · obtain ⟨rfl, htarget⟩ := hcase
      obtain ⟨reference, hreference, hrefers⟩ := List.any_eq_true.mp hforgets
      simp only [refersTo, Bool.and_eq_true, decide_eq_true_eq] at hrefers
      obtain ⟨hparent, hcell⟩ := hrefers
      rw [chat_references] at hreference
      simp only [List.mem_cons, List.not_mem_nil, or_false] at hreference
      rw [owns_iff]
      rcases hreference with rfl | rfl | rfl
      · obtain rfl := hparent
        simp at htarget
      · exact ⟨row, hrow, .inl ⟨hparent.symm, hcell⟩⟩
      · exact ⟨row, hrow, .inr ⟨hparent.symm, hcell⟩⟩
    · have hadmits := ((verify_none .id schema db table).mp (hdb table)).1 row hrow
      have hsame : (schema table).admits (forgetful schema target (.text id) table row) =
          (schema table).admits row := by
        apply admits_congr
        intro column hcolumn
        unfold forgetful
        rw [if_neg]
        simp only [List.any_eq_true, Bool.and_eq_true, decide_eq_true_eq, refersTo]
        rintro ⟨reference, hreference, rfl, hparent, -⟩
        exact guarded_references table target hcase reference hreference hparent hcolumn
      rw [hsame, hadmits] at hrefused
      cases hrefused
  · intro howns
    obtain ⟨chat, hchat, hcell⟩ := (owns_iff target id db).mp howns
    have hgoes : goes .id schema target (.text id) .chats chat = false := by
      rcases hcell with ⟨rfl, -⟩ | ⟨rfl, -⟩ <;> rfl
    refine ⟨.chats, tableOrder_all _, chat, hchat, ⟨hgoes, ?_⟩, ?_⟩
    · rcases hcell with ⟨rfl, hcell⟩ | ⟨rfl, hcell⟩
      · exact List.any_eq_true.mpr ⟨(.agentId, .agents), by decide, by simp [refersTo, hcell]⟩
      · exact List.any_eq_true.mpr ⟨(.teamId, .teams), by decide, by simp [refersTo, hcell]⟩
    · exact ownerless_refused db hdb target id chat hchat hcell

theorem deleteRow_absent (target : TableName) (id : JsString) (db : DataStore)
    (h : (db target).any (hasId id) = false) : deleteRow target id db = .ok db := by
  apply deleteWhere_nothing
  intro row hrow
  simpa [hasId] using List.any_eq_false.mp h row hrow

theorem deleteRow_present (db : DataStore) (hdb : Valid db) (target : TableName) (id : JsString)
    (htarget : target ∈ flatTables) (h : (db target).any (hasId id) = true) :
    deleteRow target id db = if owns target (stored id) db then .error .check
      else .ok (withoutRow .id schema db target (.text (stored id))) := by
  obtain ⟨row, hrow, hid⟩ := List.any_eq_true.mp h
  have hexists : ∃ row ∈ db target, row .id = some (.text (stored id)) :=
    ⟨row, hrow, of_decide_eq_true hid⟩
  have hrefuses := refuses_owner db hdb target (stored id) htarget hexists
  have hsurvivors := survivors_flat .id schema tableOrder tableOrder_layered tableOrder_all db target
    (.text (stored id)) (flatTables_flat target htarget) hexists
  rw [deleteRow, deleteWhere, hsurvivors]
  simp only [List.any_eq_true, hrefuses]

/-- What every delete of one row comes to: the row is missing, a chat has it as its owner, or it goes
with the rows that belong to it and is forgotten by the rest. -/
def deletion (target : TableName) (missing : Failure) (id : JsString) (db : DataStore) :
    Except Failure Unit × DataStore :=
  if (db target).any (hasId id) then
    if owns target (stored id) db then (.error (constraintFailed .check), db)
    else (.ok (), withoutRow .id schema db target (.text (stored id)))
  else (.error missing, db)

theorem deleteCounted_deletion (db : DataStore) (hdb : Valid db) (target : TableName)
    (htarget : target ∈ flatTables) (missing : Failure) (id : JsString) :
    deleteCounted target missing id db = deletion target missing id db := by
  unfold deleteCounted deletion
  cases hpresent : (db target).any (hasId id) with
  | false => simp [deleteRow_absent target id db hpresent]
  | true =>
    rw [deleteRow_present db hdb target id htarget hpresent]
    cases owns target (stored id) db <;> rfl

theorem deleteChecked_deletion (db : DataStore) (hdb : Valid db) (target : TableName)
    (htarget : target ∈ flatTables) (missing : Failure) (id : JsString) :
    deleteChecked target missing id db = deletion target missing id db := by
  unfold deleteChecked deletion
  cases hpresent : (db target).any (hasId id) with
  | false => rfl
  | true =>
    rw [if_pos rfl, if_pos rfl, deleteRow_present db hdb target id htarget hpresent]
    cases owns target (stored id) db <;> rfl

/-- The six services answer a delete alike, and each takes along and forgets what the schema says. -/
theorem deletes_follow_references (db : DataStore) (hdb : Valid db) (id : JsString) :
    deleteSystemPrompt id db =
        deletion .systemPrompts (notFound "SYSTEM_PROMPT_NOT_FOUND" "System prompt" id) id db ∧
      deleteModel id db = deletion .models (modelNotFound id) id db ∧
      deleteAgent id db = deletion .agents (notFound "AGENT_NOT_FOUND" "Agent" id) id db ∧
      deleteTeam id db = deletion .teams (notFound "TEAM_NOT_FOUND" "Team" id) id db ∧
      deleteProject id db = deletion .projects (notFound "PROJECT_NOT_FOUND" "Project" id) id db ∧
      deleteChat id db = deletion .chats (notFound "CHAT_NOT_FOUND" "Chat" id) id db :=
  ⟨deleteCounted_deletion db hdb _ (by decide) _ id, deleteChecked_deletion db hdb _ (by decide) _ id,
    deleteCounted_deletion db hdb _ (by decide) _ id, deleteChecked_deletion db hdb _ (by decide) _ id,
    deleteCounted_deletion db hdb _ (by decide) _ id,
    deleteCounted_deletion db hdb _ (by decide) _ id⟩

def agentChat : DataStore
  | .providers => [fun
    | .id => some (text "provider")
    | .name => some (text "Local")
    | .kind => some (text "ollama")
    | .isLocal | .enabled => some (.integer 1)
    | .createdAt | .updatedAt => some (text "now")
    | _ => none]
  | .models => [fun
    | .id => some (text "model")
    | .providerId => some (text "provider")
    | .modelIdentifier | .displayName => some (text "llama3")
    | .source => some (text "manual")
    | .enabled => some (.integer 1)
    | .createdAt | .updatedAt => some (text "now")
    | _ => none]
  | .agents => [fun
    | .id => some (text "agent")
    | .name => some (text "Analyst")
    | .modelId => some (text "model")
    | .createdAt | .updatedAt => some (text "now")
    | _ => none]
  | .chats => [mapCreateChatDtoToRow ⟨none, none, some (js "agent"), none, false⟩ (js "chat") (js "now")]
  | .messages => [fun
    | .id => some (text "message")
    | .chatId => some (text "chat")
    | .sequence => some (.integer 1)
    | .role => some (text "user")
    | .content => some (text "Hello")
    | .status => some (text "complete")
    | .createdAt => some (text "now")
    | _ => none]
  | _ => []

theorem agentChat_valid : Valid agentChat := by
  intro table
  cases table <;> decide +kernel

theorem deletes_follow_references_owner :
    deleteAgent (js "agent") agentChat = (.error (constraintFailed .check), agentChat) := by
  have hdeletes := deletes_follow_references agentChat agentChat_valid (js "agent")
  rw [hdeletes.2.2.1, deletion, if_pos (by decide +kernel), if_pos (by decide +kernel)]

/-! ### Deleting a provider -/

def ofProvider (provider : JsString) (db : DataStore) (cell : Option Cell) : Bool :=
  (db .models).any fun model =>
    model .providerId = some (.text (stored provider)) && names .id cell model

/-- The models and the credential go with the provider; an agent forgets its model, a usage event
both. -/
def withoutProvider (provider : JsString) (db : DataStore) : DataStore
  | .providers => (db .providers).filter fun row => !hasId provider row
  | .models => (db .models).filter fun row => row .providerId != some (.text (stored provider))
  | .providerCredentials =>
    (db .providerCredentials).filter fun row => row .providerId != some (.text (stored provider))
  | .agents => (db .agents).map fun row =>
      if ofProvider provider db (row .modelId) then Function.update row .modelId none else row
  | .usageEvents => (db .usageEvents).map fun row =>
      let unlinked : TableRow := if row .providerId = some (.text (stored provider))
        then Function.update row .providerId none else row
      if ofProvider provider db (row .modelId) then Function.update unlinked .modelId none
      else unlinked
  | table => db table

section Provider

variable (db : DataStore) (provider : JsString)

def providerGone (table : TableName) (row : TableRow) : Bool :=
  doomed .id schema db .providers (fun row => row .id = some (.text (stored provider))) tableOrder table row

theorem providerGone_fix (table : TableName) (row : TableRow) :
    providerGone db provider table row = ((decide (table = .providers) && hasId provider row) ||
      (references .cascade (schema table)).any
        (forgets .id (providerGone db provider) db row)) := by
  have hfix := doomed_fix ColumnName.id schema db .providers
    (fun row => row .id = some (.text (stored provider))) tableOrder tableOrder_layered table
    (tableOrder_all table) row
  exact hfix

theorem providerGone_providers (row : TableRow) :
    providerGone db provider .providers row = hasId provider row := by
  rw [providerGone_fix]
  exact Bool.or_false _

theorem providerGone_root (table : TableName) (htable : table ≠ .providers)
    (hroot : references .cascade (schema table) = []) (row : TableRow) :
    providerGone db provider table row = false := by
  rw [providerGone_fix, hroot]
  simp [htable]

theorem forgets_kept (row : TableRow) (reference : ColumnName × TableName)
    (hkept : ∀ parent, providerGone db provider reference.2 parent = false) :
    forgets .id (providerGone db provider) db row reference = false := by
  simp [forgets, hkept]

variable (hexists : (db .providers).any (hasId provider) = true)
include hexists

theorem forgets_provider (row : TableRow) (column : ColumnName) :
    forgets .id (providerGone db provider) db row (column, .providers) =
      decide (row column = some (.text (stored provider))) := by
  apply Bool.eq_iff_iff.mpr
  simp only [forgets, providerGone_providers, List.any_eq_true, Bool.and_eq_true, names_iff,
    decide_eq_true_eq, hasId]
  constructor
  · rintro ⟨parent, -, hid, -, hcell⟩
    exact hcell.symm.trans hid
  · intro hcell
    obtain ⟨parent, hparent, hid⟩ := List.any_eq_true.mp hexists
    have hid : parent .id = some (.text (stored provider)) := of_decide_eq_true hid
    exact ⟨parent, hparent, hid, by simp [hcell], hid.trans hcell.symm⟩

theorem providerGone_owned (table : TableName) (htable : table ≠ .providers)
    (howned : references .cascade (schema table) = [(.providerId, .providers)]) (row : TableRow) :
    providerGone db provider table row = decide (row .providerId = some (.text (stored provider))) := by
  rw [providerGone_fix, howned]
  simp [htable, forgets_provider db provider hexists]

theorem forgets_model (row : TableRow) (column : ColumnName) :
    forgets .id (providerGone db provider) db row (column, .models) =
      ofProvider provider db (row column) := by
  have hgone := providerGone_owned db provider hexists .models (by decide) rfl
  simp only [forgets, ofProvider, hgone]

theorem providerGone_cases (table : TableName) (row : TableRow) :
    providerGone db provider table row = match table with
      | .providers => hasId provider row
      | .models | .providerCredentials => decide (row .providerId = some (.text (stored provider)))
      | _ => false := by
  have hroot := providerGone_root db provider
  have howned := providerGone_owned db provider hexists
  cases table with
  | providers => exact providerGone_providers db provider row
  | models => exact howned .models (by decide) rfl row
  | providerCredentials => exact howned .providerCredentials (by decide) rfl row
  | agentMemories =>
    rw [providerGone_fix]
    simp [show references .cascade (schema .agentMemories) = [(.agentId, .agents)] from rfl,
      forgets_kept db provider row (.agentId, .agents) (hroot .agents (by decide) rfl)]
  | teamMembers =>
    rw [providerGone_fix]
    simp [show references .cascade (schema .teamMembers) = [(.teamId, .teams), (.agentId, .agents)]
      from rfl, forgets_kept db provider row (.agentId, .agents) (hroot .agents (by decide) rfl),
      forgets_kept db provider row (.teamId, .teams) (hroot .teams (by decide) rfl)]
  | messages =>
    rw [providerGone_fix]
    simp [show references .cascade (schema .messages) = [(.chatId, .chats)] from rfl,
      forgets_kept db provider row (.chatId, .chats) (hroot .chats (by decide) rfl)]
  | _ => exact hroot _ (by decide) rfl row

theorem forgets_linked (row : TableRow) (reference : ColumnName × TableName)
    (h : forgets .id (providerGone db provider) db row reference = true) :
    reference.2 = .providers ∨ reference.2 = .models ∨ reference.2 = .providerCredentials := by
  obtain ⟨parent, -, hgone⟩ := List.any_eq_true.mp h
  have hparent := (Bool.and_eq_true_iff.mp hgone).1
  rw [providerGone_cases db provider hexists] at hparent
  cases htable : reference.2 <;> simp [htable] at hparent ⊢

/-- Only agents and usage events are linked to a provider or a model without belonging to one. -/
theorem cleared_unlinked (table : TableName) (hagents : table ≠ .agents)
    (husage : table ≠ .usageEvents) (row : TableRow) :
    cleared .id schema (providerGone db provider) db table row = row := by
  have hunlinked : ∀ reference ∈ references .setNull (schema table),
      ¬ (reference.2 = .providers ∨ reference.2 = .models ∨ reference.2 = .providerCredentials) := by
    cases table <;>
      first | exact each_of_all _ (by decide) | exact absurd rfl hagents | exact absurd rfl husage
  apply cleared_id
  rw [List.any_eq_false]
  intro reference hreference hforgets
  exact hunlinked reference hreference (forgets_linked db provider hexists row reference hforgets)

theorem cleared_agent (row : TableRow) :
    cleared .id schema (providerGone db provider) db .agents row =
      if ofProvider provider db (row .modelId) then Function.update row .modelId none else row := by
  have hlist : references .setNull (schema .agents) =
    [(.systemPromptId, .systemPrompts), (.modelId, .models)] := rfl
  have hprompt := forgets_linked db provider hexists row (.systemPromptId, .systemPrompts)
  simp only [reduceCtorEq, or_self, imp_false, Bool.not_eq_true] at hprompt
  funext column
  unfold cleared
  simp only [hlist, List.any_cons, List.any_nil, hprompt, forgets_model db provider hexists,
    Bool.and_false, Bool.false_or, Bool.or_false]
  by_cases hcolumn : column = .modelId
  · subst hcolumn
    cases hof : ofProvider provider db (row .modelId) <;> simp
  · rw [decide_eq_false (Ne.symm hcolumn), Bool.false_and, if_neg Bool.false_ne_true]
    split
    · rw [Function.update_of_ne hcolumn]
    · rfl

theorem cleared_usageEvent (row : TableRow) :
    cleared .id schema (providerGone db provider) db .usageEvents row =
      let unlinked : TableRow := if row .providerId = some (.text (stored provider))
        then Function.update row .providerId none else row
      if ofProvider provider db (row .modelId) then Function.update unlinked .modelId none
      else unlinked := by
  have hlist : references .setNull (schema .usageEvents) =
    [(.agentId, .agents), (.providerId, .providers), (.modelId, .models), (.chatId, .chats)] := rfl
  have hagent := forgets_linked db provider hexists row (.agentId, .agents)
  have hchat := forgets_linked db provider hexists row (.chatId, .chats)
  simp only [reduceCtorEq, or_self, imp_false, Bool.not_eq_true] at hagent hchat
  funext column
  unfold cleared
  simp only [hlist, List.any_cons, List.any_nil, hagent, hchat, forgets_model db provider hexists,
    forgets_provider db provider hexists, Bool.and_false, Bool.false_or, Bool.or_false]
  by_cases hmodel : column = .modelId
  · subst hmodel
    by_cases hprovider : row .providerId = some (.text (stored provider)) <;>
      cases hof : ofProvider provider db (row .modelId) <;> simp [hprovider]
  · by_cases hcolumn : column = .providerId
    · subst hcolumn
      by_cases hprovider : row .providerId = some (.text (stored provider)) <;>
        cases hof : ofProvider provider db (row .modelId) <;> simp [hprovider]
    · rw [decide_eq_false (Ne.symm hmodel), decide_eq_false (Ne.symm hcolumn)]
      by_cases hprovider : row .providerId = some (.text (stored provider)) <;>
        cases hof : ofProvider provider db (row .modelId) <;> simp [hprovider, hmodel, hcolumn]

theorem survivors_provider :
    survivors .id schema tableOrder db .providers (fun row => row .id = some (.text (stored provider))) =
      withoutProvider provider db := by
  funext table
  have hkept : survivors .id schema tableOrder db .providers
      (fun row => row .id = some (.text (stored provider))) table =
        ((db table).filter fun row => !providerGone db provider table row).map
          (cleared .id schema (providerGone db provider) db table) := rfl
  have hid : table ≠ .agents → table ≠ .usageEvents → ∀ rows : List TableRow,
      rows.map (cleared .id schema (providerGone db provider) db table) = rows := by
    intro hagents husage rows
    conv_rhs => rw [← List.map_id rows]
    apply List.map_congr_left
    intro row _
    exact cleared_unlinked db provider hexists table hagents husage row
  rw [hkept]
  simp only [providerGone_cases db provider hexists]
  cases table with
  | agents =>
    simp only [Bool.not_false, List.filter_true]
    exact List.map_congr_left fun row _ => cleared_agent db provider hexists row
  | usageEvents =>
    simp only [Bool.not_false, List.filter_true]
    exact List.map_congr_left fun row _ => cleared_usageEvent db provider hexists row
  | _ =>
    rw [hid (by decide) (by decide)]
    simp [withoutProvider, bne, beq_eq_decide]

theorem provider_refused (hdb : Valid db) (table : TableName) (row : TableRow)
    (hrow : row ∈ db table) : refuses .id schema tableOrder db .providers
      (fun row => row .id = some (.text (stored provider))) table row = false := by
  have hadmits := ((verify_none .id schema db table).mp (hdb table)).1 row hrow
  have hsame : (schema table).admits (cleared .id schema (providerGone db provider) db table row) =
      (schema table).admits row := by
    apply admits_congr
    intro column hcolumn
    unfold cleared
    rw [if_neg]
    simp only [List.any_eq_true, Bool.and_eq_true, decide_eq_true_eq]
    rintro ⟨reference, hreference, rfl, hforgets⟩
    have hlinked := forgets_linked db provider hexists row reference hforgets
    refine guarded_references table reference.2 ?_ reference hreference rfl hcolumn
    rcases hlinked with h | h | h <;> simp [h]
  have hcleared : (schema table).admits (cleared .id schema
      (doomed .id schema db .providers (fun row => row .id = some (.text (stored provider))) tableOrder) db
        table row) = true := hsame.trans hadmits
  simp [refuses, hcleared]

omit hexists

/-- Removing a provider reaches two levels down: its models go with it, and what had one of them is
without a model. -/
theorem removeProvider_outcome (hdb : Valid db) :
    removeProvider provider db = if (db .providers).any (hasId provider)
      then (.ok (), withoutProvider provider db) else (.error (providerNotFound provider), db) := by
  unfold removeProvider deleteChecked
  cases hexists : (db .providers).any (hasId provider) with
  | false => rfl
  | true =>
    have hdelete : deleteRow .providers provider db = .ok (withoutProvider provider db) := by
      have hok := deleteWhere_ok ColumnName.id schema tableOrder db (withoutProvider provider db)
        .providers (fun row => row .id = some (.text (stored provider)))
      exact hok.mpr ⟨(survivors_provider db provider hexists).symm,
        fun table _ row hrow => provider_refused db provider hexists hdb table row hrow⟩
    rw [if_pos rfl, if_pos rfl, hdelete]

end Provider

theorem removeProvider_outcome_agent :
    removeProvider (js "provider") agentChat = (.ok (), withoutProvider (js "provider") agentChat) := by
  rw [removeProvider_outcome agentChat _ agentChat_valid, if_pos (by decide +kernel)]

/-! ### Deleting every chat -/

def withoutChats (db : DataStore) : DataStore
  | .chats => []
  | .messages => []
  | table => (db table).map fun row => fun column =>
      if (column, .chats) ∈ references .setNull (schema table) then none else row column

section AllChats

variable (db : DataStore) (hdb : Valid db)

def allGone (db : DataStore) : TableName → TableRow → Bool :=
  doomed .id schema db .chats (fun _ => true) tableOrder

theorem chat_belongings (table : TableName) :
    ∀ reference ∈ references .cascade (schema table), reference.2 ≠ .chats ∨ table = .messages := by
  cases table <;> exact each_of_all _ (by decide)

theorem chats_guarded (table : TableName) :
    ∀ reference ∈ references .setNull (schema table),
      reference.2 ≠ .chats ∨ reference.1 ∉ guarded (schema table) := by
  cases table <;> exact each_of_all _ (by decide)

theorem message_unreferenced (table : TableName) :
    ∀ reference ∈ parents (schema table), reference.2 ≠ .messages := by
  cases table <;> exact each_of_all _ (by decide)

theorem allGone_target (table : TableName) (row : TableRow) (h : allGone db table row = true) :
    table = .chats ∨ table = .messages := by
  have htarget := doomed_target .id schema tableOrder db .chats
    (flatTables_flat .chats (by decide)) (fun _ => true) table row
  rcases htarget h with htarget | ⟨reference, hreference, htarget⟩
  · exact .inl htarget
  · exact .inr ((chat_belongings table reference hreference).resolve_left (not_not.mpr htarget))

theorem allGone_chats (row : TableRow) : allGone db .chats row = true := by
  rw [allGone, doomed_fix .id schema db .chats _ tableOrder tableOrder_layered .chats
    (tableOrder_all _)]
  rfl

include hdb

theorem valid_refers (table : TableName) (row : TableRow) (hrow : row ∈ db table)
    (reference : ColumnName × TableName) (hreference : reference ∈ parents (schema table))
    (value : Cell) (hvalue : row reference.1 = some value) :
    ∃ parent ∈ db reference.2, parent .id = some value :=
  (refers_iff .id db row reference).mp
    (((verify_none .id schema db table).mp (hdb table)).2.2 row hrow reference hreference) value hvalue

theorem forgets_chat (table : TableName) (row : TableRow) (hrow : row ∈ db table)
    (reference : ColumnName × TableName) (hreference : reference ∈ parents (schema table)) :
    forgets .id (allGone db) db row reference =
      (decide (reference.2 = .chats) && (row reference.1).isSome) := by
  apply Bool.eq_iff_iff.mpr
  simp only [forgets, List.any_eq_true, Bool.and_eq_true, decide_eq_true_eq, names_iff]
  constructor
  · rintro ⟨parent, -, hgone, hsome, -⟩
    refine ⟨?_, hsome⟩
    rcases allGone_target db reference.2 parent hgone with hchats | hmessages
    · exact hchats
    · exact absurd hmessages (message_unreferenced table reference hreference)
  · rintro ⟨hchats, hsome⟩
    obtain ⟨value, hvalue⟩ := Option.isSome_iff_exists.mp hsome
    obtain ⟨parent, hparent, hkey⟩ := valid_refers db hdb table row hrow reference hreference value hvalue
    refine ⟨parent, hparent, ?_, hsome, hkey.trans hvalue.symm⟩
    rw [hchats]
    exact allGone_chats db parent

theorem allGone_messages (row : TableRow) (hrow : row ∈ db .messages) :
    allGone db .messages row = true := by
  rw [allGone, doomed_fix .id schema db .chats _ tableOrder tableOrder_layered .messages
    (tableOrder_all _)]
  have hlist : references .cascade (schema .messages) = [(.chatId, .chats)] := rfl
  have hforgets := forgets_chat db hdb .messages row hrow (.chatId, .chats) (by decide)
  have hadmits := ((verify_none .id schema db .messages).mp (hdb .messages)).1 row hrow
  have hsome : (row .chatId).isSome = true := by
    have hcolumns := List.all_eq_true.mp (Bool.and_eq_true_iff.mp hadmits).1
      (owningReference .chatId .chats) (by decide)
    simpa [owningReference] using hcolumns
  rw [hlist]
  simp only [List.any_cons, List.any_nil, Bool.or_false]
  rw [allGone] at hforgets
  rw [hforgets, hsome]
  rfl

theorem cleared_chats (table : TableName) (row : TableRow) (hrow : row ∈ db table) :
    cleared .id schema (allGone db) db table row = fun column =>
      if (column, .chats) ∈ references .setNull (schema table) then none else row column := by
  funext column
  unfold cleared
  split
  · next hany =>
    simp only [List.any_eq_true, Bool.and_eq_true, decide_eq_true_eq] at hany
    obtain ⟨⟨cell, parent⟩, hreference, rfl, hforgets⟩ := hany
    rw [forgets_chat db hdb table row hrow _ (List.mem_append_right _ hreference)] at hforgets
    obtain rfl : parent = .chats := of_decide_eq_true (Bool.and_eq_true_iff.mp hforgets).1
    rw [if_pos hreference]
  · next hnone =>
    split
    · next hreference =>
      by_contra hcell
      apply hnone
      refine List.any_eq_true.mpr ⟨(column, .chats), hreference, ?_⟩
      rw [forgets_chat db hdb table row hrow _ (List.mem_append_right _ hreference)]
      cases hvalue : row column with
      | none => exact absurd hvalue hcell
      | some value => simp
    · rfl

theorem chats_refused (table : TableName) (row : TableRow) (hrow : row ∈ db table) :
    refuses .id schema tableOrder db .chats (fun _ => true) table row = false := by
  have hadmits := ((verify_none .id schema db table).mp (hdb table)).1 row hrow
  have hsame : (schema table).admits (cleared .id schema (allGone db) db table row) =
      (schema table).admits row := by
    apply admits_congr
    intro column hcolumn
    rw [cleared_chats db hdb table row hrow]
    refine if_neg ?_
    intro hreference
    exact (chats_guarded table _ hreference).resolve_left (not_not.mpr rfl) hcolumn
  have hcleared : (schema table).admits (cleared .id schema
      (doomed .id schema db .chats (fun _ => true) tableOrder) db table row) = true :=
    hsame.trans hadmits
  simp [refuses, hcleared]

theorem survivors_chats (table : TableName) :
    survivors .id schema tableOrder db .chats (fun _ => true) table = withoutChats db table := by
  have hmap : ∀ kept : List TableRow, (∀ row ∈ kept, row ∈ db table) →
      kept.map (cleared .id schema (allGone db) db table) = kept.map fun row => fun column =>
        if (column, .chats) ∈ references .setNull (schema table) then none else row column := by
    intro kept hkept
    apply List.map_congr_left
    intro row hrow
    exact cleared_chats db hdb table row (hkept row hrow)
  have hkept : survivors .id schema tableOrder db .chats (fun _ => true) table =
      ((db table).filter fun row => !allGone db table row).map
        (cleared .id schema (allGone db) db table) := rfl
  rw [hkept, hmap _ fun row hrow => List.mem_of_mem_filter hrow]
  by_cases hchats : table = .chats
  · subst hchats
    simp [allGone_chats, withoutChats]
  · by_cases hmessages : table = .messages
    · subst hmessages
      have hnone : (db .messages).filter (fun row => !allGone db .messages row) = [] := by
        rw [List.filter_eq_nil_iff]
        intro row hrow
        simp [allGone_messages db hdb row hrow]
      rw [hnone]
      rfl
    · have hall : (db table).filter (fun row => !allGone db table row) = db table := by
        rw [List.filter_eq_self]
        intro row _
        cases hgone : allGone db table row with
        | false => rfl
        | true => exact absurd (allGone_target db table row hgone) (by simp [hchats, hmessages])
      rw [hall]
      cases table <;> first | rfl | exact absurd rfl hchats | exact absurd rfl hmessages

/-- The message count that is answered is that of the rows that went. -/
theorem removeAll_outcome :
    removeAll db = (.ok ⟨(db .chats).length, (db .messages).length⟩, withoutChats db) := by
  have hsurvivors : survivors .id schema tableOrder db .chats (fun _ => true) = withoutChats db := by
    funext table
    exact survivors_chats db hdb table
  have hdelete : deleteWhere .id schema tableOrder db .chats (fun _ => true) =
      .ok (withoutChats db) := by
    rw [deleteWhere_ok]
    exact ⟨hsurvivors.symm, fun table _ row hrow => chats_refused db hdb table row hrow⟩
  rw [removeAll, hdelete]
  rfl

end AllChats

theorem removeAll_outcome_agent :
    removeAll agentChat = (.ok ⟨1, 1⟩, withoutChats agentChat) :=
  removeAll_outcome agentChat agentChat_valid

end Glassbeetle.RecordLifecycle
