import Glassbeetle.ExecutionChain

set_option autoImplicit false

/-!
# Artifacts

`artifacts.service.ts` and `artifact.mapper.ts`.
-/
namespace Glassbeetle.Artifacts
open JsText Utf8Text Database ContextConstruction ExecutionChain

structure ArtifactRow where
  id : JsString
  projectId : Option JsString
  chatId : Option JsString
  agentId : Option JsString
  title : JsString
  type : JsString
  mimeType : Option JsString
  content : Option JsString
  filePath : Option JsString
  version : ℕ
  createdAt : JsString
  updatedAt : JsString
  deriving DecidableEq

structure ArtifactResponseDto where
  id : JsString
  projectId : Option JsString
  chatId : Option JsString
  agentId : Option JsString
  title : JsString
  type : JsString
  mimeType : Option JsString
  hasFile : Bool
  version : ℕ
  createdAt : JsString
  updatedAt : JsString
  content : Option JsString
  deriving DecidableEq

def ArtifactRow.stored (row : ArtifactRow) : ArtifactRow where
  id := Utf8Text.stored row.id
  projectId := row.projectId.map Utf8Text.stored
  chatId := row.chatId.map Utf8Text.stored
  agentId := row.agentId.map Utf8Text.stored
  title := Utf8Text.stored row.title
  type := Utf8Text.stored row.type
  mimeType := row.mimeType.map Utf8Text.stored
  content := row.content.map Utf8Text.stored
  filePath := row.filePath.map Utf8Text.stored
  version := row.version
  createdAt := Utf8Text.stored row.createdAt
  updatedAt := Utf8Text.stored row.updatedAt

def mapArtifactRowToResponse (row : ArtifactRow) : ArtifactResponseDto where
  id := row.id
  projectId := row.projectId
  chatId := row.chatId
  agentId := row.agentId
  title := row.title
  type := row.type
  mimeType := row.mimeType
  hasFile := (truthy row.filePath).isSome
  version := row.version
  createdAt := row.createdAt
  updatedAt := row.updatedAt
  content := row.content

/-- A request to create; what is left out is like what is `null`. -/
structure CreateArtifactDto where
  title : JsString
  type : JsString
  mimeType : Option JsString
  content : Option JsString
  filePath : Option JsString
  file_path : Option JsString
  projectId : Option JsString
  chatId : Option JsString
  agentId : Option JsString

/-- A request to update: a field is left out, or `null`, or a value. -/
structure UpdateArtifactDto where
  title : Option JsString
  type : Option JsString
  mimeType : Option (Option JsString)
  content : Option (Option JsString)
  filePath : Option (Option JsString)
  file_path : Option (Option JsString)
  projectId : Option (Option JsString)
  chatId : Option (Option JsString)
  agentId : Option (Option JsString)

structure Store where
  projects : List JsString
  chats : List JsString
  agents : List JsString
  artifacts : List ArtifactRow

/-- `SELECT * FROM artifacts WHERE id = ?` -/
def Store.artifact (db : Store) (id : JsString) : Option ArtifactRow :=
  db.artifacts.find? (·.id = stored id)

def artifactNotFound (id : JsString) : Failure :=
  .http 404 (js "ARTIFACT_NOT_FOUND") (js "Artifact \"" ++ id ++ js "\" not found")

def bothContentAndFile : Failure :=
  .http 400 (js "INVALID_ARTIFACT_CONTENT")
    (js "An artifact cannot define both content and filePath; specify either content (for inline text) or filePath (for stored files), but not both")

def neitherContentNorFile : Failure :=
  .http 400 (js "INVALID_ARTIFACT_CONTENT")
    (js "An artifact must define exactly one of content (for inline text) or filePath (for stored files)")

/-- Exactly one of the two. -/
def assertContentRule (content filePath : Option JsString) : Except Failure Unit :=
  if content.isSome ∧ filePath.isSome then .error bothContentAndFile
  else if ¬content.isSome ∧ ¬filePath.isSome then .error neitherContentNorFile
  else .ok ()

def assertReferenced (table : List JsString) (code field : String) :
    Option JsString → Except Failure Unit
  | none => .ok ()
  | some id =>
    if stored id ∈ table then .ok ()
    else .error (unprocessable code
      (js "Referenced " ++ js field ++ js " \"" ++ id ++ js "\" does not exist"))

def assertReferences (db : Store) (projectId chatId agentId : Option JsString) :
    Except Failure Unit := do
  assertReferenced db.projects "PROJECT_NOT_FOUND" "projectId" projectId
  assertReferenced db.chats "CHAT_NOT_FOUND" "chatId" chatId
  assertReferenced db.agents "AGENT_NOT_FOUND" "agentId" agentId

def mapCreateArtifactDtoToRow (id now : JsString) (dto : CreateArtifactDto) : ArtifactRow where
  id := id
  projectId := dto.projectId
  chatId := dto.chatId
  agentId := dto.agentId
  title := dto.title
  type := dto.type
  mimeType := dto.mimeType
  content := dto.content
  filePath := dto.filePath.or dto.file_path
  version := 1
  createdAt := now
  updatedAt := now

def constraintFailed (what : String) : Failure :=
  .thrown (js "SqliteError") (js what ++ js " constraint failed")

def insertArtifact (db : Store) (row : ArtifactRow) : Except Failure Store :=
  let row := row.stored
  if row.id ∈ db.artifacts.map (·.id) then .error (constraintFailed "UNIQUE")
  else if row.projectId.all (· ∈ db.projects) ∧ row.chatId.all (· ∈ db.chats) ∧
      row.agentId.all (· ∈ db.agents) then
    .ok { db with artifacts := db.artifacts ++ [row] }
  else .error (constraintFailed "FOREIGN KEY")

/-- An empty identifier is not looked up first. -/
def create (db : Store) (id now : JsString) (dto : CreateArtifactDto) :
    Except Failure (ArtifactResponseDto × Store) := do
  assertContentRule dto.content (dto.filePath.or dto.file_path)
  assertReferences db (truthy dto.projectId) (truthy dto.chatId) (truthy dto.agentId)
  let row := mapCreateArtifactDtoToRow id now dto
  let db ← insertArtifact db row
  return (mapArtifactRowToResponse row, db)

structure ChangedColumns where
  title : Option JsString
  type : Option JsString
  mimeType : Option (Option JsString)
  projectId : Option (Option JsString)
  chatId : Option (Option JsString)
  agentId : Option (Option JsString)
  content : Option (Option JsString)
  filePath : Option (Option JsString)

inductive SetClause where
  | title (value : JsString)
  | type (value : JsString)
  | mimeType (value : Option JsString)
  | projectId (value : Option JsString)
  | chatId (value : Option JsString)
  | agentId (value : Option JsString)
  | content (value : Option JsString)
  | filePath (value : Option JsString)
  | version (value : ℕ)
  | updatedAt (value : JsString)
  deriving DecidableEq

def SetClause.apply (row : ArtifactRow) : SetClause → ArtifactRow
  | .title value => { row with title := stored value }
  | .type value => { row with type := stored value }
  | .mimeType value => { row with mimeType := value.map stored }
  | .projectId value => { row with projectId := value.map stored }
  | .chatId value => { row with chatId := value.map stored }
  | .agentId value => { row with agentId := value.map stored }
  | .content value => { row with content := value.map stored }
  | .filePath value => { row with filePath := value.map stored }
  | .version value => { row with version := value }
  | .updatedAt value => { row with updatedAt := stored value }

/-- `UPDATE artifacts SET … WHERE id = ?`, for the row itself. -/
def execute (clauses : List SetClause) (row : ArtifactRow) : ArtifactRow :=
  clauses.foldl SetClause.apply row

def ChangedColumns.setClauses (changed : ChangedColumns) : List SetClause :=
  (changed.title.map .title).toList ++ (changed.type.map .type).toList ++
    (changed.mimeType.map .mimeType).toList ++ (changed.projectId.map .projectId).toList ++
    (changed.chatId.map .chatId).toList ++ (changed.agentId.map .agentId).toList ++
    (changed.content.map .content).toList ++ (changed.filePath.map .filePath).toList

/-- `{ ...existingRow, ...changedColumns }` -/
def ChangedColumns.spread (changed : ChangedColumns) (existingRow : ArtifactRow) : ArtifactRow :=
  { existingRow with
    title := changed.title.getD existingRow.title
    type := changed.type.getD existingRow.type
    mimeType := changed.mimeType.getD existingRow.mimeType
    projectId := changed.projectId.getD existingRow.projectId
    chatId := changed.chatId.getD existingRow.chatId
    agentId := changed.agentId.getD existingRow.agentId
    content := changed.content.getD existingRow.content
    filePath := changed.filePath.getD existingRow.filePath }

structure ArtifactUpdateResult where
  updatedRow : ArtifactRow
  hasChanges : Bool
  setClauses : List SetClause
  unlinkedFilePath : Option JsString

def changed {α : Type} [DecidableEq α] (specified : Option α) (current : α) : Option α :=
  specified.filter (· ≠ current)

def nextContent (existingRow : ArtifactRow) (dto : UpdateArtifactDto) : Option JsString :=
  dto.content.getD existingRow.content

def nextFilePath (existingRow : ArtifactRow) (dto : UpdateArtifactDto) : Option JsString :=
  (dto.filePath.or dto.file_path).getD existingRow.filePath

def changedColumns (existingRow : ArtifactRow) (dto : UpdateArtifactDto) : ChangedColumns where
  title := changed dto.title existingRow.title
  type := changed dto.type existingRow.type
  mimeType := changed dto.mimeType existingRow.mimeType
  projectId := changed dto.projectId existingRow.projectId
  chatId := changed dto.chatId existingRow.chatId
  agentId := changed dto.agentId existingRow.agentId
  content := changed (some (nextContent existingRow dto)) existingRow.content
  filePath := changed (some (nextFilePath existingRow dto)) existingRow.filePath

def updateResult (existingRow : ArtifactRow) (dto : UpdateArtifactDto) (now : JsString) :
    ArtifactUpdateResult :=
  let changedColumns := changedColumns existingRow dto
  let hasChanges := !changedColumns.setClauses.isEmpty
  let updatedAt := if hasChanges then now else existingRow.updatedAt
  let nextVersion := if hasChanges then existingRow.version + 1 else existingRow.version
  { updatedRow :=
      { changedColumns.spread existingRow with version := nextVersion, updatedAt := updatedAt }
    hasChanges := hasChanges
    setClauses := changedColumns.setClauses ++
      if hasChanges then [.version nextVersion, .updatedAt updatedAt] else []
    unlinkedFilePath :=
      if nextFilePath existingRow dto ≠ existingRow.filePath then truthy existingRow.filePath
      else none }

/-- The content rule is only checked where one of the two is specified. -/
def applyArtifactUpdates (existingRow : ArtifactRow) (dto : UpdateArtifactDto) (now : JsString) :
    Except Failure ArtifactUpdateResult := do
  if dto.content.isSome ∨ (dto.filePath.or dto.file_path).isSome then
    assertContentRule (nextContent existingRow dto) (nextFilePath existingRow dto)
  return updateResult existingRow dto now

/-- The file that is then deleted from storage, if any, comes last. -/
def update (db : Store) (id now : JsString) (dto : UpdateArtifactDto) :
    Except Failure (ArtifactResponseDto × Store × Option JsString) := do
  let some existing := db.artifact id | throw (artifactNotFound id)
  assertReferences db dto.projectId.join dto.chatId.join dto.agentId.join
  let result ← applyArtifactUpdates existing dto now
  if !result.hasChanges then return (mapArtifactRowToResponse existing, db, none)
  else
    let artifacts := db.artifacts.map fun row =>
      if row.id = stored id then execute result.setClauses row else row
    return (mapArtifactRowToResponse result.updatedRow, { db with artifacts := artifacts },
      result.unlinkedFilePath)

/-- As for `update`. -/
def delete (db : Store) (id : JsString) : Except Failure (Store × Option JsString) :=
  match db.artifact id with
  | none => .error (artifactNotFound id)
  | some existing =>
    .ok ({ db with artifacts := db.artifacts.filter (·.id ≠ stored id) }, truthy existing.filePath)

end Glassbeetle.Artifacts
