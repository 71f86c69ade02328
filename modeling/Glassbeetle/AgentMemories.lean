import Glassbeetle.ListPagination
import Glassbeetle.MemoryTags
import Glassbeetle.TwoRuns

set_option autoImplicit false

namespace Glassbeetle.AgentMemories
open JsText JsValue Utf8Text MemoryTags ExecutionChain SortedPages ListPagination

variable {ν : Type}

structure Platform (ν : Type) where
  toLowerCase : JsString → JsString
  parseJson : JsString → Option (Json ν)
  sqlite : Sqlite

structure Memories where
  /-- The identifiers of the agents. -/
  agents : List JsString
  agentMemories : List MemoryRow
  sharedMemories : List MemoryRow

structure ListAgentMemoriesQueryDto extends PaginationQueryDto, ListMemoriesQuery where
  /-- Another name for `sort`. -/
  sortBy : Option JsString

structure CreateAgentMemoryDto where
  content : JsString
  tags : Option (List JsString)

structure UpdateAgentMemoryDto where
  content : Option JsString
  /-- Absent, `null` or a list. -/
  tags : Option (Option (List JsString))

structure AgentMemoryResponseDto where
  id : JsString
  agentId : Option JsString
  content : JsString
  tags : List JsString
  createdAt : JsString
  updatedAt : JsString

def mapAgentMemoryRowToResponse (p : Platform ν) (row : MemoryRow) : AgentMemoryResponseDto :=
  ⟨row.id, row.agentId, row.content, parseTagsOnRead p.parseJson (ofColumn row.tags),
    row.createdAt, row.updatedAt⟩

def agentNotFound (agentId : JsString) : Failure :=
  .http 404 (js "AGENT_NOT_FOUND") (js "Agent with ID \"" ++ agentId ++ js "\" not found")

def memoryNotFound (memoryId : JsString) : Failure :=
  .http 404 (js "NOT_FOUND") (js "Memory with ID \"" ++ memoryId ++ js "\" not found")

def uniqueFailed : Failure :=
  .thrown (js "SqliteError") (js "UNIQUE constraint failed: agent_memories.id")

def assertAgentExists (db : Memories) (agentId : JsString) : Except Failure Unit :=
  if agentId ∈ db.agents then .ok () else .error (agentNotFound agentId)

def memoryColumn (name : JsString) (row : MemoryRow) : SqlValue :=
  if name = js "created_at" then sqlText row.createdAt
  else if name = js "updated_at" then sqlText row.updatedAt
  else if name = js "id" then sqlText row.id
  else if name = js "content" then sqlText row.content
  else .null

/-- `WHERE id = ? AND agent_id = ?` -/
def named (agentId memoryId : JsString) (row : MemoryRow) : Bool :=
  row.id = stored memoryId && row.agentId = some agentId

def readRow (db : Memories) (agentId memoryId : JsString) : Option MemoryRow :=
  db.agentMemories.find? (named agentId memoryId)

def paginationQuery (query : ListAgentMemoriesQueryDto) : PaginationQueryDto where
  limit := query.limit
  offset := query.offset
  sort := query.sort.orElse fun _ => query.sortBy
  order := query.order

def pageOf (p : Platform ν) (sorter : Sorter MemoryRow SqlValue) (pagination : SqlPaginationResult)
    (matching : List MemoryRow) : PaginatedResponse AgentMemoryResponseDto where
  items := (pagination.select memoryColumn sorter matching).map (mapAgentMemoryRowToResponse p)
  total := matching.length
  limit := some pagination.limit
  offset := some pagination.offset

def findAll (p : Platform ν) (sorter : Sorter MemoryRow SqlValue) (agentId : JsString)
    (query : ListAgentMemoriesQueryDto) (db : Memories) :
    Except Failure (PaginatedResponse AgentMemoryResponseDto) := do
  assertAgentExists db agentId
  let pagination ←
    buildPaginationSqlFragment (ListPagination.agentMemories.options (paginationQuery query))
  return pageOf p sorter pagination (MemoryTags.agentMemories p.toLowerCase p.sqlite
    db.agentMemories agentId query.toListMemoriesQuery)

def insertRow (db : Memories) (row : MemoryRow) : Except Failure Memories :=
  if sqlText row.id ∈ db.agentMemories.map (sqlText ·.id) then .error uniqueFailed
  else .ok { db with agentMemories :=
      db.agentMemories ++ [{ row with content := stored row.content }] }

def create (p : Platform ν) (agentId : JsString) (dto : CreateAgentMemoryDto) (newId now : JsString)
    (db : Memories) : Except Failure AgentMemoryResponseDto × Memories :=
  match assertAgentExists db agentId with
  | .error failure => (.error failure, db)
  | .ok () =>
    let row : MemoryRow := ⟨newId, some agentId, dto.content,
      normalizeTagsOnWrite p.toLowerCase dto.tags, now, now⟩
    match insertRow db row with
    | .error failure => (.error failure, db)
    | .ok after => (.ok (mapAgentMemoryRowToResponse p row), after)

def findOne (p : Platform ν) (agentId memoryId : JsString) (db : Memories) :
    Except Failure AgentMemoryResponseDto := do
  assertAgentExists db agentId
  match readRow db agentId memoryId with
  | none => .error (memoryNotFound memoryId)
  | some row => .ok (mapAgentMemoryRowToResponse p row)

structure MemoryChanges where
  content : Option JsString
  tags : Option (Option JsString)

def MemoryChanges.hasChanges (changes : MemoryChanges) : Bool :=
  changes.content.isSome || changes.tags.isSome

def applyAgentMemoryUpdates (p : Platform ν) (existing : MemoryRow) (dto : UpdateAgentMemoryDto) :
    MemoryChanges where
  content := dto.content.filter fun content => decide (content ≠ existing.content)
  tags := (dto.tags.map (normalizeTagsOnWrite p.toLowerCase)).filter fun tags =>
    decide (tags ≠ existing.tags)

def MemoryChanges.set (changes : MemoryChanges) (now : JsString) (row : MemoryRow) : MemoryRow :=
  { row with
    content := (changes.content.map stored).getD row.content
    tags := changes.tags.getD row.tags
    updatedAt := now }

def undefinedRow : Failure :=
  .thrown (js "TypeError") (js "Cannot read properties of undefined (reading 'id')")

def updateRows (db : Memories) (agentId memoryId : JsString) (set : MemoryRow → MemoryRow) :
    Memories :=
  { db with agentMemories := db.agentMemories.map fun row =>
      if named agentId memoryId row then set row else row }

def update (p : Platform ν) (agentId memoryId : JsString) (dto : UpdateAgentMemoryDto)
    (now : JsString) (db : Memories) : Except Failure AgentMemoryResponseDto × Memories :=
  match assertAgentExists db agentId with
  | .error failure => (.error failure, db)
  | .ok () =>
    match readRow db agentId memoryId with
    | none => (.error (memoryNotFound memoryId), db)
    | some existing =>
      let changes := applyAgentMemoryUpdates p existing dto
      if changes.hasChanges then
        let after := updateRows db agentId memoryId (changes.set now)
        if db.agentMemories.countP (named agentId memoryId) = 0 then
          (.error (memoryNotFound memoryId), after)
        else
          match readRow after agentId memoryId with
          | none => (.error undefinedRow, after)
          | some updated => (.ok (mapAgentMemoryRowToResponse p updated), after)
      else (.ok (mapAgentMemoryRowToResponse p existing), db)

def deleteRows (db : Memories) (gone : MemoryRow → Bool) : Memories :=
  { db with agentMemories := db.agentMemories.filter fun row => !gone row }

def remove (agentId memoryId : JsString) (db : Memories) : Except Failure Unit × Memories :=
  match assertAgentExists db agentId with
  | .error failure => (.error failure, db)
  | .ok () =>
    let after := deleteRows db (named agentId memoryId)
    if db.agentMemories.countP (named agentId memoryId) = 0 then
      (.error (memoryNotFound memoryId), after)
    else (.ok (), after)

def ownedBy (agentId : JsString) (row : MemoryRow) : Bool := row.agentId = some agentId

def removeAll (agentId : JsString) (db : Memories) : Except Failure ℕ × Memories :=
  match assertAgentExists db agentId with
  | .error failure => (.error failure, db)
  | .ok () => (.ok (db.agentMemories.countP (ownedBy agentId)), deleteRows db (ownedBy agentId))

inductive Request where
  | findAll (query : ListAgentMemoriesQueryDto)
  | create (dto : CreateAgentMemoryDto) (newId now : JsString)
  | findOne (memoryId : JsString)
  | update (memoryId : JsString) (dto : UpdateAgentMemoryDto) (now : JsString)
  | remove (memoryId : JsString)
  | removeAll

inductive Response where
  | page (response : PaginatedResponse AgentMemoryResponseDto)
  | memory (response : AgentMemoryResponseDto)
  | done
  | deleted (count : ℕ)

def perform (p : Platform ν) (sorter : Sorter MemoryRow SqlValue) (agentId : JsString)
    (db : Memories) : Request → Except Failure Response × Memories
  | .findAll query => ((findAll p sorter agentId query db).map .page, db)
  | .create dto newId now => (create p agentId dto newId now db).map (·.map .memory) id
  | .findOne memoryId => ((findOne p agentId memoryId db).map .memory, db)
  | .update memoryId dto now => (update p agentId memoryId dto now db).map (·.map .memory) id
  | .remove memoryId => (remove agentId memoryId db).map (·.map fun _ => .done) id
  | .removeAll => (removeAll agentId db).map (·.map .deleted) id

end Glassbeetle.AgentMemories
