import Glassbeetle.JsonText
import Glassbeetle.JsValue
import Glassbeetle.CanonicalLists

set_option autoImplicit false

namespace Glassbeetle.MemoryTags
open JsText JsValue JsonText CanonicalLists

def maxTagLength : ℕ := 50

def maxTagsPerMemory : ℕ := 50

def comma : CodeUnit := 0x2C

inductive TagFilterMode where
  | all
  | any

def normalizeTag (toLowerCase : JsString → JsString) (tag : JsString) : Option JsString :=
  let trimmed := toLowerCase (trim tag)
  if trimmed = [] then none else some (trimmed.take maxTagLength)

def normalizeTagsOnWrite (toLowerCase : JsString → JsString) (tags : Option (List JsString)) :
    Option JsString :=
  match tags with
  | none => none
  | some tags =>
    let cleaned := tags.filterMap (normalizeTag toLowerCase)
    if cleaned = [] then none
    else some (stringify ((canonical (· ≤ ·) cleaned).take maxTagsPerMemory))

section Read
variable {ν : Type}

/-- `parsed.filter((t): t is string => typeof t === 'string')` -/
def strings (items : List (Json ν)) : List JsString := items.filterMap fun item => asString (some item)

def parseTagsOnRead (parseJson : JsString → Option (Json ν)) (rawTags : Value ν) : List JsString :=
  match rawTags with
  | some (.array items) => strings items
  | some (.string text) =>
    if text = [] then []
    else match parseJson text with
      | some (.array items) => strings items
      | _ => []
  | _ => []

/-- What SQLite returns for a `TEXT` column. -/
def ofColumn : Option JsString → Value ν
  | none => some .null
  | some text => some (.string text)

end Read

inductive TagInput where
  | text (tags : JsString)
  | list (tags : List JsString)

def parseTagFilterInput (toLowerCase : JsString → JsString) (input : TagInput) : List JsString :=
  let rawList := match input with
    | .list tags => tags
    | .text tags => tags.splitOn comma
  (rawList.filterMap (normalizeTag toLowerCase)).eraseDups

structure TagFilterPredicate where
  mode : TagFilterMode
  params : List JsString

def buildTagFilterPredicate (toLowerCase : JsString → JsString) (tags : TagInput)
    (mode : Option TagFilterMode) : Option TagFilterPredicate :=
  let parsedTags := parseTagFilterInput toLowerCase tags
  if parsedTags = [] then none else some ⟨mode.getD .all, parsedTags⟩

structure Sqlite where
  jsonValid : JsString → Bool
  /-- The strings of a JSON array of strings, as the JSON text has them. -/
  jsonEach : JsString → List JsString
  /-- `json_each.value = ?`, for such a string and a bound one. -/
  equals : JsString → JsString → Bool
  /-- `content LIKE ? ESCAPE '\'` -/
  like : JsString → JsString → Bool

/-- The predicate's `WHERE` fragment on one row. -/
def TagFilterPredicate.holds (sqlite : Sqlite) (predicate : TagFilterPredicate)
    (tags : Option JsString) : Bool :=
  match tags with
  | none => false
  | some text => sqlite.jsonValid text && match predicate.mode with
    | .any => (sqlite.jsonEach text).any fun value => predicate.params.any (sqlite.equals value)
    | .all => predicate.params.all fun param =>
      (sqlite.jsonEach text).any fun value => sqlite.equals value param

def escapeLikePattern (term : JsString) : JsString :=
  term.flatMap fun c => if c = 0x5C ∨ c = 0x25 ∨ c = 0x5F then [0x5C, c] else [c]

/-- A row of `agent_memories`, or of `shared_memories` without an agent. -/
structure MemoryRow where
  id : JsString
  agentId : Option JsString
  content : JsString
  tags : Option JsString
  createdAt : JsString
  updatedAt : JsString
  deriving DecidableEq

structure ListMemoriesQuery where
  tag : Option JsString
  tags : Option JsString
  tagMode : Option TagFilterMode
  content : Option JsString
  search : Option JsString

def tagCondition (toLowerCase : JsString → JsString) (sqlite : Sqlite) (query : ListMemoriesQuery)
    (row : MemoryRow) : Bool :=
  match query.tags.orElse fun _ => query.tag with
  | none => true
  | some tagFilter =>
    if trim tagFilter = [] then true
    else match buildTagFilterPredicate toLowerCase (.text tagFilter) query.tagMode with
      | none => true
      | some predicate => predicate.holds sqlite row.tags

def contentCondition (sqlite : Sqlite) (query : ListMemoriesQuery) (row : MemoryRow) : Bool :=
  match query.content.orElse fun _ => query.search with
  | none => true
  | some contentSearch =>
    if trim contentSearch = [] then true
    else sqlite.like row.content (js "%" ++ escapeLikePattern (trim contentSearch) ++ js "%")

/-- The rows that `AgentMemoriesService.findAll` pages through. -/
def agentMemories (toLowerCase : JsString → JsString) (sqlite : Sqlite) (memories : List MemoryRow)
    (agentId : JsString) (query : ListMemoriesQuery) : List MemoryRow :=
  memories.filter fun row => row.agentId = some agentId &&
    (tagCondition toLowerCase sqlite query row && contentCondition sqlite query row)

/-- The rows that `SharedMemoriesService.findAll` pages through. -/
def sharedMemories (toLowerCase : JsString → JsString) (sqlite : Sqlite) (memories : List MemoryRow)
    (query : ListMemoriesQuery) : List MemoryRow :=
  memories.filter fun row =>
    tagCondition toLowerCase sqlite query row && contentCondition sqlite query row

structure Documented {ν : Type} (toLowerCase : JsString → JsString)
    (parseJson : JsString → Option (Json ν)) (sqlite : Sqlite) : Prop where
  /-- Each code point has its lower case, which is its own. -/
  lowered : ∀ s, toLowerCase (toLowerCase s) = toLowerCase s
  pieces : ∀ s piece, toLowerCase s = s → piece <:+: s → toLowerCase piece = piece
  /-- White space has no case, and nothing else is made into it. -/
  spaces : ∀ s, trim s = s → trim (toLowerCase s) = toLowerCase s
  nonempty : ∀ s, toLowerCase s = [] → s = []
  parsed : ∀ texts, parseJson (stringify texts) = some (.array (texts.map .string))
  valid : ∀ texts, sqlite.jsonValid (stringify texts) = true
  each : ∀ texts, sqlite.jsonEach (stringify texts) = texts

end Glassbeetle.MemoryTags
