import Mathlib.Data.List.Nodup
import Glassbeetle.AdapterTypes
import Glassbeetle.JsValue
import Glassbeetle.Pagination
import Glassbeetle.Utf8Text

set_option autoImplicit false

/-!
# Model discovery

`discoverModels` of the four adapters and the reconciliation in
`ModelsService.discover`.
-/
namespace Glassbeetle.ModelDiscovery
open JsText JsValue Pagination AdapterTypes Utf8Text

variable {ν : Type} [JsNumber ν]

/-- What a request comes to: an error from `executeFetch`, a body that cannot be read as JSON,
or a document. -/
inductive Response (ν : Type) where
  | failed (reason : JsString)
  | notJson
  | body (json : Json ν)

inductive DiscoverError where
  | setup (reason : JsString)
  | request (reason : JsString)
  | notJson
  | type (error : TypeError)
  | malformedItem (message : JsString)
  | constraint
  deriving DecidableEq, Repr

/-- An adapter passes on what an upstream calls its identifiers, whatever they are. -/
structure DiscoveredModel (ν : Type) where
  modelIdentifier : Value ν
  displayName : Value ν
  contextWindow : Option ν
  defaultTemperature : Option ν
  defaultMaxTokens : Option ν

abbrev Page (ν : Type) := List (DiscoveredModel ν) × Bool

def typed {α : Type} (result : Except TypeError α) : Except DiscoverError α :=
  result.mapError .type

def firstLabel : List (Value ν) → Option JsString
  | [] => none
  | value :: rest =>
    match asString value with
    | some s => if trim s = [] then firstLabel rest else some (trim s)
    | none => firstLabel rest

def openAiItem (item : Json ν) : Option (DiscoveredModel ν) :=
  let item := some item
  match optional item "id" with
  | some (.string (c :: id)) => some {
      modelIdentifier := some (.string (c :: id))
      displayName := some (.string
        ((firstLabel [optional item "name", optional item "display_name"]).getD (c :: id)))
      contextWindow := asNumber (optional item "context_window") <|>
        asNumber (optional item "context_length") <|> asNumber (optional item "max_context_length")
      defaultTemperature := asNumber (optional item "default_temperature")
      defaultMaxTokens := asNumber (optional item "default_max_tokens") <|>
        asNumber (optional item "max_tokens") }
  | _ => none

/-- An unreadable body counts as an empty list. -/
def openAiPage : Response ν → Except DiscoverError (Page ν)
  | .failed reason => .error (.request reason)
  | .notJson => .ok ([], false)
  | .body json =>
    let rawList := match asArray (optional (some json) "data") with
      | some items => items
      | none => (asArray (some json)).getD []
    .ok (rawList.filterMap openAiItem, false)

/-- `item.name.replace(/^models\//, '')` -/
def stripModels (name : Value ν) : Except TypeError (Value ν) :=
  match name with
  | some (.string s) =>
    .ok (some (.string (if startsWith s (js "models/") then s.drop 7 else s)))
  | _ => .error (.notFunction (js "replace"))

def googleItem (item : Json ν) : Except TypeError (Option (DiscoveredModel ν)) :=
  let item := some item
  if !truthy (optional item "name") then .ok none
  else do
    let modelIdentifier ← stripModels (optional item "name")
    let methods := asArray (optional item "supportedGenerationMethods")
    if methods.any fun methods => !methods.any (isString (js "generateContent")) then return none
    else return some {
      modelIdentifier := modelIdentifier
      displayName := orElse (optional item "displayName") modelIdentifier
      contextWindow := asNumber (optional item "inputTokenLimit")
      defaultTemperature := asNumber (optional item "temperature")
      defaultMaxTokens := asNumber (optional item "outputTokenLimit") }

/-- An unreadable page ends the listing with the pages before it. -/
def googlePage : Response ν → Except DiscoverError (Page ν)
  | .failed reason => .error (.request reason)
  | .notJson => .ok ([], false)
  | .body json => do
    let models ← typed (get (some json) "models")
    let items ← typed (iterate (coalesce models (some (.array []))))
    let listed ← typed (items.mapM googleItem)
    return (listed.filterMap id, truthy (optional (some json) "nextPageToken"))

def anthropicItem (item : Json ν) : Option (DiscoveredModel ν) :=
  let item := some item
  if truthy (optional item "id") then some {
      modelIdentifier := optional item "id"
      displayName := orElse (optional item "display_name") (optional item "id")
      contextWindow := asNumber (optional item "context_window")
      defaultTemperature := asNumber (optional item "default_temperature")
      defaultMaxTokens := asNumber (optional item "max_tokens") <|>
        asNumber (optional item "default_max_tokens") }
  else none

def anthropicPage : Response ν → Except DiscoverError (Page ν)
  | .failed reason => .error (.request reason)
  | .notJson => .error .notJson
  | .body json => do
    let data ← typed (get (some json) "data")
    let items ← typed (iterate (coalesce data (some (.array []))))
    return (items.filterMap anthropicItem,
      truthy (optional (some json) "has_more") && truthy (optional (some json) "last_id"))

def ollamaItem (item : Json ν) : Option (DiscoveredModel ν) :=
  let item := some item
  let modelIdentifier := orElse (optional item "name") (optional item "model")
  if truthy modelIdentifier then some {
      modelIdentifier := modelIdentifier
      displayName := modelIdentifier
      contextWindow := asNumber (optional item "context_window")
      defaultTemperature := none
      defaultMaxTokens := none }
  else none

def ollamaPage : Response ν → Except DiscoverError (Page ν)
  | .failed reason => .error (.request reason)
  | .notJson => .ok ([], false)
  | .body json => do
    let models ← typed (get (some json) "models")
    let items ← typed (iterate (coalesce models (some (.array []))))
    return (items.filterMap ollamaItem, false)

def readPage : AdapterKind → Response ν → Except DiscoverError (Page ν)
  | .anthropic => anthropicPage
  | .openAi => openAiPage
  | .google => googlePage
  | .ollama => ollamaPage

def maxPages : AdapterKind → ℕ
  | .anthropic | .google => 10
  | .openAi | .ollama => 0

/-- `discoverModels`, with the upstream's response to each request in turn. -/
def discoverModels (kind : AdapterKind) (upstream : ℕ → Response ν) :
    Except DiscoverError (List (DiscoveredModel ν)) :=
  collect (fun page => readPage kind (upstream page)) (maxPages kind) 0

inductive ModelSource where
  | discovered
  | manual
  deriving DecidableEq, Repr

structure ModelRow (ν : Type) where
  id : JsString
  providerId : JsString
  modelIdentifier : JsString
  displayName : JsString
  source : ModelSource
  contextWindow : Option ν
  defaultTemperature : Option ν
  defaultMaxTokens : Option ν
  enabled : Bool
  createdAt : JsString
  updatedAt : JsString
  deriving DecidableEq, Repr

def ModelRow.key (row : ModelRow ν) : JsString × JsString := (row.providerId, row.modelIdentifier)

/-- The `models` table with its two uniqueness constraints, in a database of UTF-8 texts. -/
structure ModelsTable (ν : Type) where
  rows : List (ModelRow ν)
  ids : (rows.map (·.id)).Nodup
  keys : (rows.map ModelRow.key).Nodup
  texts : ∀ row ∈ rows, wellFormed row.modelIdentifier = true

/-- `newId`, which gives an identifier that no row has. -/
structure IdSource where
  next : List JsString → JsString
  fresh : ∀ used, next used ∉ used

structure Refresh (ν : Type) where
  displayName : JsString
  contextWindow : Option ν
  defaultTemperature : Option ν
  defaultMaxTokens : Option ν
  enabled : Bool
  updatedAt : JsString

def Refresh.apply (values : Refresh ν) (row : ModelRow ν) : ModelRow ν :=
  { row with
    displayName := stored values.displayName
    contextWindow := values.contextWindow
    defaultTemperature := values.defaultTemperature
    defaultMaxTokens := values.defaultMaxTokens
    enabled := values.enabled
    updatedAt := values.updatedAt }

omit [JsNumber ν] in
theorem map_changed {β : Type} (rows : List (ModelRow ν)) (id : JsString)
    (change : ModelRow ν → ModelRow ν) (field : ModelRow ν → β)
    (same : ∀ row, field (change row) = field row) :
    (rows.map fun row => if row.id = id then change row else row).map field = rows.map field := by
  rw [List.map_map]
  refine List.map_congr_left fun row _ => ?_
  dsimp only [Function.comp_apply]
  split_ifs
  · exact same row
  · rfl

def updateRow (table : ModelsTable ν) (id : JsString) (change : ModelRow ν → ModelRow ν)
    (same : ∀ row, (change row).id = row.id ∧ (change row).key = row.key) : ModelsTable ν where
  rows := table.rows.map fun row => if row.id = id then change row else row
  ids := by
    rw [map_changed table.rows id change (·.id) fun row => (same row).1]
    exact table.ids
  keys := by
    rw [map_changed table.rows id change ModelRow.key fun row => (same row).2]
    exact table.keys
  texts := by
    intro row hrow
    obtain ⟨old, hold, rfl⟩ := List.mem_map.mp hrow
    split_ifs
    · rw [(Prod.mk.inj (same old).2).2]
      exact table.texts old hold
    · exact table.texts old hold

def refreshRow (table : ModelsTable ν) (id : JsString) (values : Refresh ν) : ModelsTable ν :=
  updateRow table id values.apply fun _ => ⟨rfl, rfl⟩

def disableRow (table : ModelsTable ν) (id now : JsString) : ModelsTable ν :=
  updateRow table id (fun row => { row with enabled := false, updatedAt := now })
    fun _ => ⟨rfl, rfl⟩

/-- The row that an INSERT with these values writes. -/
def ModelRow.written (row : ModelRow ν) : ModelRow ν :=
  { row with
    modelIdentifier := stored row.modelIdentifier
    displayName := stored row.displayName }

def insertRow (table : ModelsTable ν) (row : ModelRow ν) : Option (ModelsTable ν) :=
  if h : row.id ∉ table.rows.map (·.id) ∧ row.written.key ∉ table.rows.map ModelRow.key then
    some {
      rows := table.rows ++ [row.written]
      ids := by
        rw [List.map_append, List.nodup_append]
        refine ⟨table.ids, List.nodup_singleton _, ?_⟩
        rintro a ha b hb rfl
        obtain rfl := List.mem_singleton.mp hb
        exact h.1 ha
      keys := by
        rw [List.map_append, List.nodup_append]
        refine ⟨table.keys, List.nodup_singleton _, ?_⟩
        rintro a ha b hb rfl
        obtain rfl := List.mem_singleton.mp hb
        exact h.2 ha
      texts := by
        intro other hother
        rcases List.mem_append.mp hother with hother | hother
        · exact table.texts other hother
        · obtain rfl := List.mem_singleton.mp hother
          exact stored_wellFormed row.modelIdentifier }
  else none

structure UpstreamModel (ν : Type) where
  modelIdentifier : JsString
  displayName : JsString
  contextWindow : Option ν
  defaultTemperature : Option ν
  defaultMaxTokens : Option ν

def checkItem (providerId : JsString) (item : DiscoveredModel ν) :
    Except DiscoverError (UpstreamModel ν) :=
  match asString item.modelIdentifier, asString item.displayName with
  | some modelIdentifier, some displayName =>
    if trim modelIdentifier = [] ∨ trim displayName = [] then .error (malformed providerId)
    else .ok {
      modelIdentifier := modelIdentifier
      displayName := displayName
      contextWindow := item.contextWindow
      defaultTemperature := item.defaultTemperature
      defaultMaxTokens := item.defaultMaxTokens }
  | _, _ => .error (malformed providerId)
where
  malformed (providerId : JsString) : DiscoverError :=
    .malformedItem (js "Provider '" ++ providerId ++ js "' returned malformed model discovery item")

/-- The first occurrence of each identifier. -/
def deduplicate : List JsString → List (UpstreamModel ν) → List (UpstreamModel ν)
  | _, [] => []
  | seen, item :: rest =>
    if item.modelIdentifier ∈ seen then deduplicate seen rest
    else item :: deduplicate (item.modelIdentifier :: seen) rest

structure Counts where
  added : ℕ
  updated : ℕ
  unchanged : ℕ
  disabled : ℕ
  deriving DecidableEq, Repr

abbrev Progress (ν : Type) := ModelsTable ν × Counts

def refreshed (item : UpstreamModel ν) (now : JsString) : Refresh ν where
  displayName := item.displayName
  contextWindow := item.contextWindow
  defaultTemperature := item.defaultTemperature
  defaultMaxTokens := item.defaultMaxTokens
  enabled := true
  updatedAt := now

def newRow (ids : IdSource) (now providerId : JsString) (item : UpstreamModel ν)
    (table : ModelsTable ν) : ModelRow ν where
  id := ids.next (table.rows.map (·.id))
  providerId := providerId
  modelIdentifier := item.modelIdentifier
  displayName := item.displayName
  source := .discovered
  contextWindow := item.contextWindow
  defaultTemperature := item.defaultTemperature
  defaultMaxTokens := item.defaultMaxTokens
  enabled := true
  createdAt := now
  updatedAt := now

def hasChanged [DecidableEq ν] (existing : ModelRow ν) (item : UpstreamModel ν) : Bool :=
  existing.displayName ≠ item.displayName ∨ existing.contextWindow ≠ item.contextWindow ∨
    existing.defaultTemperature ≠ item.defaultTemperature ∨
    existing.defaultMaxTokens ≠ item.defaultMaxTokens ∨ existing.enabled ≠ true

/-- One item of the first loop; `existing` is the row read before it. -/
def reconcileItem [DecidableEq ν] (ids : IdSource) (now providerId : JsString)
    (existingRows : List (ModelRow ν)) (progress : Progress ν) (item : UpstreamModel ν) :
    Option (Progress ν) :=
  let (table, counts) := progress
  match existingRows.find? fun row => row.modelIdentifier = item.modelIdentifier with
  | none =>
    (insertRow table (newRow ids now providerId item table)).map fun table =>
      (table, { counts with added := counts.added + 1 })
  | some existing =>
    match existing.source with
    | .manual => some (table, { counts with unchanged := counts.unchanged + 1 })
    | .discovered =>
      if hasChanged existing item then
        some (refreshRow table existing.id (refreshed item now),
          { counts with updated := counts.updated + 1 })
      else some (table, { counts with unchanged := counts.unchanged + 1 })

def retire (now : JsString) (seen : List JsString) (progress : Progress ν)
    (existing : ModelRow ν) : Progress ν :=
  let (table, counts) := progress
  if existing.modelIdentifier ∈ seen then (table, counts)
  else match existing.source with
    | .manual => (table, { counts with unchanged := counts.unchanged + 1 })
    | .discovered =>
      if existing.enabled then
        (disableRow table existing.id now, { counts with disabled := counts.disabled + 1 })
      else (table, { counts with unchanged := counts.unchanged + 1 })

/-- The transaction; a constraint violation rolls it back. -/
def reconcile [DecidableEq ν] (ids : IdSource) (now providerId : JsString) (table : ModelsTable ν)
    (upstream : List (UpstreamModel ν)) : Option (Progress ν) := do
  let existingRows := table.rows.filter fun row => row.providerId = providerId
  let items := deduplicate [] upstream
  let progress ← items.foldlM (reconcileItem ids now providerId existingRows) (table, ⟨0, 0, 0, 0⟩)
  return existingRows.foldl (retire now (items.map (·.modelIdentifier))) progress

/-- `discover` for a provider whose adapter is of this kind; `setup` is what precedes the first
request. The table is the one the call leaves behind. -/
def discover [DecidableEq ν] (ids : IdSource) (now providerId : JsString) (kind : AdapterKind)
    (setup : Except DiscoverError Unit) (upstream : ℕ → Response ν) (table : ModelsTable ν) :
    Except DiscoverError Counts × ModelsTable ν :=
  match setup with
  | .error e => (.error e, table)
  | .ok () =>
    match discoverModels kind upstream with
    | .error e => (.error e, table)
    | .ok raw =>
      match raw.mapM (checkItem providerId) with
      | .error e => (.error e, table)
      | .ok items =>
        match reconcile ids now providerId table items with
        | none => (.error .constraint, table)
        | some (table, counts) => (.ok counts, table)

end Glassbeetle.ModelDiscovery
