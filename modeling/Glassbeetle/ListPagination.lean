import Mathlib.Data.Prod.Lex
import Mathlib.Data.Rat.Defs
import Mathlib.Algebra.Order.Ring.Unbundled.Rat
import Glassbeetle.ContextConstruction
import Glassbeetle.ExecutionChain
import Glassbeetle.SortedPages
import Glassbeetle.Utf8Text

set_option autoImplicit false

namespace Glassbeetle.ListPagination
open JsText ContextConstruction ExecutionChain SortedPages

/-- A stored value. SQLite sorts nothing before numbers and numbers before texts, and texts by
their bytes. -/
inductive SqlValue where
  | null
  | number (value : ℚ)
  | text (bytes : List ℕ)
  deriving DecidableEq

def SqlValue.rank : SqlValue → ℕ ×ₗ ℚ ×ₗ List ℕ
  | .null => toLex (0, toLex (0, []))
  | .number value => toLex (1, toLex (value, []))
  | .text bytes => toLex (2, toLex (0, bytes))

def sqlText (s : JsString) : SqlValue := .text ((Utf8Text.utf8 s).map (·.toNat))

theorem rank_injective : Function.Injective SqlValue.rank := by
  intro a b h
  cases a <;> cases b <;> cases h <;> rfl

instance : LinearOrder SqlValue := LinearOrder.lift' SqlValue.rank rank_injective

inductive SortOrder where
  | asc
  | desc
  deriving DecidableEq

structure PaginationQueryDto where
  limit : Option ℤ
  offset : Option ℤ
  sort : Option JsString
  order : Option SortOrder

/-- The limit as it is clamped. -/
def PaginationQueryDto.pageSize (query : PaginationQueryDto) : ℤ :=
  min (max 1 (query.limit.getD 50)) 100

structure SqlPaginationOptions where
  query : PaginationQueryDto
  /-- The keys of clients and the columns they stand for. -/
  allowedSortColumns : List (JsString × JsString)
  defaultSortKey : JsString
  defaultOrder : SortOrder := .desc
  tiebreakerColumn : Option JsString := some (js "id")

structure SqlPaginationResult where
  /-- The columns of `ORDER BY`, which all go the same way. -/
  columns : List JsString
  order : SortOrder
  limit : ℤ
  offset : ℤ

def SortOrder.upper : SortOrder → JsString
  | .asc => js "ASC"
  | .desc => js "DESC"

def SqlPaginationResult.orderBySql (r : SqlPaginationResult) : JsString :=
  js "ORDER BY " ++ join (js ", ") (r.columns.map fun column => column ++ js " " ++ r.order.upper)

def limitOffsetSql : JsString := js "LIMIT ? OFFSET ?"

def SqlPaginationResult.clauseSql (r : SqlPaginationResult) : JsString :=
  r.orderBySql ++ js " " ++ limitOffsetSql

/-- The column of a key of the object, if the key is its own. -/
def columnOf (allowed : List (JsString × JsString)) (key : JsString) : Option JsString :=
  (allowed.find? (·.1 = key)).map (·.2)

def invalidSort (allowed : List (JsString × JsString)) (requestedSort : JsString) : Failure :=
  .http 400 (js "BAD_REQUEST") (js "Invalid sort field \"" ++ requestedSort ++
    js "\". Allowed sort fields: " ++ join (js ", ") (allowed.map (·.1)))

def missingDefault (defaultSortKey : JsString) : Failure :=
  .thrown (js "Error") (js "Default sort key \"" ++ defaultSortKey ++
    js "\" is not in allowedSortColumns mapping")

def required (column : Option JsString) (failure : Failure) : Except Failure JsString :=
  match column with
  | some column => .ok column
  | none => .error failure

def sortColumn (options : SqlPaginationOptions) : Except Failure JsString :=
  match truthy (options.query.sort.map trim) with
  | some requestedSort =>
    required (columnOf options.allowedSortColumns requestedSort)
      (invalidSort options.allowedSortColumns requestedSort)
  | none =>
    required (columnOf options.allowedSortColumns options.defaultSortKey)
      (missingDefault options.defaultSortKey)

/-- The tiebreaker, unless the rows are sorted by it already. -/
def tiebreakers (tiebreakerColumn : Option JsString) (sortColumn : JsString) : List JsString :=
  match truthy tiebreakerColumn with
  | some tiebreaker => if sortColumn ≠ tiebreaker then [tiebreaker] else []
  | none => []

def buildPaginationSqlFragment (options : SqlPaginationOptions) :
    Except Failure SqlPaginationResult :=
  match sortColumn options with
  | .error failure => .error failure
  | .ok column => .ok {
      columns := column :: tiebreakers options.tiebreakerColumn column
      order := options.query.order.getD options.defaultOrder
      limit := options.query.pageSize
      offset := max 0 (options.query.offset.getD 0) }

structure PaginatedResponse (α : Type) where
  items : List α
  total : ℕ
  limit : Option ℤ
  offset : Option ℤ

section Select
variable {α : Type} (column : JsString → α → SqlValue)

def SqlPaginationResult.terms (r : SqlPaginationResult) : List (Term α SqlValue) :=
  r.columns.map fun name => ⟨column name, decide (r.order = .desc)⟩

/-- The rows that a `SELECT` with this clause gives for the matching ones. -/
def SqlPaginationResult.select (r : SqlPaginationResult) (sorter : Sorter α SqlValue)
    (rows : List α) : List α :=
  slice (sorter.arrange (r.terms column) rows) r.limit.toNat r.offset.toNat

end Select

/-- A list endpoint: the keys it sorts by, and the columns that tell its rows apart. -/
structure Collection where
  allowedSortColumns : List (JsString × JsString)
  defaultSortKey : JsString := js "createdAt"
  defaultOrder : SortOrder := .desc
  tiebreakerColumn : JsString := js "id"
  primaryKey : List JsString := [tiebreakerColumn]
  /-- The columns whose values the path of a request gives. -/
  scope : List JsString := []
  default_allowed : (columnOf allowedSortColumns defaultSortKey).isSome = true := by decide
  keyed : ∀ name ∈ primaryKey, name ∈ scope ∨ name = tiebreakerColumn := by decide
  tiebreaker_filled : tiebreakerColumn ≠ [] := by decide

abbrev Row := JsString → SqlValue

namespace Collection
variable (c : Collection)

def options (query : PaginationQueryDto) : SqlPaginationOptions where
  query := query
  allowedSortColumns := c.allowedSortColumns
  defaultSortKey := c.defaultSortKey
  defaultOrder := c.defaultOrder
  tiebreakerColumn := some c.tiebreakerColumn

/-- The rows that the `WHERE` clause admits. -/
def matching (fixed : JsString → SqlValue) (filter : Row → Bool) (table : List Row) : List Row :=
  table.filter fun row => c.scope.all (fun name => decide (row name = fixed name)) && filter row

def rows (sorter : Sorter Row SqlValue) (fixed : JsString → SqlValue) (filter : Row → Bool)
    (table : List Row) (query : PaginationQueryDto) : Except Failure (List Row) :=
  match buildPaginationSqlFragment (c.options query) with
  | .error failure => .error failure
  | .ok r => .ok (r.select (fun name row => row name) sorter (c.matching fixed filter table))

/-- No two rows share the primary key. -/
def Keyed (table : List Row) : Prop := (table.map fun row => c.primaryKey.map row).Nodup

/-- A sort key that a request may give. -/
def Allows (sort : Option JsString) : Prop :=
  ∀ requestedSort, truthy (sort.map trim) = some requestedSort →
    (columnOf c.allowedSortColumns requestedSort).isSome = true

end Collection

def teamMembers : Collection where
  allowedSortColumns := [(js "position", js "position")]
  defaultSortKey := js "position"
  defaultOrder := .asc
  tiebreakerColumn := js "agent_id"
  primaryKey := [js "team_id", js "agent_id"]
  scope := [js "team_id"]

def teams : Collection where
  allowedSortColumns := [(js "createdAt", js "t.created_at"), (js "updatedAt", js "t.updated_at"),
    (js "name", js "t.name"), (js "id", js "t.id")]
  tiebreakerColumn := js "t.id"

def projects : Collection where
  allowedSortColumns := [(js "createdAt", js "p.created_at"), (js "created_at", js "p.created_at"),
    (js "updatedAt", js "p.updated_at"), (js "updated_at", js "p.updated_at"),
    (js "name", js "p.name"), (js "id", js "p.id")]
  tiebreakerColumn := js "p.id"

def agents : Collection where
  allowedSortColumns := [(js "createdAt", js "created_at"), (js "name", js "name"),
    (js "id", js "id"), (js "updatedAt", js "updated_at")]

def providers : Collection where
  allowedSortColumns := [(js "id", js "id"), (js "name", js "name"), (js "kind", js "kind"),
    (js "createdAt", js "created_at"), (js "updatedAt", js "updated_at")]

/-- The columns of a model, as a list of one provider's models and the list of all name them. -/
def modelColumns (qualifier : JsString) : List (JsString × JsString) :=
  [(js "id", qualifier ++ js "id"), (js "providerId", qualifier ++ js "provider_id"),
    (js "modelIdentifier", qualifier ++ js "model_identifier"),
    (js "displayName", qualifier ++ js "display_name"), (js "source", qualifier ++ js "source"),
    (js "contextWindow", qualifier ++ js "context_window"),
    (js "defaultTemperature", qualifier ++ js "default_temperature"),
    (js "defaultMaxTokens", qualifier ++ js "default_max_tokens"),
    (js "enabled", qualifier ++ js "enabled"), (js "createdAt", qualifier ++ js "created_at"),
    (js "updatedAt", qualifier ++ js "updated_at")]

def providerModels : Collection where
  allowedSortColumns := modelColumns []
  scope := [js "provider_id"]

def models : Collection where
  allowedSortColumns := modelColumns (js "models.")
  tiebreakerColumn := js "models.id"

def chats : Collection where
  allowedSortColumns := [(js "createdAt", js "created_at"), (js "updatedAt", js "updated_at"),
    (js "title", js "title"), (js "id", js "id")]

def systemPrompts : Collection where
  allowedSortColumns := [(js "createdAt", js "created_at"), (js "created_at", js "created_at"),
    (js "updatedAt", js "updated_at"), (js "updated_at", js "updated_at"),
    (js "name", js "name"), (js "id", js "id")]

def artifacts : Collection where
  allowedSortColumns := [(js "createdAt", js "a.created_at"), (js "created_at", js "a.created_at"),
    (js "updatedAt", js "a.updated_at"), (js "updated_at", js "a.updated_at"),
    (js "title", js "a.title"), (js "type", js "a.type"), (js "version", js "a.version"),
    (js "id", js "a.id")]
  tiebreakerColumn := js "a.id"

def memoryColumns : List (JsString × JsString) :=
  [(js "createdAt", js "created_at"), (js "created_at", js "created_at"),
    (js "updatedAt", js "updated_at"), (js "updated_at", js "updated_at"),
    (js "id", js "id"), (js "content", js "content")]

def sharedMemories : Collection where
  allowedSortColumns := memoryColumns

def agentMemories : Collection where
  allowedSortColumns := memoryColumns
  scope := [js "agent_memories.agent_id"]

theorem tiebreaker_sorts (tiebreaker column : JsString) (h : tiebreaker ≠ []) :
    tiebreaker ∈ column :: tiebreakers (some tiebreaker) column := by
  have htruthy : truthy (some tiebreaker) = some tiebreaker := by
    rw [truthy, Option.filter_some, if_pos (decide_eq_true h)]
  rw [tiebreakers, htruthy]
  by_cases hsame : column = tiebreaker
  · rw [hsame]
    exact List.mem_cons_self
  · dsimp only
    rw [if_pos hsame]
    exact List.mem_cons_of_mem _ (List.mem_singleton_self _)

theorem columns_tiebreaker (c : Collection) (query : PaginationQueryDto) (r : SqlPaginationResult)
    (h : buildPaginationSqlFragment (c.options query) = .ok r) : c.tiebreakerColumn ∈ r.columns := by
  unfold buildPaginationSqlFragment at h
  cases hcolumn : sortColumn (c.options query) with
  | error failure =>
    rw [hcolumn] at h
    cases h
  | ok column =>
    rw [hcolumn] at h
    cases h
    exact tiebreaker_sorts _ column c.tiebreaker_filled

theorem required_ok (column : Option JsString) (failure : Failure) (h : column.isSome = true) :
    ∃ name, required column failure = .ok name := by
  obtain ⟨name, rfl⟩ := Option.isSome_iff_exists.mp h
  exact ⟨name, rfl⟩

theorem sortColumn_allowed (c : Collection) (query : PaginationQueryDto) (h : c.Allows query.sort) :
    ∃ column, sortColumn (c.options query) = .ok column := by
  unfold sortColumn
  cases hsort : truthy ((c.options query).query.sort.map trim) with
  | none => exact required_ok _ _ c.default_allowed
  | some requestedSort => exact required_ok _ _ (h requestedSort hsort)

theorem pageSize_pos (query : PaginationQueryDto) : 0 < query.pageSize := by
  unfold PaginationQueryDto.pageSize
  omega

namespace Collection
variable (c : Collection)

theorem matching_unique (fixed : JsString → SqlValue) (filter : Row → Bool) (table : List Row)
    (hkeyed : c.Keyed table) (x y : Row) (hx : x ∈ c.matching fixed filter table)
    (hy : y ∈ c.matching fixed filter table) (hsame : x c.tiebreakerColumn = y c.tiebreakerColumn) :
    x = y := by
  obtain ⟨hx, hxfixed⟩ := List.mem_filter.mp hx
  obtain ⟨hy, hyfixed⟩ := List.mem_filter.mp hy
  have hscope : ∀ name ∈ c.scope, x name = y name := by
    intro name hname
    have hxname := List.all_eq_true.mp (Bool.and_eq_true_iff.mp hxfixed).1 name hname
    have hyname := List.all_eq_true.mp (Bool.and_eq_true_iff.mp hyfixed).1 name hname
    exact (of_decide_eq_true hxname).trans (of_decide_eq_true hyname).symm
  apply List.inj_on_of_nodup_map hkeyed hx hy
  apply List.map_congr_left
  intro name hname
  rcases c.keyed name hname with h | h
  · exact hscope name h
  · rw [h]
    exact hsame

theorem arranged_same (r : SqlPaginationResult)
    (hr : c.tiebreakerColumn ∈ r.columns) (fixed : JsString → SqlValue) (filter : Row → Bool)
    (table : List Row) (hkeyed : c.Keyed table) (sorter : Sorter Row SqlValue) :
    sorter.arrange (r.terms fun name row => row name) (c.matching fixed filter table) =
      stable.arrange (r.terms fun name row => row name) (c.matching fixed filter table) := by
  apply arrange_eq sorter _ _ _ (stable.perm _ _) (stable.sorted _ _)
  refine ⟨_, List.mem_map_of_mem hr, ?_⟩
  intro x hx y hy hsame
  exact c.matching_unique fixed filter table hkeyed x y hx hy hsame

def fragment (query : PaginationQueryDto) (column : JsString) (offset : ℤ) :
    SqlPaginationResult where
  columns := column :: tiebreakers (some c.tiebreakerColumn) column
  order := query.order.getD c.defaultOrder
  limit := query.pageSize
  offset := max 0 offset

theorem buildPaginationSqlFragment_ok (query : PaginationQueryDto) (column : JsString) (offset : ℤ)
    (h : sortColumn (c.options query) = .ok column) :
    buildPaginationSqlFragment (c.options { query with offset := some offset }) =
      .ok (c.fragment query column offset) := by
  have hcolumn : sortColumn (c.options { query with offset := some offset }) = .ok column := h
  unfold buildPaginationSqlFragment
  rw [hcolumn]
  rfl

theorem rows_slice (table : List Row) (hkeyed : c.Keyed table) (fixed : JsString → SqlValue)
    (filter : Row → Bool) (query : PaginationQueryDto) (hsort : c.Allows query.sort) :
    ∃ listing : List Row, listing.Perm (c.matching fixed filter table) ∧
      ∀ (sorter : Sorter Row SqlValue) (k : ℕ),
        c.rows sorter fixed filter table { query with offset := some (k * query.pageSize) } =
          .ok (slice listing query.pageSize.toNat (k * query.pageSize.toNat)) := by
  obtain ⟨column, hcolumn⟩ := sortColumn_allowed c query hsort
  refine ⟨_, stable.perm ((c.fragment query column 0).terms fun name row => row name) _, ?_⟩
  intro sorter k
  have hoffset : (max 0 ((k : ℤ) * query.pageSize)).toNat = k * query.pageSize.toNat := by
    have hpos := pageSize_pos query
    obtain ⟨size, hsize⟩ := Int.eq_ofNat_of_zero_le hpos.le
    rw [hsize, ← Int.natCast_mul, Int.toNat_natCast]
    omega
  have harranged := c.arranged_same (c.fragment query column (k * query.pageSize))
    (tiebreaker_sorts _ column c.tiebreaker_filled) fixed filter table hkeyed sorter
  unfold rows
  rw [c.buildPaginationSqlFragment_ok query column _ hcolumn]
  dsimp only
  rw [SqlPaginationResult.select, harranged]
  change Except.ok (slice _ _ (max 0 ((k : ℤ) * query.pageSize)).toNat) = _
  rw [hoffset]
  rfl

/-- The pages of a list have no row in common, and every row is on one of them. -/
theorem pages_partition (table : List Row) (hkeyed : c.Keyed table) (fixed : JsString → SqlValue)
    (filter : Row → Bool) (query : PaginationQueryDto) (hsort : c.Allows query.sort)
    (sorter : ℕ → Sorter Row SqlValue) :
    ∃ pages : ℕ → List Row,
      (∀ k, c.rows (sorter k) fixed filter table
        { query with offset := some (k * query.pageSize) } = .ok (pages k)) ∧
      (∀ k, (pages k).Nodup) ∧
      (∀ j k, j ≠ k → ∀ row ∈ pages j, row ∉ pages k) ∧
      ∀ row, row ∈ c.matching fixed filter table ↔ ∃ k, row ∈ pages k := by
  obtain ⟨listing, hperm, hpages⟩ := c.rows_slice table hkeyed fixed filter query hsort
  have hsize : 0 < query.pageSize.toNat := by
    have hpos := pageSize_pos query
    omega
  have hnodup : listing.Nodup :=
    hperm.nodup_iff.mpr ((List.Nodup.of_map _ hkeyed).filter _)
  refine ⟨_, fun k => hpages (sorter k) k, fun k => ?_, ?_, fun row => ?_⟩
  · exact hnodup.sublist ((List.take_sublist _ _).trans (List.drop_sublist _ _))
  · intro j k hne row hj
    exact slices_disjoint listing hnodup _ j k hne row hj
  · rw [← hperm.mem_iff]
    constructor
    · exact slices_cover listing _ hsize row
    · rintro ⟨k, hk⟩
      exact List.mem_of_mem_drop (List.mem_of_mem_take hk)

end Collection

end Glassbeetle.ListPagination
