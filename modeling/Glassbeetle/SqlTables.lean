import Mathlib.Logic.Function.Basic
import Mathlib.Data.List.Perm.Basic

set_option autoImplicit false

/-!
# Tables, their definitions and the statements that change them

A row is a function from columns to cells, `none` where the cell is `NULL`. The statements follow
SQLite: a table that exists already, a column that is there twice and a table that is not there are
errors, and a statement that fails changes nothing.
-/
namespace Glassbeetle.SqlTables

inductive Affinity where
  | text
  | integer
  | real
  | blob
  deriving DecidableEq, Repr

inductive OnDelete where
  | cascade
  | setNull
  deriving DecidableEq, Repr

structure Reference (τ : Type) where
  table : τ
  onDelete : OnDelete
  deriving DecidableEq

structure Column (τ κ ν : Type) where
  name : κ
  affinity : Affinity
  notNull : Bool := false
  default : Option ν := none
  references : Option (Reference τ) := none
  deriving DecidableEq

/-- `CHECK` passes where it is not false, so on `NULL` too. -/
inductive Check (κ ν : Type) where
  | among (column : κ) (values : List ν)
  | eitherOr (first second : κ)
  deriving DecidableEq

/-- A `PRIMARY KEY` is one of the lists of columns that are `UNIQUE` together. -/
structure Definition (τ κ ν : Type) where
  columns : List (Column τ κ ν)
  unique : List (List κ)
  checks : List (Check κ ν) := []
  deriving DecidableEq

abbrev Row (κ ν : Type) := κ → Option ν

structure Table (τ κ ν : Type) where
  definition : Definition τ κ ν
  rows : List (Row κ ν)

structure Index (τ κ : Type) where
  table : τ
  columns : List κ
  deriving DecidableEq

structure Catalogue (τ κ ν : Type) where
  tables : τ → Option (Table τ κ ν)
  indexes : List (Index τ κ)

inductive SqlError where
  | tableExists
  | indexExists
  | duplicateColumn
  | noSuchTable
  | noSuchColumn
  | notNullDefault
  | constraint
  | environment
  deriving DecidableEq, Repr

variable {τ κ ν : Type}

section Rows

variable [DecidableEq κ] [DecidableEq ν]

def Check.holds (row : Row κ ν) : Check κ ν → Bool
  | .among column values => (row column).all (· ∈ values)
  | .eitherOr first second => (row first).isSome != (row second).isSome

def Check.columns : Check κ ν → List κ
  | .among column _ => [column]
  | .eitherOr first second => [first, second]

def Definition.names (definition : Definition τ κ ν) : List κ := definition.columns.map Column.name

def Definition.admits (definition : Definition τ κ ν) (row : Row κ ν) : Bool :=
  definition.columns.all (fun column => !column.notNull || (row column.name).isSome) &&
    definition.checks.all (Check.holds row)

/-- Two rows that agree on columns that are unique together, `NULL` being unlike itself. -/
def clash (columns : List κ) (row other : Row κ ν) : Bool :=
  columns.all fun column => (row column).isSome && row column == other column

def Definition.distinct (definition : Definition τ κ ν) (row other : Row κ ν) : Bool :=
  definition.unique.all fun columns => !clash columns row other

end Rows

inductive Statement (τ κ ν : Type) where
  | pragma
  | createTable (ifNotExists : Bool) (table : τ) (definition : Definition τ κ ν)
  | addColumn (table : τ) (column : Column τ κ ν)
  | createIndex (index : Index τ κ)
  | insert (table : τ) (row : Row κ ν)

section Statements

variable [DecidableEq τ]

def Catalogue.setTable (catalogue : Catalogue τ κ ν) (name : τ) (table : Table τ κ ν) :
    Catalogue τ κ ν :=
  { catalogue with tables := Function.update catalogue.tables name (some table) }

@[simp] theorem setTable_self (catalogue : Catalogue τ κ ν) (name : τ) (table : Table τ κ ν) :
    (catalogue.setTable name table).tables name = some table := by
  simp [Catalogue.setTable]

theorem setTable_of_ne (catalogue : Catalogue τ κ ν) (name other : τ) (table : Table τ κ ν)
    (h : other ≠ name) : (catalogue.setTable name table).tables other = catalogue.tables other := by
  simp [Catalogue.setTable, h]

variable [DecidableEq κ]

def Table.addColumn (table : Table τ κ ν) (column : Column τ κ ν) : Table τ κ ν where
  definition := { table.definition with columns := table.definition.columns ++ [column] }
  rows := table.rows.map fun row => Function.update row column.name column.default

def execute [DecidableEq ν] (statement : Statement τ κ ν) (catalogue : Catalogue τ κ ν) :
    Except SqlError (Catalogue τ κ ν) :=
  match statement with
  | .pragma => .ok catalogue
  | .createTable ifNotExists name definition =>
    match catalogue.tables name with
    | none => .ok (catalogue.setTable name ⟨definition, []⟩)
    | some _ => if ifNotExists then .ok catalogue else .error .tableExists
  | .addColumn name column =>
    match catalogue.tables name with
    | none => .error .noSuchTable
    | some table =>
      if column.name ∈ table.definition.names then .error .duplicateColumn
      else if column.notNull && column.default.isNone && !table.rows.isEmpty then
        .error .notNullDefault
      else .ok (catalogue.setTable name (table.addColumn column))
  | .createIndex index =>
    match catalogue.tables index.table with
    | none => .error .noSuchTable
    | some table =>
      if index ∈ catalogue.indexes then .error .indexExists
      else if index.columns.all (· ∈ table.definition.names) then
        .ok { catalogue with indexes := catalogue.indexes ++ [index] }
      else .error .noSuchColumn
  | .insert name row =>
    match catalogue.tables name with
    | none => .error .noSuchTable
    | some table =>
      if table.definition.admits row && table.rows.all (table.definition.distinct row) then
        .ok (catalogue.setTable name { table with rows := table.rows ++ [row] })
      else .error .constraint

end Statements

/-! ### What the rows keep -/

section Kept

variable [DecidableEq κ]

def fill (added : List (Column τ κ ν)) (row : Row κ ν) : Row κ ν :=
  added.foldl (fun row column => Function.update row column.name column.default) row

theorem fill_append (first second : List (Column τ κ ν)) (row : Row κ ν) :
    fill (first ++ second) row = fill second (fill first row) := by
  simp [fill, List.foldl_append]

def Table.Extends (table after : Table τ κ ν) : Prop :=
  ∃ added : List (Column τ κ ν),
    after.definition = { table.definition with columns := table.definition.columns ++ added } ∧
      after.rows = table.rows.map (fill added)

theorem extends_refl (table : Table τ κ ν) : table.Extends table := by
  refine ⟨[], by simp, ?_⟩
  change table.rows = table.rows.map fun row => row
  simp

theorem extends_trans (first second third : Table τ κ ν) (h : first.Extends second)
    (h' : second.Extends third) : first.Extends third := by
  obtain ⟨added, hdefinition, hrows⟩ := h
  obtain ⟨more, hdefinition', hrows'⟩ := h'
  refine ⟨added ++ more, ?_, ?_⟩
  · rw [hdefinition', hdefinition]
    simp
  · rw [hrows', hrows, List.map_map]
    apply List.map_congr_left
    intro row _
    exact (fill_append added more row).symm

theorem extends_addColumn (table : Table τ κ ν) (column : Column τ κ ν) :
    table.Extends (table.addColumn column) :=
  ⟨[column], rfl, rfl⟩

def Catalogue.Keeps (catalogue after : Catalogue τ κ ν) : Prop :=
  ∀ name table, catalogue.tables name = some table →
    ∃ later, after.tables name = some later ∧ table.Extends later

theorem keeps_refl (catalogue : Catalogue τ κ ν) : catalogue.Keeps catalogue :=
  fun _ table h => ⟨table, h, extends_refl table⟩

theorem keeps_trans (first second third : Catalogue τ κ ν) (h : first.Keeps second)
    (h' : second.Keeps third) : first.Keeps third := by
  intro name table htable
  obtain ⟨later, hlater, hextends⟩ := h name table htable
  obtain ⟨last, hlast, hmore⟩ := h' name later hlater
  exact ⟨last, hlast, extends_trans table later last hextends hmore⟩

variable [DecidableEq τ]

theorem keeps_setTable (catalogue : Catalogue τ κ ν) (name : τ) (after : Table τ κ ν)
    (h : ∀ table, catalogue.tables name = some table → table.Extends after) :
    catalogue.Keeps (catalogue.setTable name after) := by
  intro other table htable
  by_cases hname : other = name
  · subst hname
    exact ⟨after, setTable_self catalogue other after, h table htable⟩
  · exact ⟨table, (setTable_of_ne catalogue name other after hname).trans htable,
      extends_refl table⟩

end Kept

end Glassbeetle.SqlTables
