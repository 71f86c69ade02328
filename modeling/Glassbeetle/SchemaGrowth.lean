import Glassbeetle.SqlTables
import Mathlib.Data.List.Dedup

set_option autoImplicit false

/-!
# Growing into a schema

Statements that add tables and columns, on a catalogue that holds some of a schema's tables and some
of their columns, until it holds them all.
-/
namespace Glassbeetle.SchemaGrowth
open SqlTables

variable {τ κ ν : Type}

structure Same (definition other : Definition τ κ ν) : Prop where
  columns : definition.columns.Perm other.columns
  unique : definition.unique = other.unique
  checks : definition.checks = other.checks

structure Part (definition whole : Definition τ κ ν) : Prop where
  names : definition.names.Nodup
  columns : definition.columns ⊆ whole.columns
  unique : definition.unique = whole.unique
  checks : definition.checks = whole.checks

theorem same_part (definition whole : Definition τ κ ν) (h : Same definition whole)
    (hwhole : whole.names.Nodup) : Part definition whole where
  names := (h.columns.map Column.name).nodup_iff.mpr hwhole
  columns := h.columns.subset
  unique := h.unique
  checks := h.checks

theorem part_same (definition whole : Definition τ κ ν) (h : Part definition whole)
    (hwhole : whole.names.Nodup) (hall : whole.columns ⊆ definition.columns) :
    Same definition whole where
  columns := by
    apply (List.perm_ext_iff_of_nodup (List.Nodup.of_map _ h.names)
      (List.Nodup.of_map _ hwhole)).mpr
    intro column
    exact ⟨fun hmem => h.columns hmem, fun hmem => hall hmem⟩
  unique := h.unique
  checks := h.checks

theorem column_eq (columns : List (Column τ κ ν)) (h : (columns.map Column.name).Nodup)
    (first second : Column τ κ ν) (hfirst : first ∈ columns) (hsecond : second ∈ columns)
    (hname : first.name = second.name) : first = second :=
  List.inj_on_of_nodup_map h hfirst hsecond hname

section Added

variable [DecidableEq κ]

theorem part_addColumn (table : Table τ κ ν) (whole : Definition τ κ ν) (column : Column τ κ ν)
    (h : Part table.definition whole) (hmem : column ∈ whole.columns)
    (hnew : column.name ∉ table.definition.names) :
    Part (table.addColumn column).definition whole where
  names := by
    have hperm : (table.addColumn column).definition.names.Perm
        (column.name :: table.definition.names) := by
      simp [Table.addColumn, Definition.names, List.perm_append_singleton]
    exact hperm.nodup_iff.mpr (List.nodup_cons.mpr ⟨hnew, h.names⟩)
  columns := by
    intro other hother
    rcases List.mem_append.mp hother with hold | hlast
    · exact h.columns hold
    · rw [List.mem_singleton.mp hlast]
      exact hmem
  unique := h.unique
  checks := h.checks

end Added

variable (schema : τ → Definition τ κ ν)

def Grows : Statement τ κ ν → Prop
  | .createTable true name definition => Same definition (schema name)
  | .addColumn name column =>
    column ∈ (schema name).columns ∧ (column.notNull = true → column.default.isSome = true)
  | _ => False

structure Within (missing : List (Statement τ κ ν)) (catalogue : Catalogue τ κ ν) : Prop where
  table : ∀ name table, catalogue.tables name = some table → Part table.definition (schema name)
  absent : ∀ name, catalogue.tables name = none →
    ∃ definition, .createTable true name definition ∈ missing
  column : ∀ name table, catalogue.tables name = some table → ∀ column ∈ (schema name).columns,
    column ∉ table.definition.columns → .addColumn name column ∈ missing

theorem within_mono (missing more : List (Statement τ κ ν)) (catalogue : Catalogue τ κ ν)
    (h : Within schema missing catalogue) (hsub : missing ⊆ more) :
    Within schema more catalogue where
  table := h.table
  absent := by
    intro name hname
    obtain ⟨definition, hmem⟩ := h.absent name hname
    exact ⟨definition, hsub hmem⟩
  column := fun name table htable column hcolumn hlacks =>
    hsub (h.column name table htable column hcolumn hlacks)

theorem within_same (hschema : ∀ name, (schema name).names.Nodup) (catalogue : Catalogue τ κ ν)
    (h : Within schema [] catalogue) (name : τ) :
    ∃ table, catalogue.tables name = some table ∧ Same table.definition (schema name) := by
  cases htable : catalogue.tables name with
  | none =>
    obtain ⟨definition, hmem⟩ := h.absent name htable
    simp at hmem
  | some table =>
    refine ⟨table, rfl, part_same _ _ (h.table name table htable) (hschema name) ?_⟩
    intro column hcolumn
    by_contra hlacks
    simpa using h.column name table htable column hcolumn hlacks

section Steps

variable (missing : List (Statement τ κ ν)) (catalogue : Catalogue τ κ ν)

/-- A table that is there has no statement to create it among what it needs. -/
theorem within_present (name : τ) (definition : Definition τ κ ν) (table : Table τ κ ν)
    (h : Within schema (.createTable true name definition :: missing) catalogue)
    (htable : catalogue.tables name = some table) : Within schema missing catalogue where
  table := h.table
  absent := by
    intro other hother
    obtain ⟨created, hmem⟩ := h.absent other hother
    rcases List.mem_cons.mp hmem with hsame | hrest
    · cases hsame
      simp [htable] at hother
    · exact ⟨created, hrest⟩
  column := by
    intro other there hthere column hcolumn hlacks
    rcases List.mem_cons.mp (h.column other there hthere column hcolumn hlacks) with hsame | hrest
    · cases hsame
    · exact hrest

/-- A column that its table has, or that has no table yet, is not needed either. -/
theorem within_needless (name : τ) (column : Column τ κ ν)
    (h : Within schema (.addColumn name column :: missing) catalogue)
    (hneedless : ∀ table, catalogue.tables name = some table → column ∈ table.definition.columns) :
    Within schema missing catalogue where
  table := h.table
  absent := by
    intro other hother
    obtain ⟨created, hmem⟩ := h.absent other hother
    rcases List.mem_cons.mp hmem with hsame | hrest
    · cases hsame
    · exact ⟨created, hrest⟩
  column := by
    intro other there hthere lacking hcolumn hlacks
    rcases List.mem_cons.mp (h.column other there hthere lacking hcolumn hlacks) with hsame | hrest
    · cases hsame
      exact absurd (hneedless there hthere) hlacks
    · exact hrest

variable [DecidableEq τ]

theorem within_create (name : τ) (definition : Definition τ κ ν)
    (h : Within schema (.createTable true name definition :: missing) catalogue)
    (hsame : Same definition (schema name)) (hname : (schema name).names.Nodup) :
    Within schema missing (catalogue.setTable name ⟨definition, []⟩) where
  table := by
    intro other table htable
    by_cases hother : other = name
    · subst hother
      rw [setTable_self] at htable
      cases htable
      exact same_part _ _ hsame hname
    · rw [setTable_of_ne catalogue name other _ hother] at htable
      exact h.table other table htable
  absent := by
    intro other habsent
    by_cases hother : other = name
    · subst hother
      simp at habsent
    · rw [setTable_of_ne catalogue name other _ hother] at habsent
      obtain ⟨created, hmem⟩ := h.absent other habsent
      rcases List.mem_cons.mp hmem with hsame | hrest
      · cases hsame
        exact absurd rfl hother
      · exact ⟨created, hrest⟩
  column := by
    intro other table htable column hcolumn hlacks
    by_cases hother : other = name
    · subst hother
      rw [setTable_self] at htable
      cases htable
      exact absurd (hsame.columns.symm.subset hcolumn) hlacks
    · rw [setTable_of_ne catalogue name other _ hother] at htable
      rcases List.mem_cons.mp (h.column other table htable column hcolumn hlacks) with hsame | hrest
      · cases hsame
      · exact hrest

variable [DecidableEq κ]

theorem within_addColumn (name : τ) (column : Column τ κ ν) (table : Table τ κ ν)
    (h : Within schema (.addColumn name column :: missing) catalogue)
    (htable : catalogue.tables name = some table) (hmem : column ∈ (schema name).columns)
    (hnew : column.name ∉ table.definition.names) :
    Within schema missing (catalogue.setTable name (table.addColumn column)) where
  table := by
    intro other there hthere
    by_cases hother : other = name
    · subst hother
      rw [setTable_self] at hthere
      cases hthere
      exact part_addColumn table _ column (h.table other table htable) hmem hnew
    · rw [setTable_of_ne catalogue name other _ hother] at hthere
      exact h.table other there hthere
  absent := by
    intro other habsent
    by_cases hother : other = name
    · subst hother
      simp at habsent
    · rw [setTable_of_ne catalogue name other _ hother] at habsent
      obtain ⟨created, hcreated⟩ := h.absent other habsent
      rcases List.mem_cons.mp hcreated with hsame | hrest
      · cases hsame
      · exact ⟨created, hrest⟩
  column := by
    intro other there hthere lacking hcolumn hlacks
    by_cases hother : other = name
    · subst hother
      rw [setTable_self] at hthere
      cases hthere
      simp only [Table.addColumn, List.mem_append, List.mem_singleton, not_or] at hlacks
      rcases List.mem_cons.mp (h.column other table htable lacking hcolumn hlacks.1) with hsame | hrest
      · cases hsame
        exact absurd rfl hlacks.2
      · exact hrest
    · rw [setTable_of_ne catalogue name other _ hother] at hthere
      rcases List.mem_cons.mp (h.column other there hthere lacking hcolumn hlacks) with hsame | hrest
      · cases hsame
        exact absurd rfl hother
      · exact hrest

end Steps

variable [DecidableEq τ] [DecidableEq κ] [DecidableEq ν] (tolerated : SqlError → Bool)

def attempt (statement : Statement τ κ ν) (catalogue : Catalogue τ κ ν) :
    Except SqlError (Catalogue τ κ ν) :=
  match execute statement catalogue with
  | .ok after => .ok after
  | .error e => if tolerated e then .ok catalogue else .error e

def attemptAll : List (Statement τ κ ν) → Catalogue τ κ ν → Except SqlError (Catalogue τ κ ν)
  | [], catalogue => .ok catalogue
  | statement :: rest, catalogue =>
    match attempt tolerated statement catalogue with
    | .ok after => attemptAll rest after
    | .error e => .error e

/-- What one statement of the growth does: nothing fails, and what it brings is missing no more. -/
structure Grown (statement : Statement τ κ ν) (missing : List (Statement τ κ ν))
    (catalogue after : Catalogue τ κ ν) : Prop where
  runs : attempt tolerated statement catalogue = .ok after
  within : Within schema missing after
  keeps : catalogue.Keeps after
  indexes : after.indexes = catalogue.indexes

section Growth

variable (hschema : ∀ name, (schema name).names.Nodup) (missing : List (Statement τ κ ν))
  (catalogue : Catalogue τ κ ν)
include hschema

theorem createTable_grown (name : τ) (definition : Definition τ κ ν)
    (h : Within schema (.createTable true name definition :: missing) catalogue)
    (hsame : Same definition (schema name)) :
    ∃ after, Grown schema tolerated (.createTable true name definition) missing catalogue after := by
  cases htable : catalogue.tables name with
  | some table =>
    refine ⟨catalogue, ?_, within_present schema missing catalogue name definition table h htable,
      keeps_refl catalogue, rfl⟩
    simp [attempt, execute, htable]
  | none =>
    refine ⟨catalogue.setTable name ⟨definition, []⟩, ?_,
      within_create schema missing catalogue name definition h hsame (hschema name),
      keeps_setTable catalogue name _ ?_, rfl⟩
    · simp [attempt, execute, htable]
    · simp [htable]

variable (hduplicate : tolerated .duplicateColumn = true) (hnone : tolerated .noSuchTable = true)
include hduplicate hnone

theorem addColumn_grown (name : τ) (column : Column τ κ ν)
    (h : Within schema (.addColumn name column :: missing) catalogue)
    (hmem : column ∈ (schema name).columns)
    (hdefault : column.notNull = true → column.default.isSome = true) :
    ∃ after, Grown schema tolerated (.addColumn name column) missing catalogue after := by
  cases htable : catalogue.tables name with
  | none =>
    refine ⟨catalogue, ?_, within_needless schema missing catalogue name column h (by simp [htable]),
      keeps_refl catalogue, rfl⟩
    simp [attempt, execute, htable, hnone]
  | some table =>
    have hpart := h.table name table htable
    by_cases hnew : column.name ∈ table.definition.names
    · refine ⟨catalogue, ?_, within_needless schema missing catalogue name column h ?_,
        keeps_refl catalogue, rfl⟩
      · simp [attempt, execute, htable, hnew, hduplicate]
      · intro there hthere
        obtain rfl : table = there := Option.some.inj (htable.symm.trans hthere)
        obtain ⟨known, hknown, hname⟩ := List.mem_map.mp hnew
        have hcolumn := column_eq _ (hschema name) known column (hpart.columns hknown) hmem hname
        exact hcolumn ▸ hknown
    · refine ⟨catalogue.setTable name (table.addColumn column), ?_,
        within_addColumn schema missing catalogue name column table h htable hmem hnew,
        keeps_setTable catalogue name _ ?_, rfl⟩
      · have hfilled : (column.notNull && column.default.isNone && !table.rows.isEmpty) = false := by
          cases hnull : column.notNull with
          | false => rfl
          | true =>
            obtain ⟨value, hvalue⟩ := Option.isSome_iff_exists.mp (hdefault hnull)
            simp [hvalue]
        simp [attempt, execute, htable, hnew, hfilled]
      · intro there hthere
        obtain rfl : table = there := Option.some.inj (htable.symm.trans hthere)
        exact extends_addColumn table column

theorem statement_grown (statement : Statement τ κ ν) (hgrows : Grows schema statement)
    (h : Within schema (statement :: missing) catalogue) :
    ∃ after, Grown schema tolerated statement missing catalogue after := by
  cases statement with
  | createTable ifNotExists name definition =>
    cases ifNotExists with
    | true =>
      exact createTable_grown schema tolerated hschema missing catalogue name definition h hgrows
    | false => exact hgrows.elim
  | addColumn name column =>
    exact addColumn_grown schema tolerated hschema missing catalogue hduplicate hnone name column h
      hgrows.1 hgrows.2
  | pragma | createIndex | insert => exact hgrows.elim

end Growth

theorem attemptAll_grown (hschema : ∀ name, (schema name).names.Nodup)
    (hduplicate : tolerated .duplicateColumn = true) (hnone : tolerated .noSuchTable = true)
    (statements missing : List (Statement τ κ ν)) (hgrows : ∀ statement ∈ statements, Grows schema statement)
    (catalogue : Catalogue τ κ ν) (h : Within schema (statements ++ missing) catalogue) :
    ∃ after, attemptAll tolerated statements catalogue = .ok after ∧ Within schema missing after ∧
      catalogue.Keeps after ∧ after.indexes = catalogue.indexes := by
  induction statements generalizing catalogue with
  | nil => exact ⟨catalogue, rfl, h, keeps_refl catalogue, rfl⟩
  | cons statement rest ih =>
    simp only [List.mem_cons, forall_eq_or_imp] at hgrows
    obtain ⟨next, hnext⟩ := statement_grown schema tolerated hschema (rest ++ missing) catalogue
      hduplicate hnone statement hgrows.1 h
    obtain ⟨after, hruns, hwithin, hkeeps, hindexes⟩ := ih hgrows.2 next hnext.within
    refine ⟨after, ?_, hwithin, keeps_trans _ _ _ hnext.keeps hkeeps, hindexes.trans hnext.indexes⟩
    simp only [attemptAll, hnext.runs, hruns]

end Glassbeetle.SchemaGrowth
