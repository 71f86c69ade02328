import Glassbeetle.SqlTables

set_option autoImplicit false

/-!
# Foreign keys

A store whose every table satisfies its definition, under the statements that insert, update and
delete rows. A deleted row takes along the rows that refer to it under `ON DELETE CASCADE`, and is
forgotten by those that refer to it under `ON DELETE SET NULL`; a row that may not forget it makes
the statement fail.
-/
namespace Glassbeetle.ForeignKeys
open SqlTables

variable {τ κ ν : Type}

abbrev Store (τ κ ν : Type) := τ → List (Row κ ν)

inductive Violation where
  | check
  | unique
  | foreignKey
  deriving DecidableEq, Repr

def references (action : OnDelete) (definition : Definition τ κ ν) : List (κ × τ) :=
  definition.columns.filterMap fun column => column.references.bind fun reference =>
    if reference.onDelete = action then some (column.name, reference.table) else none

def parents (definition : Definition τ κ ν) : List (κ × τ) :=
  references .cascade definition ++ references .setNull definition

def guarded (definition : Definition τ κ ν) : List κ :=
  (definition.columns.filter Column.notNull).map Column.name ++ definition.checks.flatMap Check.columns

theorem admits_congr [DecidableEq ν] (definition : Definition τ κ ν) (row other : Row κ ν)
    (h : ∀ name ∈ guarded definition, row name = other name) :
    definition.admits row = definition.admits other := by
  simp only [guarded, List.mem_append, or_imp, forall_and] at h
  obtain ⟨hcolumns, hchecks⟩ := h
  unfold Definition.admits
  congr 1
  · apply Bool.eq_iff_iff.mpr
    simp only [List.all_eq_true]
    apply forall₂_congr
    intro column hcolumn
    cases hnull : column.notNull with
    | false => simp
    | true =>
      rw [hcolumns column.name (List.mem_map_of_mem (List.mem_filter.mpr ⟨hcolumn, hnull⟩))]
  · apply Bool.eq_iff_iff.mpr
    simp only [List.all_eq_true]
    apply forall₂_congr
    intro check hcheck
    have hnames := fun name hname => hchecks name (List.mem_flatMap.mpr ⟨check, hcheck, hname⟩)
    cases check with
    | among column values => simp [Check.holds, hnames column (by simp [Check.columns])]
    | eitherOr first second => 
      simp [Check.holds, hnames first (by simp [Check.columns]), hnames second (by simp [Check.columns])]

section Assignments

variable [DecidableEq κ]

def assign (changes : List (κ × Option ν)) (row : Row κ ν) : Row κ ν :=
  changes.foldl (fun row change => Function.update row change.1 change.2) row

theorem assign_other (changes : List (κ × Option ν)) (row : Row κ ν) (name : κ)
    (h : ∀ change ∈ changes, change.1 ≠ name) : assign changes row name = row name := by
  induction changes generalizing row with
  | nil => rfl
  | cons change rest ih =>
    simp only [List.mem_cons, forall_eq_or_imp] at h
    change assign rest (Function.update row change.1 change.2) name = row name
    rw [ih _ h.2, Function.update_of_ne h.1.symm]

theorem assign_cases (changes : List (κ × Option ν)) (row : Row κ ν) (name : κ) :
    assign changes row name = row name ∨
      ∃ change ∈ changes, change.1 = name ∧ assign changes row name = change.2 := by
  induction changes generalizing row with
  | nil => exact .inl rfl
  | cons change rest ih =>
    have hstep : assign (change :: rest) row =
        assign rest (Function.update row change.1 change.2) := rfl
    rw [hstep]
    rcases ih (Function.update row change.1 change.2) with hrest | ⟨later, hlater, hname, hvalue⟩
    · rw [hrest]
      by_cases hname : name = change.1
      · subst hname
        exact .inr ⟨change, List.mem_cons_self, rfl, Function.update_self _ _ _⟩
      · exact .inl (Function.update_of_ne hname _ _)
    · exact .inr ⟨later, List.mem_cons_of_mem _ hlater, hname, hvalue⟩

end Assignments

section Layers

variable (schema : τ → Definition τ κ ν)

def Layered : List τ → Prop
  | [] => True
  | table :: earlier => table ∉ earlier ∧
      (∀ reference ∈ references .cascade (schema table), reference.2 ∈ earlier) ∧ Layered earlier

theorem layered_parents (order : List τ) (horder : Layered schema order) (table : τ)
    (htable : table ∈ order) :
    ∀ reference ∈ references .cascade (schema table), reference.2 ∈ order := by
  induction order with
  | nil => simp at htable
  | cons first earlier ih =>
    obtain ⟨-, hfirst, hearlier⟩ := horder
    intro reference hreference
    rcases List.mem_cons.mp htable with rfl | hlater
    · exact List.mem_cons_of_mem _ (hfirst reference hreference)
    · exact List.mem_cons_of_mem _ (ih hearlier hlater reference hreference)

instance layeredDecidable [DecidableEq τ] : (order : List τ) → Decidable (Layered schema order)
  | [] => .isTrue trivial
  | table :: earlier =>
    have : Decidable (Layered schema earlier) := layeredDecidable earlier
    inferInstanceAs (Decidable (table ∉ earlier ∧ _ ∧ _))

def Flat (target : τ) : Prop :=
  ∀ table, ∀ reference ∈ references .cascade (schema table), reference.2 = target →
    ∀ other, ∀ more ∈ parents (schema other), more.2 ≠ table

theorem flat_of_all [DecidableEq τ] (order : List τ) (hall : ∀ table, table ∈ order) (target : τ)
    (h : (order.all fun table => (references .cascade (schema table)).all fun reference =>
      reference.2 != target || order.all fun other =>
        (parents (schema other)).all fun more => more.2 != table) = true) : Flat schema target := by
  intro table reference hreference htarget other more hmore
  simp only [List.all_eq_true, Bool.or_eq_true, bne_iff_ne, ne_eq] at h
  exact ((h table (hall table) reference hreference).resolve_left (not_not.mpr htarget)) other
    (hall other) more hmore

end Layers

section Checks

variable [DecidableEq ν] (key : κ)

/-- `cell` names `row`; `NULL` names none. -/
def names (cell : Option ν) (row : Row κ ν) : Bool := cell.isSome && row key == cell

def refers (db : Store τ κ ν) (row : Row κ ν) (reference : κ × τ) : Bool :=
  (row reference.1).isNone || (db reference.2).any (names key (row reference.1))

theorem names_iff (cell : Option ν) (row : Row κ ν) :
    names key cell row = true ↔ cell.isSome = true ∧ row key = cell := by
  simp [names]

theorem refers_iff (db : Store τ κ ν) (row : Row κ ν) (reference : κ × τ) :
    refers key db row reference = true ↔ ∀ value, row reference.1 = some value →
      ∃ parent ∈ db reference.2, parent key = some value := by
  cases hcell : row reference.1 with
  | none => simp [refers, hcell]
  | some value => simp [refers, hcell, names]

variable (schema : τ → Definition τ κ ν)

def verify (db : Store τ κ ν) (table : τ) : Option Violation :=
  if (db table).all (schema table).admits = true then
    if (db table).Pairwise (fun row other => (schema table).distinct row other = true) then
      if (db table).all (fun row => (parents (schema table)).all (refers key db row)) = true then none
      else some .foreignKey
    else some .unique
  else some .check

/-- Every row is one that its table admits, no two agree where they must not, and none refers to a
row that is not there. -/
def Sound (db : Store τ κ ν) : Prop := ∀ table, verify key schema db table = none

theorem verify_none (db : Store τ κ ν) (table : τ) :
    verify key schema db table = none ↔ (∀ row ∈ db table, (schema table).admits row = true) ∧
      (db table).Pairwise (fun row other => (schema table).distinct row other = true) ∧
      ∀ row ∈ db table, ∀ reference ∈ parents (schema table), refers key db row reference = true := by
  unfold verify
  simp only [List.all_eq_true]
  split_ifs with hcheck hunique hforeign
  · exact iff_of_true rfl ⟨hcheck, hunique, hforeign⟩
  · exact iff_of_false (by simp) fun h => hforeign h.2.2
  · exact iff_of_false (by simp) fun h => hunique h.2.1
  · exact iff_of_false (by simp) fun h => hcheck h.1

/-- A table that was not written stays sound while the rows it refers to are there. -/
theorem verify_mono (db after : Store τ κ ν) (table : τ) (hsame : after table = db table)
    (hkeys : ∀ other, ∀ row ∈ db other, ∃ later ∈ after other, later key = row key)
    (h : verify key schema db table = none) : verify key schema after table = none := by
  rw [verify_none] at h ⊢
  rw [hsame]
  refine ⟨h.1, h.2.1, ?_⟩
  intro row hrow reference hreference
  rw [refers_iff]
  intro value hvalue
  obtain ⟨parent, hparent, hkey⟩ := (refers_iff key db row reference).mp
    (h.2.2 row hrow reference hreference) value hvalue
  obtain ⟨later, hlater, hsame⟩ := hkeys reference.2 parent hparent
  exact ⟨later, hlater, hsame.trans hkey⟩

/-! ### Forgetting -/

def forgets (gone : τ → Row κ ν → Bool) (db : Store τ κ ν) (row : Row κ ν) (reference : κ × τ) :
    Bool :=
  (db reference.2).any fun parent => gone reference.2 parent && names key (row reference.1) parent

section Cleared

variable [DecidableEq κ]

def cleared (gone : τ → Row κ ν → Bool) (db : Store τ κ ν) (table : τ)
    (row : Row κ ν) : Row κ ν :=
  fun name =>
    if (references .setNull (schema table)).any
        (fun reference => reference.1 = name && forgets key gone db row reference) then none
    else row name

theorem cleared_some (gone : τ → Row κ ν → Bool) (db : Store τ κ ν) (table : τ) (row : Row κ ν)
    (name : κ) (value : ν) (h : cleared key schema gone db table row name = some value) :
    row name = some value := by
  unfold cleared at h
  split at h
  · cases h
  · exact h

theorem cleared_key (hkey : ∀ table, ∀ reference ∈ references .setNull (schema table),
    reference.1 ≠ key) (gone : τ → Row κ ν → Bool) (db : Store τ κ ν) (table : τ) (row : Row κ ν) :
    cleared key schema gone db table row key = row key := by
  unfold cleared
  rw [if_neg]
  simp only [List.any_eq_true, Bool.and_eq_true, decide_eq_true_eq, not_exists, not_and]
  intro reference hreference hsame
  exact absurd hsame (hkey table reference hreference)

theorem cleared_id (gone : τ → Row κ ν → Bool) (db : Store τ κ ν) (table : τ) (row : Row κ ν)
    (h : (references .setNull (schema table)).any (forgets key gone db row) = false) :
    cleared key schema gone db table row = row := by
  funext name
  unfold cleared
  rw [if_neg]
  simp only [List.any_eq_true, Bool.and_eq_true, not_exists, not_and]
  intro reference hreference _
  exact List.any_eq_false.mp h reference hreference

theorem cleared_distinct (gone : τ → Row κ ν → Bool) (db : Store τ κ ν) (table : τ)
    (row other : Row κ ν) (h : (schema table).distinct row other = true) :
    (schema table).distinct (cleared key schema gone db table row)
      (cleared key schema gone db table other) = true := by
  simp only [Definition.distinct, List.all_eq_true, Bool.not_eq_true'] at h ⊢
  intro columns hcolumns
  by_contra hclash
  rw [Bool.not_eq_false] at hclash
  have hno := h columns hcolumns
  rw [← Bool.not_eq_true] at hno
  apply hno
  simp only [clash, List.all_eq_true, Bool.and_eq_true, beq_iff_eq] at hclash ⊢
  intro name hname
  obtain ⟨hsome, hsame⟩ := hclash name hname
  obtain ⟨value, hvalue⟩ := Option.isSome_iff_exists.mp hsome
  have hrow := cleared_some key schema gone db table row name value hvalue
  have hother := cleared_some key schema gone db table other name value (hsame ▸ hvalue)
  exact ⟨by simp [hrow], hrow.trans hother.symm⟩

end Cleared

/-! ### Writing -/

variable [DecidableEq τ]

def settle (db : Store τ κ ν) (table : τ) (rows : List (Row κ ν)) :
    Except Violation (Store τ κ ν) :=
  match verify key schema (Function.update db table rows) table with
  | none => .ok (Function.update db table rows)
  | some violation => .error violation

def insert (db : Store τ κ ν) (table : τ) (row : Row κ ν) : Except Violation (Store τ κ ν) :=
  settle key schema db table (db table ++ [row])

theorem settle_ok (db after : Store τ κ ν) (table : τ) (rows : List (Row κ ν))
    (h : settle key schema db table rows = .ok after) :
    after = Function.update db table rows ∧ verify key schema after table = none := by
  unfold settle at h
  cases hverify : verify key schema (Function.update db table rows) table with
  | some violation => simp [hverify] at h
  | none =>
    rw [hverify] at h
    cases h
    exact ⟨rfl, hverify⟩

theorem settle_sound (db after : Store τ κ ν) (table : τ) (rows : List (Row κ ν))
    (hdb : Sound key schema db) (hkeys : ∀ row ∈ db table, ∃ later ∈ rows, later key = row key)
    (h : settle key schema db table rows = .ok after) : Sound key schema after := by
  obtain ⟨rfl, hverify⟩ := settle_ok key schema db after table rows h
  intro other
  by_cases hother : other = table
  · rw [hother]
    exact hverify
  · refine verify_mono key schema db _ other (Function.update_of_ne hother _ _) ?_ (hdb other)
    intro parent row hrow
    by_cases hparent : parent = table
    · subst hparent
      rw [Function.update_self]
      exact hkeys row hrow
    · rw [Function.update_of_ne hparent]
      exact ⟨row, hrow, rfl⟩

theorem insert_sound (db after : Store τ κ ν) (table : τ) (row : Row κ ν)
    (hdb : Sound key schema db) (h : insert key schema db table row = .ok after) :
    Sound key schema after := by
  refine settle_sound key schema db after table _ hdb ?_ h
  intro old hold
  exact ⟨old, List.mem_append_left _ hold, rfl⟩

theorem insert_outcome (db : Store τ κ ν) (table : τ) (row : Row κ ν) (hdb : Sound key schema db) :
    insert key schema db table row =
      if (schema table).admits row = true then
        if (db table).all (fun other => (schema table).distinct other row) = true then
          if (parents (schema table)).all (refers key (Function.update db table (db table ++ [row])) row)
              = true then
            .ok (Function.update db table (db table ++ [row]))
          else .error .foreignKey
        else .error .unique
      else .error .check := by
  obtain ⟨hall, hpair, hparents⟩ := (verify_none key schema db table).mp (hdb table)
  have hmore : ∀ other reference, refers key db other reference = true →
      refers key (Function.update db table (db table ++ [row])) other reference = true := by
    intro other reference hold
    rw [refers_iff] at hold ⊢
    intro value hvalue
    obtain ⟨parent, hparent, hkey⟩ := hold value hvalue
    refine ⟨parent, ?_, hkey⟩
    by_cases htable : reference.2 = table
    · rw [htable, Function.update_self]
      exact List.mem_append_left _ (htable ▸ hparent)
    · rwa [Function.update_of_ne htable]
  have hadmits : (db table ++ [row]).all (schema table).admits = true ↔
      (schema table).admits row = true := by
    rw [List.all_append, List.all_eq_true.mpr hall, Bool.true_and, List.all_cons, List.all_nil,
      Bool.and_true]
  have hdistinct : (db table ++ [row]).Pairwise
        (fun row other => (schema table).distinct row other = true) ↔
      (db table).all (fun other => (schema table).distinct other row) = true := by
    rw [List.pairwise_append, List.all_eq_true]
    exact ⟨fun h other hother => h.2.2 other hother row List.mem_cons_self,
      fun h => ⟨hpair, List.pairwise_singleton _ _, fun other hother last hlast =>
        List.mem_singleton.mp hlast ▸ h other hother⟩⟩
  have hrefers : (db table ++ [row]).all (fun other => (parents (schema table)).all
        (refers key (Function.update db table (db table ++ [row])) other)) = true ↔
      (parents (schema table)).all
        (refers key (Function.update db table (db table ++ [row])) row) = true := by
    have hold : (db table).all (fun other => (parents (schema table)).all
        (refers key (Function.update db table (db table ++ [row])) other)) = true :=
      List.all_eq_true.mpr fun other hother => List.all_eq_true.mpr fun reference hreference =>
        hmore other reference (hparents other hother reference hreference)
    rw [List.all_append, hold, Bool.true_and, List.all_cons, List.all_nil, Bool.and_true]
  unfold insert settle verify
  rw [Function.update_self]
  simp only [hadmits, hdistinct, hrefers]
  split_ifs <;> rfl

section Updates

variable [DecidableEq κ]

/-- `UPDATE … WHERE`; `changes` leaves the key alone. -/
def updateWhere (db : Store τ κ ν) (table : τ) (selected : Row κ ν → Bool)
    (changes : List (κ × Option ν)) : Except Violation (Store τ κ ν) :=
  settle key schema db table
    ((db table).map fun row => if selected row then assign changes row else row)

theorem updateWhere_sound (db after : Store τ κ ν) (table : τ) (selected : Row κ ν → Bool)
    (changes : List (κ × Option ν)) (hchanges : ∀ change ∈ changes, change.1 ≠ key)
    (hdb : Sound key schema db) (h : updateWhere key schema db table selected changes = .ok after) :
    Sound key schema after := by
  refine settle_sound key schema db after table _ hdb ?_ h
  intro row hrow
  refine ⟨_, List.mem_map_of_mem hrow, ?_⟩
  split
  · exact assign_other changes row key hchanges
  · rfl

theorem updateWhere_ok (db : Store τ κ ν) (table : τ) (selected : Row κ ν → Bool)
    (changes : List (κ × Option ν)) (hdb : Sound key schema db)
    (hkey : ∀ change ∈ changes, change.1 ≠ key)
    (hunique : ∀ columns ∈ (schema table).unique, ∀ name ∈ columns, ∀ change ∈ changes, change.1 ≠ name)
    (hadmits : ∀ row ∈ db table, selected row = true →
      (schema table).admits (assign changes row) = true)
    (hrefers : ∀ row ∈ db table, selected row = true → ∀ reference ∈ parents (schema table),
      refers key db (assign changes row) reference = true) :
    updateWhere key schema db table selected changes =
      .ok (Function.update db table
        ((db table).map fun row => if selected row then assign changes row else row)) := by
  obtain ⟨hall, hpair, hparents⟩ := (verify_none key schema db table).mp (hdb table)
  have hcell : ∀ row : Row κ ν, ∀ columns ∈ (schema table).unique, ∀ name ∈ columns,
      (if selected row then assign changes row else row) name = row name := by
    intro row columns hcolumns name hname
    split
    · exact assign_other changes row name (hunique columns hcolumns name hname)
    · rfl
  have hsame : ∀ other, ∀ row ∈ db other, ∃ later ∈ Function.update db table
      ((db table).map fun row => if selected row then assign changes row else row) other,
      later key = row key := by
    intro other row hrow
    by_cases hother : other = table
    · subst hother
      rw [Function.update_self]
      refine ⟨_, List.mem_map_of_mem hrow, ?_⟩
      split
      · exact assign_other changes row key hkey
      · rfl
    · rw [Function.update_of_ne hother]
      exact ⟨row, hrow, rfl⟩
  have hverify : verify key schema (Function.update db table
      ((db table).map fun row => if selected row then assign changes row else row)) table = none := by
    rw [verify_none, Function.update_self]
    refine ⟨?_, ?_, ?_⟩
    · intro after hafter
      obtain ⟨row, hrow, rfl⟩ := List.mem_map.mp hafter
      split
      · next hselected => exact hadmits row hrow hselected
      · exact hall row hrow
    · refine List.Pairwise.map _ ?_ hpair
      intro row other hdistinct
      simp only [Definition.distinct, List.all_eq_true, Bool.not_eq_true'] at hdistinct ⊢
      intro columns hcolumns
      rw [← hdistinct columns hcolumns]
      apply Bool.eq_iff_iff.mpr
      simp only [clash, List.all_eq_true]
      apply forall₂_congr
      intro name hname
      rw [hcell row columns hcolumns name hname, hcell other columns hcolumns name hname]
    · intro after hafter reference hreference
      obtain ⟨row, hrow, rfl⟩ := List.mem_map.mp hafter
      have hold : refers key db (if selected row then assign changes row else row) reference =
          true := by
        split
        · next hselected => exact hrefers row hrow hselected reference hreference
        · exact hparents row hrow reference hreference
      rw [refers_iff] at hold ⊢
      intro value hvalue
      obtain ⟨parent, hparent, hparentKey⟩ := hold value hvalue
      obtain ⟨later, hlater, hlaterKey⟩ := hsame reference.2 parent hparent
      exact ⟨later, hlater, hlaterKey.trans hparentKey⟩
  simp only [updateWhere, settle, hverify]

end Updates

/-! ### Deleting -/

/-- The rows that go: those selected, and with them those that belong to one. Each table comes before
the tables that its rows belong to. -/
def doomed (db : Store τ κ ν) (target : τ) (selected : Row κ ν → Bool) :
    List τ → τ → Row κ ν → Bool
  | [], _, _ => false
  | table :: earlier, other, row =>
    if other = table then
      (decide (table = target) && selected row) ||
        (references .cascade (schema table)).any (forgets key (doomed db target selected earlier) db row)
    else doomed db target selected earlier other row

/-- The rows that a delete leaves. -/
def survivors [DecidableEq κ] (order : List τ) (db : Store τ κ ν) (target : τ)
    (selected : Row κ ν → Bool) : Store τ κ ν :=
  let gone := doomed key schema db target selected order
  fun table => ((db table).filter fun row => !gone table row).map (cleared key schema gone db table)

def refuses [DecidableEq κ] (order : List τ) (db : Store τ κ ν) (target : τ)
    (selected : Row κ ν → Bool) (table : τ) (row : Row κ ν) : Bool :=
  let gone := doomed key schema db target selected order
  !gone table row && (references .setNull (schema table)).any (forgets key gone db row) &&
    !(schema table).admits (cleared key schema gone db table row)

/-- `DELETE FROM target WHERE selected`. -/
def deleteWhere [DecidableEq κ] (order : List τ) (db : Store τ κ ν) (target : τ)
    (selected : Row κ ν → Bool) : Except Violation (Store τ κ ν) :=
  if order.any fun table => (db table).any (refuses key schema order db target selected table) then
    .error .check
  else .ok (survivors key schema order db target selected)

/-- Every row that belongs to one that goes, goes. The induction is on the order: a table's parents
are settled before it, and looking them up again finds the same rows. -/
theorem doomed_fix (db : Store τ κ ν) (target : τ) (selected : Row κ ν → Bool) (order : List τ)
    (horder : Layered schema order) (table : τ) (htable : table ∈ order) (row : Row κ ν) :
    doomed key schema db target selected order table row =
      ((decide (table = target) && selected row) ||
        (references .cascade (schema table)).any
          (forgets key (doomed key schema db target selected order) db row)) := by
  induction order with
  | nil => simp at htable
  | cons first earlier ih =>
    obtain ⟨hnew, hfirst, hearlier⟩ := horder
    have hsame : ∀ other ∈ earlier, doomed key schema db target selected (first :: earlier) other =
        doomed key schema db target selected earlier other := by
      intro other hother
      funext row
      rw [doomed, if_neg]
      rintro rfl
      exact hnew hother
    have hforgets : ∀ reference : κ × τ, reference.2 ∈ earlier →
        forgets key (doomed key schema db target selected (first :: earlier)) db row reference =
          forgets key (doomed key schema db target selected earlier) db row reference := by
      intro reference hreference
      rw [forgets, forgets, hsame reference.2 hreference]
    by_cases hcase : table = first
    · subst hcase
      rw [doomed, if_pos rfl]
      congr 1
      apply Bool.eq_iff_iff.mpr
      simp only [List.any_eq_true]
      apply exists_congr
      intro reference
      apply and_congr_right
      intro hreference
      rw [hforgets reference (hfirst reference hreference)]
    · have hmem : table ∈ earlier := (List.mem_cons.mp htable).resolve_left hcase
      rw [hsame table hmem, ih hearlier hmem]
      congr 1
      apply Bool.eq_iff_iff.mpr
      simp only [List.any_eq_true]
      apply exists_congr
      intro reference
      apply and_congr_right
      intro hreference
      rw [hforgets reference (layered_parents schema earlier hearlier table hmem reference hreference)]

section Deletes

variable [DecidableEq κ] (order : List τ) (horder : Layered schema order) (hall : ∀ table, table ∈ order)
  (hkey : ∀ table, ∀ reference ∈ references .setNull (schema table), reference.1 ≠ key)

theorem deleteWhere_ok (db after : Store τ κ ν) (target : τ) (selected : Row κ ν → Bool) :
    deleteWhere key schema order db target selected = .ok after ↔
      after = survivors key schema order db target selected ∧ ∀ table ∈ order, ∀ row ∈ db table,
        refuses key schema order db target selected table row = false := by
  unfold deleteWhere
  split
  · next hrefused =>
    refine iff_of_false (by simp) fun h => ?_
    simp only [List.any_eq_true] at hrefused
    obtain ⟨table, htable, row, hrow, hrefuses⟩ := hrefused
    simp [h.2 table htable row hrow] at hrefuses
  · next hnone =>
    simp only [List.any_eq_true, not_exists, not_and, Bool.not_eq_true] at hnone
    constructor
    · intro h
      exact ⟨(Except.ok.inj h).symm, hnone⟩
    · intro h
      rw [h.1]

include horder hall hkey

/-- What a row still refers to is still there: a row that goes takes along those that belong to it,
and the others forget it. -/
theorem survivors_refers (db : Store τ κ ν) (hdb : Sound key schema db) (target : τ)
    (selected : Row κ ν → Bool) (table : τ) (row : Row κ ν)
    (hrow : row ∈ survivors key schema order db target selected table) (reference : κ × τ)
    (hreference : reference ∈ parents (schema table)) :
    refers key (survivors key schema order db target selected) row reference = true := by
  obtain ⟨before, hbefore, rfl⟩ := List.mem_map.mp hrow
  obtain ⟨hmem, hkept⟩ := List.mem_filter.mp hbefore
  rw [refers_iff]
  intro value hvalue
  have hcell := cleared_some key schema _ db table before reference.1 value hvalue
  obtain ⟨parent, hparent, hparentKey⟩ := (refers_iff key db before reference).mp
    (((verify_none key schema db table).mp (hdb table)).2.2 before hmem reference hreference)
    value hcell
  have hforgets : doomed key schema db target selected order reference.2 parent = true →
      forgets key (doomed key schema db target selected order) db before reference = true := by
    intro hgone
    exact List.any_eq_true.mpr ⟨parent, hparent, by simp [hgone, names, hcell, hparentKey]⟩
  cases hgone : doomed key schema db target selected order reference.2 parent with
  | false =>
    refine ⟨_, List.mem_map_of_mem (List.mem_filter.mpr ⟨hparent, by simp [hgone]⟩), ?_⟩
    rw [cleared_key key schema hkey, hparentKey]
  | true =>
    exfalso
    rcases List.mem_append.mp hreference with hcascade | hsetNull
    · -- the row belongs to a parent that goes, so it goes too
      rw [doomed_fix key schema db target selected order horder table (hall table) before] at hkept
      have hany := List.any_eq_true.mpr ⟨reference, hcascade, hforgets hgone⟩
      simp [hany] at hkept
    · -- the cell would have been forgotten
      have hnull : cleared key schema (doomed key schema db target selected order) db table before
          reference.1 = none := by
        unfold cleared
        exact if_pos (List.any_eq_true.mpr ⟨reference, hsetNull, by simp [hforgets hgone]⟩)
      rw [hnull] at hvalue
      cases hvalue

theorem deleteWhere_sound (db after : Store τ κ ν) (target : τ) (selected : Row κ ν → Bool)
    (hdb : Sound key schema db) (h : deleteWhere key schema order db target selected = .ok after) :
    Sound key schema after := by
  obtain ⟨rfl, hadmits⟩ := (deleteWhere_ok key schema order db after target selected).mp h
  intro table
  obtain ⟨hchecks, hpair, -⟩ := (verify_none key schema db table).mp (hdb table)
  rw [verify_none]
  refine ⟨?_, ?_, survivors_refers key schema order horder hall hkey db hdb target selected table⟩
  · intro row hrow
    obtain ⟨before, hbefore, rfl⟩ := List.mem_map.mp hrow
    obtain ⟨hmem, hkept⟩ := List.mem_filter.mp hbefore
    cases hforgets : (references .setNull (schema table)).any
        (forgets key (doomed key schema db target selected order) db before) with
    | true => simpa [refuses, hforgets, hkept] using hadmits table (hall table) before hmem
    | false =>
      rw [cleared_id key schema _ db table before hforgets]
      exact hchecks before hmem
  · refine List.Pairwise.map _ ?_ (hpair.filter _)
    intro row other hdistinct
    exact cleared_distinct key schema _ db table row other hdistinct

end Deletes

/-! ### Deleting nothing -/

section Nothing

variable (order : List τ) (db : Store τ κ ν) (target : τ) (selected : Row κ ν → Bool)
  (hnone : ∀ row ∈ db target, selected row = false)
include hnone

theorem doomed_nothing (table : τ) (row : Row κ ν) (hrow : row ∈ db table) :
    doomed key schema db target selected order table row = false := by
  induction order generalizing table row with
  | nil => rfl
  | cons first earlier ih =>
    rw [doomed]
    split
    · next hsame =>
      subst hsame
      rw [Bool.or_eq_false_iff, Bool.and_eq_false_iff, List.any_eq_false]
      constructor
      · by_cases htarget : table = target
        · subst htarget
          exact .inr (hnone row hrow)
        · exact .inl (decide_eq_false htarget)
      · intro reference _ hforgets
        obtain ⟨parent, hparent, hgone⟩ := List.any_eq_true.mp hforgets
        simp [ih reference.2 parent hparent] at hgone
    · exact ih table row hrow

theorem deleteWhere_nothing [DecidableEq κ] :
    deleteWhere key schema order db target selected = .ok db := by
  have hforgets : ∀ row : Row κ ν, ∀ reference, forgets key
      (doomed key schema db target selected order) db row reference = false := by
    intro row reference
    rw [forgets, List.any_eq_false]
    intro parent hparent hgone
    simp [doomed_nothing key schema order db target selected hnone reference.2 parent hparent] at hgone
  have hany : ∀ table, ∀ row : Row κ ν, (references .setNull (schema table)).any (forgets key
      (doomed key schema db target selected order) db row) = false := by
    intro table row
    rw [List.any_eq_false]
    intro reference _
    simp [hforgets row reference]
  have hsurvivors : survivors key schema order db target selected = db := by
    funext table
    have hfilter : (db table).filter
        (fun row => !doomed key schema db target selected order table row) = db table := by
      rw [List.filter_eq_self]
      intro row hrow
      simp [doomed_nothing key schema order db target selected hnone table row hrow]
    simp only [survivors, hfilter]
    conv_rhs => rw [← List.map_id (db table)]
    apply List.map_congr_left
    intro row _
    exact cleared_id key schema _ db table row (hany table row)
  rw [deleteWhere_ok]
  refine ⟨hsurvivors.symm, ?_⟩
  intro table _ row _
  simp [refuses, hany table row]

end Nothing

/-! ### Deleting one row -/

section OneRow

variable (order : List τ) (horder : Layered schema order) (hall : ∀ table, table ∈ order)
  (db : Store τ κ ν) (target : τ) (id : ν)

def refersTo (row : Row κ ν) (reference : κ × τ) : Bool :=
  reference.2 = target && row reference.1 = some id

def goes (table : τ) (row : Row κ ν) : Bool :=
  (decide (table = target) && decide (row key = some id)) ||
    (references .cascade (schema table)).any (refersTo target id row)

def forgetful [DecidableEq κ] (table : τ) (row : Row κ ν) : Row κ ν := fun name =>
  if (references .setNull (schema table)).any
      (fun reference => reference.1 = name && refersTo target id row reference) then none
  else row name

def withoutRow [DecidableEq κ] : Store τ κ ν := fun table =>
  ((db table).filter fun row => !goes key schema target id table row).map
    (forgetful schema target id table)

variable (hflat : Flat schema target)
include hflat

theorem doomed_target (selected : Row κ ν → Bool) (table : τ) (row : Row κ ν)
    (h : doomed key schema db target selected order table row = true) :
    table = target ∨ ∃ reference ∈ references .cascade (schema table), reference.2 = target := by
  induction order generalizing table row with
  | nil => simp [doomed] at h
  | cons first earlier ih =>
    rw [doomed] at h
    split at h
    · next hsame =>
      subst hsame
      rcases Bool.or_eq_true_iff.mp h with hdirect | hany
      · exact .inl (of_decide_eq_true (Bool.and_eq_true_iff.mp hdirect).1)
      · right
        obtain ⟨reference, hreference, hforgets⟩ := List.any_eq_true.mp hany
        obtain ⟨parent, -, hgone⟩ := List.any_eq_true.mp hforgets
        refine ⟨reference, hreference, ?_⟩
        rcases ih _ _ (Bool.and_eq_true_iff.mp hgone).1 with htarget | ⟨more, hmore, htarget⟩
        · exact htarget
        · exact absurd rfl (hflat reference.2 more hmore htarget table reference
            (List.mem_append_left _ hreference))
    · exact ih _ _ h

include horder hall

theorem doomed_self (row : Row κ ν) :
    doomed key schema db target (fun row => row key = some id) order target row =
      decide (row key = some id) := by
  rw [doomed_fix key schema db target _ order horder target (hall target) row]
  have hnone : (references .cascade (schema target)).any (forgets key
      (doomed key schema db target (fun row => row key = some id) order) db row) = false := by
    rw [List.any_eq_false]
    intro reference hreference hforgets
    obtain ⟨parent, -, hgone⟩ := List.any_eq_true.mp hforgets
    have hparent := doomed_target key schema order db target hflat _ _ _
      (Bool.and_eq_true_iff.mp hgone).1
    have hmore := List.mem_append_left (references .setNull (schema target)) hreference
    rcases hparent with htarget | ⟨more, hmem, htarget⟩
    · exact hflat target reference hreference htarget target reference hmore htarget
    · exact hflat reference.2 more hmem htarget target reference hmore rfl
  simp [hnone]

variable (hexists : ∃ row ∈ db target, row key = some id)
include hexists

theorem forgets_flat (table : τ) (row : Row κ ν) (reference : κ × τ)
    (hreference : reference ∈ parents (schema table)) :
    forgets key (doomed key schema db target (fun row => row key = some id) order) db row reference =
      refersTo target id row reference := by
  apply Bool.eq_iff_iff.mpr
  simp only [forgets, refersTo, List.any_eq_true, Bool.and_eq_true, decide_eq_true_eq, names_iff]
  constructor
  · rintro ⟨parent, -, hgone, hsome, hkey⟩
    rcases doomed_target key schema order db target hflat _ _ _ hgone with htarget | ⟨more, hmem, htarget⟩
    · rw [htarget, doomed_self key schema order horder hall db target id hflat] at hgone
      exact ⟨htarget, hkey.symm.trans (of_decide_eq_true hgone)⟩
    · exact absurd rfl (hflat reference.2 more hmem htarget table reference hreference)
  · rintro ⟨rfl, hcell⟩
    obtain ⟨parent, hparent, hkey⟩ := hexists
    refine ⟨parent, hparent, ?_, by simp [hcell], hkey.trans hcell.symm⟩
    rw [doomed_self key schema order horder hall db reference.2 id hflat]
    exact decide_eq_true hkey

theorem doomed_flat (table : τ) (row : Row κ ν) :
    doomed key schema db target (fun row => row key = some id) order table row =
      goes key schema target id table row := by
  rw [goes, doomed_fix key schema db target _ order horder table (hall table) row]
  congr 1
  apply Bool.eq_iff_iff.mpr
  simp only [List.any_eq_true]
  apply exists_congr
  intro reference
  apply and_congr_right
  intro hreference
  rw [forgets_flat key schema order horder hall db target id hflat hexists table row reference
    (List.mem_append_left _ hreference)]

variable [DecidableEq κ]

theorem cleared_flat (table : τ) (row : Row κ ν) :
    cleared key schema (doomed key schema db target (fun row => row key = some id) order) db table
      row = forgetful schema target id table row := by
  funext name
  unfold cleared forgetful
  congr 1
  apply propext
  simp only [List.any_eq_true]
  apply exists_congr
  intro reference
  apply and_congr_right
  intro hreference
  rw [forgets_flat key schema order horder hall db target id hflat hexists table row reference
    (List.mem_append_right _ hreference)]

theorem survivors_flat :
    survivors key schema order db target (fun row => row key = some id) =
      withoutRow key schema db target id := by
  funext table
  simp only [survivors, withoutRow,
    doomed_flat key schema order horder hall db target id hflat hexists]
  apply List.map_congr_left
  intro row _
  exact cleared_flat key schema order horder hall db target id hflat hexists table row

theorem refuses_flat (table : τ) (row : Row κ ν) :
    refuses key schema order db target (fun row => row key = some id) table row =
      (!goes key schema target id table row &&
        (references .setNull (schema table)).any (refersTo target id row) &&
          !(schema table).admits (forgetful schema target id table row)) := by
  have hany : (references .setNull (schema table)).any
      (forgets key (doomed key schema db target (fun row => row key = some id) order) db row) =
        (references .setNull (schema table)).any (refersTo target id row) := by
    apply Bool.eq_iff_iff.mpr
    simp only [List.any_eq_true]
    apply exists_congr
    intro reference
    apply and_congr_right
    intro hreference
    rw [forgets_flat key schema order horder hall db target id hflat hexists table row reference
      (List.mem_append_right _ hreference)]
  simp only [refuses, hany, doomed_flat key schema order horder hall db target id hflat hexists,
    cleared_flat key schema order horder hall db target id hflat hexists]

end OneRow

end Checks

end Glassbeetle.ForeignKeys
