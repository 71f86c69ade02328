import Mathlib.Logic.Function.Basic
import Mathlib.Data.List.Nodup

set_option autoImplicit false

/-!
# Partial updates of a row

A row is a function from columns to values. An update asks for values of some columns; the
changes are those that are not stored already.
-/
namespace Glassbeetle.PartialUpdates

variable {κ ν : Type} [DecidableEq ν]

structure Field (κ ν : Type) where
  column : κ
  asked : Option ν

def changed (row : κ → ν) (field : Field κ ν) : Option (κ × ν) :=
  field.asked.bind fun value => if value = row field.column then none else some (field.column, value)

def changes (row : κ → ν) (fields : List (Field κ ν)) : List (κ × ν) :=
  fields.filterMap (changed row)

theorem changed_column (row : κ → ν) (field : Field κ ν) (change : κ × ν)
    (h : changed row field = some change) :
    change.1 = field.column ∧ field.asked = some change.2 ∧ change.2 ≠ row field.column := by
  obtain ⟨value, hasked, hvalue⟩ := Option.bind_eq_some_iff.mp h
  split_ifs at hvalue with hsame
  cases hvalue
  exact ⟨rfl, hasked, hsame⟩

theorem changed_none (row : κ → ν) (field : Field κ ν) :
    changed row field = none ↔ ∀ value, field.asked = some value → value = row field.column := by
  rw [changed, Option.bind_eq_none_iff]
  apply forall_congr'
  intro value
  apply forall_congr'
  intro _
  split_ifs with hsame
  · exact iff_of_true rfl hsame
  · exact iff_of_false not_false hsame

theorem changes_nil (row : κ → ν) (fields : List (Field κ ν)) :
    changes row fields = [] ↔
      ∀ field ∈ fields, ∀ value, field.asked = some value → value = row field.column := by
  rw [changes, List.filterMap_eq_nil_iff]
  apply forall_congr'
  intro field
  rw [changed_none]

theorem changes_columns (row : κ → ν) (fields : List (Field κ ν)) :
    ((changes row fields).map Prod.fst).Sublist (fields.map Field.column) := by
  induction fields with
  | nil => exact List.Sublist.slnil
  | cons field rest ih =>
    unfold changes
    rw [List.filterMap_cons]
    cases hfield : changed row field with
    | none => exact ih.cons _
    | some change =>
      obtain ⟨hcolumn, -⟩ := changed_column row field change hfield
      rw [List.map_cons, List.map_cons, hcolumn]
      exact ih.cons_cons _

variable [DecidableEq κ]

def overlay (row : κ → ν) (changes : List (κ × ν)) : κ → ν :=
  changes.foldl (fun row change => Function.update row change.1 change.2) row

/-- `SET` with one clause for each parameter, which is read back as `keep` says. A clause that names no
column is refused. -/
def executeSet {τ : Type} [DecidableEq τ] (columns : List κ) (clause : κ → τ) (keep : ν → ν)
    (row : κ → ν) : List τ → List ν → Option (κ → ν)
  | [], [] => some row
  | text :: clauses, value :: params =>
    (columns.find? fun column => clause column = text).bind fun column =>
      executeSet columns clause keep (Function.update row column (keep value)) clauses params
  | _, _ => none

omit [DecidableEq ν] in
theorem overlay_other (row : κ → ν) (changes : List (κ × ν)) (column : κ)
    (h : column ∉ changes.map Prod.fst) : overlay row changes column = row column := by
  induction changes generalizing row with
  | nil => rfl
  | cons change rest ih =>
    rw [List.map_cons, List.mem_cons, not_or] at h
    change overlay (Function.update row change.1 change.2) rest column = _
    rw [ih _ h.2, Function.update_of_ne h.1]

omit [DecidableEq ν] in
theorem overlay_mem (row : κ → ν) (changes : List (κ × ν)) (change : κ × ν)
    (hmem : change ∈ changes) (hnodup : (changes.map Prod.fst).Nodup) :
    overlay row changes change.1 = change.2 := by
  induction changes generalizing row with
  | nil => exact absurd hmem List.not_mem_nil
  | cons first rest ih =>
    rw [List.map_cons, List.nodup_cons] at hnodup
    change overlay (Function.update row first.1 first.2) rest _ = _
    rcases List.mem_cons.mp hmem with rfl | hrest
    · rw [overlay_other _ _ _ hnodup.1, Function.update_self]
    · exact ih _ hrest hnodup.2

omit [DecidableEq ν] in
theorem overlay_append (row : κ → ν) (changes more : List (κ × ν)) :
    overlay row (changes ++ more) = overlay (overlay row changes) more := List.foldl_append

section Fields
variable (row : κ → ν) (fields : List (Field κ ν)) (hnodup : (fields.map Field.column).Nodup)

theorem overlay_unasked (column : κ) (h : ∀ field ∈ fields, field.column = column → field.asked = none) :
    overlay row (changes row fields) column = row column := by
  apply overlay_other
  intro hmem
  obtain ⟨change, hchange, rfl⟩ := List.mem_map.mp hmem
  obtain ⟨field, hfield, hchanged⟩ := List.mem_filterMap.mp hchange
  obtain ⟨hcolumn, hasked, -⟩ := changed_column row field change hchanged
  rw [h field hfield hcolumn.symm] at hasked
  cases hasked

include hnodup in
theorem overlay_asked (field : Field κ ν) (hfield : field ∈ fields) (value : ν)
    (hasked : field.asked = some value) :
    overlay row (changes row fields) field.column = value := by
  by_cases hsame : value = row field.column
  · rw [hsame]
    apply overlay_other
    intro hmem
    obtain ⟨change, hchange, hcolumn⟩ := List.mem_map.mp hmem
    obtain ⟨other, hother, hchanged⟩ := List.mem_filterMap.mp hchange
    obtain ⟨hother', hvalue, hnew⟩ := changed_column row other change hchanged
    have hfields : other = field :=
      List.inj_on_of_nodup_map hnodup hother hfield (hother'.symm.trans hcolumn)
    rw [hfields, hasked] at hvalue
    rw [hfields] at hnew
    exact hnew (Option.some.inj hvalue ▸ hsame)
  · have hchange : (field.column, value) ∈ changes row fields := by
      apply List.mem_filterMap.mpr
      refine ⟨field, hfield, ?_⟩
      rw [changed, hasked, Option.bind_some, if_neg hsame]
    exact overlay_mem row _ _ hchange (hnodup.sublist (changes_columns row fields))

include hnodup in
theorem changes_again (after : κ → ν)
    (h : ∀ field ∈ fields, after field.column = overlay row (changes row fields) field.column) :
    changes after fields = [] := by
  rw [changes_nil]
  intro field hfield value hasked
  rw [h field hfield, overlay_asked row fields hnodup field hfield value hasked]

include hnodup in
theorem changes_nil_iff :
    changes row fields = [] ↔
      ∀ field ∈ fields, overlay row (changes row fields) field.column = row field.column := by
  constructor
  · intro hnil field _
    rw [hnil]
    rfl
  · intro hsame
    rw [changes_nil]
    intro field hfield value hasked
    rw [← hsame field hfield, overlay_asked row fields hnodup field hfield value hasked]

end Fields

def keptChanges (keep : ν → ν) (changes : List (κ × ν)) : List (κ × ν) :=
  changes.map fun change => (change.1, keep change.2)

omit [DecidableEq ν] in
theorem overlay_kept (keep : ν → ν) (row : κ → ν) (changes : List (κ × ν))
    (hnodup : (changes.map Prod.fst).Nodup) :
    overlay row (keptChanges keep changes) = overlay row changes ↔
      ∀ change ∈ changes, keep change.2 = change.2 := by
  have hcolumns : (keptChanges keep changes).map Prod.fst = changes.map Prod.fst := by
    unfold keptChanges
    rw [List.map_map]
    rfl
  constructor
  · intro hsame change hchange
    have hkept : (change.1, keep change.2) ∈ keptChanges keep changes :=
      List.mem_map.mpr ⟨change, hchange, rfl⟩
    have hread : overlay row (keptChanges keep changes) change.1 = keep change.2 :=
      overlay_mem row _ _ hkept (hcolumns ▸ hnodup)
    calc keep change.2
      _ = overlay row (keptChanges keep changes) change.1 := hread.symm
      _ = overlay row changes change.1 := congrFun hsame change.1
      _ = change.2 := overlay_mem row changes change hchange hnodup
  · intro hkeep
    have hchanges : keptChanges keep changes = changes := by
      refine (List.map_congr_left fun change hchange => ?_).trans (List.map_id _)
      rw [hkeep change hchange]
      rfl
    rw [hchanges]

omit [DecidableEq ν] in
theorem executeSet_overlay {τ : Type} [DecidableEq τ] (columns : List κ) (clause : κ → τ)
    (hclause : Function.Injective clause) (keep : ν → ν) (row : κ → ν) (changes : List (κ × ν))
    (hcolumns : ∀ change ∈ changes, change.1 ∈ columns) :
    executeSet columns clause keep row (changes.map fun change => clause change.1)
      (changes.map Prod.snd) = some (overlay row (keptChanges keep changes)) := by
  induction changes generalizing row with
  | nil => rfl
  | cons change rest ih =>
    have hfound : columns.find? (fun column => clause column = clause change.1) = some change.1 := by
      cases hfind : columns.find? fun column => clause column = clause change.1 with
      | none =>
        have hmissed := List.find?_eq_none.mp hfind _ (hcolumns change List.mem_cons_self)
        exact absurd (decide_eq_true rfl) hmissed
      | some column =>
        have hsame := List.find?_some hfind
        rw [hclause (of_decide_eq_true hsame)]
    rw [List.map_cons, List.map_cons, executeSet, hfound, Option.bind_some]
    exact ih _ fun next hnext => hcolumns next (List.mem_cons_of_mem _ hnext)

end Glassbeetle.PartialUpdates
