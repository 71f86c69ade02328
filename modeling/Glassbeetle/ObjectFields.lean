import Mathlib.Data.List.Basic

set_option autoImplicit false

/-!
# Fields of objects

An object is the list of its fields. Assigning the fields of another keeps the
place of a field that is there and adds the others behind.
-/
namespace Glassbeetle.ObjectFields

variable {α β : Type} [BEq α] [LawfulBEq α]

def assign (target source : List (α × β)) : List (α × β) :=
  target.map (fun field => (field.1, (source.lookup field.1).getD field.2)) ++
    source.filter fun field => (target.lookup field.1).isNone

def put (target : List (α × β)) (key : α) (value : β) : List (α × β) :=
  assign target [(key, value)]

theorem lookup_map_snd (fields : List (α × β)) (f : α → β → β) (key : α) :
    (fields.map fun field => (field.1, f field.1 field.2)).lookup key =
      (fields.lookup key).map (f key) := by
  induction fields with
  | nil => rfl
  | cons field rest ih =>
    rw [List.map_cons, List.lookup_cons, List.lookup_cons]
    by_cases hkey : key = field.1
    · rw [hkey, beq_self_eq_true]
      rfl
    · rw [beq_false_of_ne hkey]
      exact ih

theorem lookup_filter_key (fields : List (α × β)) (p : α → Bool) (key : α) :
    (fields.filter fun field => p field.1).lookup key =
      if p key then fields.lookup key else none := by
  induction fields with
  | nil => simp
  | cons field rest ih =>
    rw [List.filter_cons, List.lookup_cons]
    by_cases hkey : key = field.1
    · subst hkey
      by_cases hp : p field.1 = true
      · rw [if_pos hp, if_pos hp, List.lookup_cons, beq_self_eq_true]
      · rw [if_neg hp, ih, if_neg hp, if_neg hp]
    · rw [beq_false_of_ne hkey]
      by_cases hp : p field.1 = true
      · rw [if_pos hp, List.lookup_cons, beq_false_of_ne hkey]
        exact ih
      · rw [if_neg hp]
        exact ih

theorem lookup_assign (target source : List (α × β)) (key : α) :
    (assign target source).lookup key = (source.lookup key).or (target.lookup key) := by
  unfold assign
  rw [List.lookup_append, lookup_map_snd target (fun key value => (source.lookup key).getD value),
    lookup_filter_key source fun key => (target.lookup key).isNone]
  cases target.lookup key <;> cases source.lookup key <;> rfl

theorem lookup_put (target : List (α × β)) (key other : α) (value : β) :
    (put target key value).lookup other =
      if other == key then some value else target.lookup other := by
  unfold put
  rw [lookup_assign, List.lookup_cons]
  cases other == key <;> rfl

end Glassbeetle.ObjectFields
