import Mathlib.Data.List.Chain
import Glassbeetle.TeamSchedules

set_option autoImplicit false

namespace Glassbeetle.ScheduleBounds
open JsText Database Inference TeamChat Schedules TeamSchedules ExecutionChain

section Members

variable (toLowerCase : JsString → JsString)

theorem findByQuery_mem (candidates : List TeamMember) (group : JsString) (member : TeamMember)
    (h : findByQuery toLowerCase candidates group = some member) : member ∈ candidates := by
  unfold findByQuery at h
  rcases Option.or_eq_some_iff.mp h with h | ⟨-, h⟩
  · rcases Option.or_eq_some_iff.mp h with h | ⟨-, h⟩
    · exact List.mem_of_find?_eq_some h
    · exact List.mem_of_find?_eq_some h
  · exact List.mem_of_find?_eq_some h

theorem others_mem (members : List TeamMember) (member other : TeamMember)
    (h : other ∈ others members member) : other ∈ members ∧ other.agentId ≠ member.agentId := by
  obtain ⟨hmem, hne⟩ := List.mem_filter.mp h
  exact ⟨hmem, of_decide_eq_true hne⟩

theorem named_mem (members : List TeamMember) (member next : TeamMember) (text : Option JsString)
    (h : text.bind (findByQuery toLowerCase (others members member)) = some next) :
    next ∈ members ∧ next.agentId ≠ member.agentId := by
  obtain ⟨group, -, hfind⟩ := Option.bind_eq_some_iff.mp h
  exact others_mem members member next (findByQuery_mem toLowerCase _ group next hfind)

end Members

section Turns

variable (toLowerCase : JsString → JsString) (team : Option TeamRow) (members : List TeamMember)

def By (turn : Turn) : Prop := turn.member ∈ members

variable {members}

theorem pipeline_by (finish : JsString → Bool) (maxSequence : Option ℤ)
    (speakers : List TeamMember) (h : ∀ speaker ∈ speakers, speaker ∈ members) :
    Every (By members) (pipelineSchedule finish maxSequence speakers) := by
  induction speakers with
  | nil => exact trivial
  | cons speaker rest ih =>
    refine ⟨h speaker List.mem_cons_self, fun reply => ?_⟩
    dsimp only
    split_ifs
    · exact trivial
    · exact ih fun other hother => h other (List.mem_cons_of_mem _ hother)

theorem handoff_by (left : ℕ) (current : TeamMember) (h : current ∈ members) :
    Every (By members) (handoffSchedule toLowerCase team members left current) := by
  induction left generalizing current with
  | zero => exact trivial
  | succ left ih =>
    refine ⟨h, fun reply => ?_⟩
    dsimp only
    split_ifs
    · exact trivial
    · cases hnext : (nextMatch reply).bind (findByQuery toLowerCase (others members current)) with
      | none => exact trivial
      | some next => exact ih next (named_mem toLowerCase members current next _ hnext).1

theorem coordinator_by (first : TeamMember) (rest : List TeamMember) (bound : ℕ) :
    Every (By (first :: rest)) (coordinatorSchedule toLowerCase team first rest bound) := by
  refine ⟨leadMember_mem toLowerCase first rest, fun reply => ?_⟩
  dsimp only
  split_ifs
  · split
    · exact trivial
    · rename_i specialist hmatch
      exact ⟨(named_mem toLowerCase _ _ specialist _ hmatch).1, fun _ => trivial⟩
  · exact trivial

theorem team_by (strategy : TeamStrategy) (boundary : ℤ) (first : TeamMember)
    (rest : List TeamMember) (bound : ℕ) :
    Every (By (first :: rest)) (teamSchedule toLowerCase team strategy boundary first rest bound) := by
  have htake : ∀ speaker ∈ (first :: rest).take bound, speaker ∈ first :: rest :=
    fun _ h => List.mem_of_mem_take h
  cases strategy with
  | sequential => exact pipeline_by finished none _ htake
  | coordinator => exact coordinator_by toLowerCase team first rest bound
  | broadcast => exact pipeline_by _ _ _ htake
  | autonomous =>
    exact handoff_by toLowerCase team bound _ (leadMember_mem toLowerCase first rest)

end Turns

section Length

variable (toLowerCase : JsString → JsString) (team : Option TeamRow)

theorem pipeline_within (finish : JsString → Bool) (maxSequence : Option ℤ)
    (speakers : List TeamMember) :
    Within speakers.length (pipelineSchedule finish maxSequence speakers) := by
  induction speakers with
  | nil => exact trivial
  | cons speaker rest ih =>
    intro reply
    dsimp only
    split_ifs
    · exact within_finish _
    · exact ih

theorem handoff_within (members : List TeamMember) (left : ℕ) (current : TeamMember) :
    Within left (handoffSchedule toLowerCase team members left current) := by
  induction left generalizing current with
  | zero => exact trivial
  | succ left ih =>
    intro reply
    dsimp only
    split_ifs
    · exact within_finish left
    · cases (nextMatch reply).bind (findByQuery toLowerCase (others members current)) with
      | none => exact within_finish left
      | some next => exact ih next

theorem coordinator_within (first : TeamMember) (rest : List TeamMember) (bound : ℕ)
    (hbound : 1 ≤ bound) :
    Within (min bound 2) (coordinatorSchedule toLowerCase team first rest bound) := by
  obtain ⟨n, hn⟩ : ∃ n, min bound 2 = n + 1 := Nat.exists_eq_add_one.mpr (by omega)
  rw [hn]
  intro reply
  dsimp only
  split_ifs with hdelegate
  · split
    · exact within_finish n
    · obtain ⟨m, rfl⟩ : ∃ m, n = m + 1 := Nat.exists_eq_add_one.mpr (by omega)
      exact fun _ => within_finish m
  · exact within_finish n

def maxTurns (strategy : TeamStrategy) (members bound : ℕ) : ℕ :=
  match strategy with
  | .sequential => min bound members
  | .broadcast => min bound members
  | .coordinator => min bound 2
  | .autonomous => bound

theorem team_within (strategy : TeamStrategy) (boundary : ℤ) (first : TeamMember)
    (rest : List TeamMember) (bound : ℕ) (hbound : 1 ≤ bound) :
    Within (maxTurns strategy (first :: rest).length bound)
      (teamSchedule toLowerCase team strategy boundary first rest bound) := by
  have hlength : ((first :: rest).take bound).length = min bound (first :: rest).length :=
    List.length_take
  unfold maxTurns
  cases strategy with
  | sequential =>
    dsimp only
    rw [← hlength]
    exact pipeline_within finished none _
  | coordinator => exact coordinator_within toLowerCase team first rest bound hbound
  | broadcast =>
    dsimp only
    rw [← hlength]
    exact pipeline_within _ _ _
  | autonomous => exact handoff_within toLowerCase team _ bound _

theorem team_opens (strategy : TeamStrategy) (boundary : ℤ) (first : TeamMember)
    (rest : List TeamMember) (bound : ℕ) (hbound : 1 ≤ bound) :
    ∃ t next, teamSchedule toLowerCase team strategy boundary first rest bound = .turn t next := by
  obtain ⟨n, rfl⟩ : ∃ n, bound = n + 1 := Nat.exists_eq_add_one.mpr hbound
  cases strategy with
  | sequential => exact ⟨_, _, rfl⟩
  | coordinator => exact ⟨_, _, rfl⟩
  | broadcast => exact ⟨_, _, rfl⟩
  | autonomous => exact ⟨_, _, rfl⟩

end Length

section Handoffs

def HandedOn (turns : List (Turn × JsString)) : Prop :=
  turns.IsChain fun a b => b.1.member.agentId ≠ a.1.member.agentId

theorem handoff_chain (toLowerCase : JsString → JsString) (team : Option TeamRow)
    (members : List TeamMember) (left : ℕ) (current : TeamMember) (turns : List (Turn × JsString))
    (rest : Schedule Turn JsString)
    (h : Path (handoffSchedule toLowerCase team members left current) turns rest) :
    HandedOn turns ∧ ∀ turn ∈ turns.head?, turn.1.member = current := by
  induction left generalizing current turns with
  | zero =>
    cases h with
    | nil => exact ⟨.nil, fun _ h => by cases h⟩
  | succ left ih =>
    cases h with
    | nil => exact ⟨.nil, fun _ h => by cases h⟩
    | cons t next reply turns left tail =>
      refine ⟨?_, fun turn hturn => by cases hturn; rfl⟩
      dsimp only at tail
      split_ifs at tail
      · cases tail with
        | nil => exact .singleton _
      · cases hnext : (nextMatch reply).bind (findByQuery toLowerCase (others members current)) with
        | none =>
          rw [hnext] at tail
          cases tail with
          | nil => exact .singleton _
        | some speaker =>
          rw [hnext] at tail
          obtain ⟨hchain, hhead⟩ := ih speaker turns tail
          refine List.isChain_cons.mpr ⟨fun turn hturn => ?_, hchain⟩
          rw [hhead turn hturn]
          exact (named_mem toLowerCase members current speaker _ hnext).2

end Handoffs

end Glassbeetle.ScheduleBounds
