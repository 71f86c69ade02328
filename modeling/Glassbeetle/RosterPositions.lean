import Glassbeetle.Runs
import Glassbeetle.TeamMembers

set_option autoImplicit false

namespace Glassbeetle.RosterPositions
open JsText Database ExecutionChain TeamMembers

/-- `0, 1, …, n - 1` -/
def numbers (n : ℕ) : List (Option ℤ) := (List.range n).map fun k : ℕ => some (k : ℤ)

def DenseRows (rows : List TeamMemberRow) : Prop :=
  (rows.map (·.position)).Perm (numbers rows.length)

theorem numbers_succ (n : ℕ) : numbers (n + 1) = numbers n ++ [some (n : ℤ)] := by
  unfold numbers
  rw [List.range_succ, List.map_append, List.map_singleton]

section Placing

variable (teamId : JsString)

theorem placeRow_key (agentId : JsString) (index : ℕ) (row : TeamMemberRow) :
    (placeRow teamId agentId index row).teamId = row.teamId ∧
      (placeRow teamId agentId index row).agentId = row.agentId := by
  unfold placeRow
  split_ifs <;> exact ⟨rfl, rfl⟩

def placed (index : ℕ) (ids : List JsString) (row : TeamMemberRow) : TeamMemberRow :=
  if row.teamId = teamId ∧ row.agentId ∈ ids then
    { row with position := some ((index + ids.idxOf row.agentId : ℕ) : ℤ) }
  else row

theorem place_eq (index : ℕ) (ids : List JsString) (rows : List TeamMemberRow)
    (hnodup : ids.Nodup) : place teamId index ids rows = rows.map (placed teamId index ids) := by
  induction ids generalizing index rows with
  | nil =>
    have hsame (row : TeamMemberRow) : placed teamId index [] row = row := by simp [placed]
    rw [place, List.map_congr_left fun row _ => hsame row, List.map_id']
  | cons id rest ih =>
    rw [List.nodup_cons] at hnodup
    rw [place, ih _ _ hnodup.2, List.map_map]
    refine List.map_congr_left fun row _ => ?_
    unfold Function.comp placed
    rw [(placeRow_key teamId id index row).1, (placeRow_key teamId id index row).2]
    by_cases hteam : row.teamId = teamId
    · by_cases hid : row.agentId = id
      · have hnot : row.agentId ∉ rest := by rw [hid]; exact hnodup.1
        simp [placeRow, isMember, hteam, hid, hnodup.1]
      · have hne : ¬id = row.agentId := fun h => hid h.symm
        by_cases hin : row.agentId ∈ rest
        · simp [placeRow, isMember, hteam, hid, hin, List.idxOf_cons_ne _ hne]
          omega
        · simp [placeRow, isMember, hteam, hid, hin]
    · simp [placeRow, isMember, hteam]

theorem placed_onTeam (index : ℕ) (ids : List JsString) (row : TeamMemberRow) (other : JsString) :
    onTeam other (placed teamId index ids row) = onTeam other row := by
  unfold placed
  split_ifs <;> rfl

theorem filter_place (ids : List JsString) (rows : List TeamMemberRow) (hnodup : ids.Nodup)
    (other : JsString) : (place teamId 0 ids rows).filter (onTeam other) =
      (rows.filter (onTeam other)).map (placed teamId 0 ids) := by
  rw [place_eq teamId 0 ids rows hnodup, List.filter_map]
  exact congrArg _ (List.filter_congr fun row _ => placed_onTeam teamId 0 ids row other)

theorem place_dense (ids : List JsString) (rows : List TeamMemberRow) (hnodup : ids.Nodup)
    (hids : ((rows.filter (onTeam teamId)).map (·.agentId)).Perm ids) :
    DenseRows ((place teamId 0 ids rows).filter (onTeam teamId)) := by
  have hposition : ∀ row ∈ rows.filter (onTeam teamId),
      (placed teamId 0 ids row).position = some ((ids.idxOf row.agentId : ℕ) : ℤ) := by
    intro row hrow
    have hteam : row.teamId = teamId := by simpa [onTeam] using (List.mem_filter.mp hrow).2
    have hin : row.agentId ∈ ids := hids.mem_iff.mp (List.mem_map_of_mem hrow)
    rw [placed, if_pos ⟨hteam, hin⟩, Nat.zero_add]
  have hlength : (rows.filter (onTeam teamId)).length = ids.length := by
    rw [← hids.length_eq, List.length_map]
  unfold DenseRows
  rw [filter_place teamId ids rows hnodup teamId, List.map_map, List.length_map, hlength]
  have hindices : ids.map (fun id => some ((ids.idxOf id : ℕ) : ℤ)) = numbers ids.length := by
    refine List.ext_getElem (by simp [numbers]) fun k h1 h2 => ?_
    simp [numbers, hnodup.idxOf_getElem]
  rw [← hindices]
  have hmap : (rows.filter (onTeam teamId)).map ((·.position) ∘ placed teamId 0 ids) =
      ((rows.filter (onTeam teamId)).map (·.agentId)).map
        fun id => some ((ids.idxOf id : ℕ) : ℤ) := by
    rw [List.map_map]
    exact List.map_congr_left hposition
  rw [hmap]
  exact hids.map _

theorem place_other (ids : List JsString) (rows : List TeamMemberRow) (hnodup : ids.Nodup)
    (other : JsString) (hne : other ≠ teamId) :
    (place teamId 0 ids rows).filter (onTeam other) = rows.filter (onTeam other) := by
  rw [filter_place teamId ids rows hnodup other]
  refine (List.map_congr_left fun row hrow => ?_).trans (List.map_id _)
  have hteam : row.teamId = other := by simpa [onTeam] using (List.mem_filter.mp hrow).2
  exact if_neg fun h => hne (hteam.symm.trans h.1)

end Placing

section Steps

variable {ν : Type}

def Dense (db : Tables ν) : Prop := ∀ teamId, DenseRows (members db teamId)

/-- `PRIMARY KEY (team_id, agent_id)` -/
def Keyed (db : Tables ν) : Prop := (db.teamMembers.map fun row => (row.teamId, row.agentId)).Nodup

theorem place_keys (teamId : JsString) (ids : List JsString) (rows : List TeamMemberRow)
    (hnodup : ids.Nodup) :
    (place teamId 0 ids rows).map (fun row => (row.teamId, row.agentId)) =
      rows.map fun row => (row.teamId, row.agentId) := by
  rw [place_eq teamId 0 ids rows hnodup, List.map_map]
  refine List.map_congr_left fun row _ => ?_
  unfold Function.comp placed
  split_ifs <;> rfl

theorem members_nodup (db : Tables ν) (hkeyed : Keyed db) (teamId : JsString) :
    ((members db teamId).map (·.agentId)).Nodup := by
  have hpairs : ((members db teamId).map fun row => (row.teamId, row.agentId)).Nodup :=
    hkeyed.sublist (List.filter_sublist.map _)
  have hpair : (members db teamId).map (fun row => (row.teamId, row.agentId)) =
      ((members db teamId).map (·.agentId)).map fun id => (teamId, id) := by
    rw [List.map_map]
    refine List.map_congr_left fun row hrow => ?_
    have hteam : row.teamId = teamId := by simpa [members, onTeam] using (List.mem_filter.mp hrow).2
    rw [hteam]
    rfl
  rw [hpair] at hpairs
  exact hpairs.of_map _

theorem nextPosition_dense (db : Tables ν) (teamId : JsString)
    (h : DenseRows (members db teamId)) : nextPosition db teamId = (members db teamId).length := by
  have hperm : ((members db teamId).filterMap (·.position)).Perm
      ((List.range (members db teamId).length).map fun k : ℕ => (k : ℤ)) := by
    have hid := h.filterMap id
    rw [List.filterMap_map, numbers, List.filterMap_map] at hid
    simpa using hid
  unfold nextPosition
  generalize (members db teamId).length = n at hperm
  split
  · rename_i last hlast
    obtain ⟨hin, hmax⟩ := List.max?_eq_some_iff.mp hlast
    obtain ⟨k, hk, rfl⟩ := List.mem_map.mp (hperm.mem_iff.mp hin)
    have hle := hmax ((n - 1 : ℕ) : ℤ) (hperm.mem_iff.mpr (List.mem_map_of_mem
      (List.mem_range.mpr (by have := List.mem_range.mp hk; omega))))
    have := List.mem_range.mp hk
    omega
  · rename_i hnone
    rw [List.max?_eq_none_iff] at hnone
    rw [hnone] at hperm
    have := hperm.length_eq
    simp at this
    omega

theorem add_ok (db : Tables ν) (teamId : JsString) (dto : AddTeamMemberDto)
    (now touched : JsString) (row : TeamMemberRow) (after : Tables ν)
    (h : add db teamId dto now touched = .ok (row, after)) :
    after.teamMembers = db.teamMembers ++ [row] ∧
      row.position = some (nextPosition db teamId) ∧ row.teamId = teamId ∧
      (row.teamId, row.agentId) ∉ db.teamMembers.map fun row => (row.teamId, row.agentId) := by
  obtain ⟨team, -, h⟩ := ok_of_bind _ _ _ h
  split at h
  · cases h
  · split at h
    · cases h
    · rename_i hnone
      obtain ⟨rfl, rfl⟩ := Prod.mk.inj (Except.ok.inj h)
      refine ⟨rfl, rfl, rfl, fun hin => ?_⟩
      obtain ⟨other, hother, heq⟩ := List.mem_map.mp hin
      have := List.find?_eq_none.mp hnone other hother
      obtain ⟨hteam, hagent⟩ := Prod.mk.inj heq
      exact this (by simp [isMember, hteam, hagent])

theorem add_step (db : Tables ν) (teamId : JsString) (dto : AddTeamMemberDto)
    (now touched : JsString) (row : TeamMemberRow) (after : Tables ν)
    (h : add db teamId dto now touched = .ok (row, after)) (hdense : Dense db)
    (hkeyed : Keyed db) : Dense after ∧ Keyed after := by
  obtain ⟨hrows, hposition, hteam, hfresh⟩ := add_ok db teamId dto now touched row after h
  constructor
  · intro other
    unfold members
    rw [hrows, List.filter_append]
    by_cases hsame : other = teamId
    · have hlast : [row].filter (onTeam other) = [row] := by simp [onTeam, hteam, hsame]
      have hnext := nextPosition_dense db teamId (hdense teamId)
      rw [hlast, hsame]
      change DenseRows (members db teamId ++ [row])
      unfold DenseRows
      have hlength : (members db teamId ++ [row]).length = (members db teamId).length + 1 :=
        List.length_append
      rw [hlength, numbers_succ, List.map_append, List.map_singleton, hposition, hnext]
      exact (hdense teamId).append_right _
    · have hnone : [row].filter (onTeam other) = [] := by simp [onTeam, hteam, Ne.symm hsame]
      rw [hnone, List.append_nil]
      exact hdense other
  · unfold Keyed
    rw [hrows, List.map_append, List.map_singleton, List.nodup_append_comm]
    exact List.nodup_cons.mpr ⟨hfresh, hkeyed⟩

theorem update_rows (db : Tables ν) (teamId agentId : JsString) (role : Option (Option JsString))
    (touched : JsString) (row : TeamMemberRow) (after : Tables ν)
    (h : update db teamId agentId role touched = .ok (row, after)) :
    ∃ change : TeamMemberRow → Option JsString,
      after.teamMembers = db.teamMembers.map fun row => { row with role := change row } := by
  have hsame : db.teamMembers = db.teamMembers.map fun row => { row with role := row.role } :=
    (List.map_id _).symm
  obtain ⟨existing, -, h⟩ := ok_of_bind _ _ _ h
  cases role with
  | none =>
    obtain ⟨-, rfl⟩ := Prod.mk.inj (Except.ok.inj h)
    exact ⟨_, hsame⟩
  | some value =>
    dsimp only at h
    split_ifs at h
    · obtain ⟨-, rfl⟩ := Prod.mk.inj (Except.ok.inj h)
      exact ⟨_, hsame⟩
    · obtain ⟨-, rfl⟩ := Prod.mk.inj (Except.ok.inj h)
      refine ⟨fun row => if isMember teamId agentId row then value else row.role,
        List.map_congr_left fun row _ => ?_⟩
      by_cases hmember : isMember teamId agentId row = true <;> simp [hmember]

theorem roles_dense (db after : Tables ν) (change : TeamMemberRow → Option JsString)
    (h : after.teamMembers = db.teamMembers.map fun row => { row with role := change row })
    (hdense : Dense db) : Dense after := by
  intro teamId
  have hrows : members after teamId =
      (members db teamId).map fun row => { row with role := change row } := by
    unfold members
    rw [h, List.filter_map]
    rfl
  unfold DenseRows
  rw [hrows, List.map_map, List.length_map]
  exact hdense teamId

theorem roles_keyed (db after : Tables ν) (change : TeamMemberRow → Option JsString)
    (h : after.teamMembers = db.teamMembers.map fun row => { row with role := change row })
    (hkeyed : Keyed db) : Keyed after := by
  unfold Keyed
  rw [h, List.map_map]
  exact hkeyed

/-- Placing the members of one team leaves every team dense, if the rows of the others are as
they were. -/
theorem place_step (db after : Tables ν) (teamId : JsString) (ids : List JsString)
    (rows : List TeamMemberRow) (hafter : after.teamMembers = place teamId 0 ids rows)
    (hrows : rows.Sublist db.teamMembers)
    (hothers : ∀ other, other ≠ teamId → rows.filter (onTeam other) = members db other)
    (hids : ((rows.filter (onTeam teamId)).map (·.agentId)).Perm ids) (hnodup : ids.Nodup)
    (hdense : Dense db) (hkeyed : Keyed db) : Dense after ∧ Keyed after := by
  constructor
  · intro other
    unfold members
    rw [hafter]
    by_cases hsame : other = teamId
    · rw [hsame]
      exact place_dense teamId ids rows hnodup hids
    · rw [place_other teamId ids rows hnodup other hsame, hothers other hsame]
      exact hdense other
  · unfold Keyed
    rw [hafter, place_keys teamId ids rows hnodup]
    exact hkeyed.sublist (hrows.map _)

theorem remove_step (db : Tables ν) (teamId agentId touched : JsString) (after : Tables ν)
    (h : remove db teamId agentId touched = .ok after) (hdense : Dense db) (hkeyed : Keyed db) :
    Dense after ∧ Keyed after := by
  obtain ⟨-, -, h⟩ := ok_of_bind _ _ _ h
  rw [← Except.ok.inj h]
  have hrows : (db.teamMembers.filter fun row => !isMember teamId agentId row).Sublist
      db.teamMembers := List.filter_sublist
  have hsorted := (List.perm_insertionSort (fun a b => rosterLe a b = true)
    ((db.teamMembers.filter fun row => !isMember teamId agentId row).filter (onTeam teamId))).symm
  have hunique : (((db.teamMembers.filter fun row => !isMember teamId agentId row).filter
      (onTeam teamId)).map (·.agentId)).Nodup :=
    (members_nodup db hkeyed teamId).sublist ((hrows.filter _).map _)
  refine place_step db _ teamId _ _ rfl hrows (fun other hne => ?_) (hsorted.map _)
    ((hsorted.map _).nodup_iff.mp hunique) hdense hkeyed
  unfold members
  rw [List.filter_filter]
  refine List.filter_congr fun row _ => ?_
  by_cases hteam : row.teamId = other
  · have hnot : row.teamId ≠ teamId := fun h => hne (hteam.symm.trans h)
    simp [onTeam, isMember, hteam, hne]
  · simp [onTeam, hteam]

theorem reorder_step (db : Tables ν) (teamId : JsString) (agentIds : List JsString)
    (touched : JsString) (after : Tables ν)
    (h : reorder db teamId agentIds touched = .ok after) (hdense : Dense db)
    (hkeyed : Keyed db) : Dense after ∧ Keyed after := by
  obtain ⟨-, -, h⟩ := ok_of_bind _ _ _ h
  split_ifs at h with hrepeat hmismatch
  rw [← Except.ok.inj h]
  have hsorted : sortIds ((members db teamId).map (·.agentId)) = sortIds agentIds :=
    not_ne_iff.mp hmismatch
  have hids : ((members db teamId).map (·.agentId)).Perm agentIds := by
    refine (List.perm_insertionSort (fun a b => textLe a b = true) _).symm.trans ?_
    exact (List.Perm.of_eq hsorted).trans (List.perm_insertionSort _ _)
  exact place_step db _ teamId agentIds db.teamMembers rfl (List.Sublist.refl _) (fun _ _ => rfl) hids
    hrepeat hdense hkeyed

theorem deleteTeam_step (db : Tables ν) (teamId : JsString) (after : Tables ν)
    (h : deleteTeam db teamId = .ok after) (hdense : Dense db) (hkeyed : Keyed db) :
    Dense after ∧ Keyed after := by
  have hrows : after.teamMembers = db.teamMembers.filter fun row => row.teamId ≠ teamId := by
    obtain ⟨-, -, h⟩ := ok_of_bind _ _ _ h
    unfold Tables.deleteTeam at h
    split_ifs at h
    rw [← Except.ok.inj h]
  constructor
  · intro other
    unfold members
    rw [hrows, List.filter_filter]
    by_cases hsame : other = teamId
    · have hnone : (db.teamMembers.filter fun row => onTeam other row && decide (row.teamId ≠ teamId))
          = [] := by
        refine List.filter_eq_nil_iff.mpr fun row _ => ?_
        simp [onTeam, hsame]
      rw [hnone]
      exact List.Perm.refl _
    · have hkept : (db.teamMembers.filter fun row => onTeam other row && decide (row.teamId ≠ teamId))
          = members db other := by
        refine List.filter_congr fun row _ => ?_
        by_cases hteam : row.teamId = other
        · simp [onTeam, hteam, hsame]
        · simp [onTeam, hteam]
      rw [hkept]
      exact hdense other
  · unfold Keyed
    rw [hrows]
    exact hkeyed.sublist (List.filter_sublist.map _)

/-- The agent, where it is a member, is the last one. -/
def LastOf (rows : List TeamMemberRow) (id : JsString) : Prop :=
  ∀ row ∈ rows, row.agentId = id → row.position = some ((rows.length : ℤ) - 1)

theorem numbers_succ_perm (n : ℕ) : (numbers (n + 1)).Perm (some (n : ℤ) :: numbers n) := by
  rw [numbers_succ]
  exact List.perm_append_singleton _ _

theorem perm_head {α : Type} [DecidableEq α] (a b : α) (l : List α)
    (h : (a :: l).Perm (b :: l)) : a = b := by
  by_contra hne
  have hcount := h.count_eq a
  rw [List.count_cons_self, List.count_cons_of_ne (Ne.symm hne)] at hcount
  omega

/-- A deletion leaves a roster without a gap exactly when it takes away the last. -/
theorem filter_dense (rows : List TeamMemberRow) (id : JsString)
    (hunique : (rows.map (·.agentId)).Nodup) (hdense : DenseRows rows) :
    DenseRows (rows.filter fun row => row.agentId ≠ id) ↔ LastOf rows id := by
  by_cases hin : ∃ row ∈ rows, row.agentId = id
  · obtain ⟨row, hrow, hid⟩ := hin
    obtain ⟨before, after, rfl⟩ := List.append_of_mem hrow
    have hothers : ∀ other ∈ before ++ after, other.agentId ≠ id := by
      rw [List.map_append, List.map_cons, hid, List.nodup_middle, List.nodup_cons,
        ← List.map_append] at hunique
      exact fun other hother h => hunique.1 (h ▸ List.mem_map_of_mem hother)
    have hrest : ((before ++ row :: after).filter fun row => row.agentId ≠ id) = before ++ after := by
      have hkept : (before ++ after).filter (fun row => decide (row.agentId ≠ id)) =
          before ++ after :=
        List.filter_eq_self.mpr fun other hother => decide_eq_true (hothers other hother)
      rw [← hkept, List.filter_append, List.filter_append, List.filter_cons_of_neg (by simp [hid])]
    have hlength : (before ++ row :: after).length = (before ++ after).length + 1 := by
      simp only [List.length_append, List.length_cons]
      omega
    have hperm : (row.position :: (before ++ after).map (·.position)).Perm
        (some ((before ++ after).length : ℤ) :: numbers (before ++ after).length) := by
      have hall := hdense
      unfold DenseRows at hall
      rw [hlength, List.map_append, List.map_cons] at hall
      rw [List.map_append]
      exact (List.perm_middle.symm.trans hall).trans (numbers_succ_perm _)
    have hlast : LastOf (before ++ row :: after) id ↔
        row.position = some ((before ++ after).length : ℤ) := by
      unfold LastOf
      rw [hlength]
      push_cast
      rw [add_sub_cancel_right]
      constructor
      · exact fun h => h row hrow hid
      · intro h other hother hsame
        rcases List.mem_append.mp hother with hin | hin
        · exact absurd hsame (hothers other (List.mem_append_left _ hin))
        · rcases List.mem_cons.mp hin with rfl | hin
          · exact h
          · exact absurd hsame (hothers other (List.mem_append_right _ hin))
    rw [hrest, hlast]
    constructor
    · intro hdense'
      exact perm_head _ _ (numbers (before ++ after).length) ((hdense'.symm.cons _).trans hperm)
    · intro h
      rw [h] at hperm
      exact hperm.cons_inv
  · have hkept : (rows.filter fun row => decide (row.agentId ≠ id)) = rows :=
      List.filter_eq_self.mpr fun row hrow =>
        decide_eq_true fun h => hin ⟨row, hrow, h⟩
    rw [hkept]
    exact iff_of_true hdense fun row hrow h => absurd ⟨row, hrow, h⟩ hin

def LastOnTeams (db : Tables ν) (id : JsString) : Prop := ∀ teamId, LastOf (members db teamId) id

theorem deleteAgent_step (db : Tables ν) (id : JsString) (after : Tables ν)
    (h : deleteAgent db id = .ok after) (hdense : Dense db) (hkeyed : Keyed db) :
    Keyed after ∧ (Dense after ↔ LastOnTeams db id) := by
  have hrows : after.teamMembers = db.teamMembers.filter fun row => row.agentId ≠ id := by
    unfold deleteAgent Tables.deleteAgent at h
    split_ifs at h
    simp only [Except.ok.injEq] at h
    rw [← h]
  constructor
  · unfold Keyed
    rw [hrows]
    exact hkeyed.sublist (List.filter_sublist.map _)
  · refine forall_congr' fun teamId => ?_
    rw [← filter_dense _ id (members_nodup db hkeyed teamId) (hdense teamId)]
    unfold members
    rw [hrows, List.filter_filter, List.filter_filter]
    simp only [Bool.and_comm]

/-- What can happen to the table; another service may change anything else. -/
inductive RosterAction (ν : Type) where
  | add (teamId : JsString) (dto : AddTeamMemberDto) (now touched : JsString)
  | update (teamId agentId : JsString) (role : Option (Option JsString)) (touched : JsString)
  | remove (teamId agentId touched : JsString)
  | reorder (teamId : JsString) (agentIds : List JsString) (touched : JsString)
  | deleteTeam (teamId : JsString)
  | deleteAgent (id : JsString)
  | elsewhere (change : Tables ν → Tables ν)

/-- An operation that throws changes nothing. -/
def committed (db : Tables ν) (r : Except Failure (Tables ν)) : Tables ν :=
  match r with
  | .ok after => after
  | .error _ => db

def step (db : Tables ν) : RosterAction ν → Tables ν
  | .add teamId dto now touched => committed db ((add db teamId dto now touched).map Prod.snd)
  | .update teamId agentId role touched =>
    committed db ((update db teamId agentId role touched).map Prod.snd)
  | .remove teamId agentId touched => committed db (remove db teamId agentId touched)
  | .reorder teamId agentIds touched => committed db (reorder db teamId agentIds touched)
  | .deleteTeam teamId => committed db (deleteTeam db teamId)
  | .deleteAgent id => committed db (deleteAgent db id)
  | .elsewhere change => { change db with teamMembers := db.teamMembers }

/-- An agent that is deleted is the last of every team it is on. -/
def LeavesNoGap (db : Tables ν) : RosterAction ν → Prop
  | .deleteAgent id => (∃ after, deleteAgent db id = .ok after) → LastOnTeams db id
  | _ => True

theorem committed_keeps (db : Tables ν) (r : Except Failure (Tables ν)) (P : Tables ν → Prop)
    (h : ∀ after, r = .ok after → P after) (hdb : P db) : P (committed db r) := by
  cases r with
  | ok after => exact h after rfl
  | error e => exact hdb

theorem of_map_snd {α : Type} (r : Except Failure (α × Tables ν)) (after : Tables ν)
    (h : r.map Prod.snd = .ok after) : ∃ a, r = .ok (a, after) := by
  cases r with
  | error e => cases h
  | ok p => exact ⟨p.1, by rw [← Except.ok.inj h]⟩

theorem step_spec (db : Tables ν) (action : RosterAction ν) (hkeyed : Keyed db)
    (hdense : Dense db) :
    Keyed (step db action) ∧ (Dense (step db action) ↔ LeavesNoGap db action) := by
  have hboth : ∀ r : Except Failure (Tables ν), (∀ after, r = .ok after → Dense after ∧ Keyed after) →
      Keyed (committed db r) ∧ (Dense (committed db r) ↔ True) := by
    intro r h
    have hall := committed_keeps db r (fun db => Dense db ∧ Keyed db) h ⟨hdense, hkeyed⟩
    exact ⟨hall.2, iff_of_true hall.1 trivial⟩
  cases action with
  | add teamId dto now touched =>
    refine hboth _ fun after h => ?_
    obtain ⟨row, hrow⟩ := of_map_snd _ after h
    exact add_step db teamId dto now touched row after hrow hdense hkeyed
  | update teamId agentId role touched =>
    refine hboth _ fun after h => ?_
    obtain ⟨row, hrow⟩ := of_map_snd _ after h
    obtain ⟨change, hchange⟩ := update_rows db teamId agentId role touched row after hrow
    exact ⟨roles_dense db after change hchange hdense, roles_keyed db after change hchange hkeyed⟩
  | remove teamId agentId touched =>
    exact hboth _ fun after h => remove_step db teamId agentId touched after h hdense hkeyed
  | reorder teamId agentIds touched =>
    exact hboth _ fun after h => reorder_step db teamId agentIds touched after h hdense hkeyed
  | deleteTeam teamId => exact hboth _ fun after h => deleteTeam_step db teamId after h hdense hkeyed
  | deleteAgent id =>
    change Keyed (committed db (deleteAgent db id)) ∧ (Dense (committed db (deleteAgent db id)) ↔
      ((∃ after, deleteAgent db id = .ok after) → LastOnTeams db id))
    cases hr : deleteAgent db id with
    | error e => exact ⟨hkeyed, iff_of_true hdense fun h => by obtain ⟨after, hok⟩ := h; cases hok⟩
    | ok after =>
      obtain ⟨hkeyed', hiff⟩ := deleteAgent_step db id after hr hdense hkeyed
      exact ⟨hkeyed', hiff.trans ⟨fun h _ => h, fun h => h ⟨after, rfl⟩⟩⟩
  | elsewhere change => exact ⟨hkeyed, iff_of_true hdense trivial⟩

/-- From an empty table, the positions of every team are dense in every state of a run exactly when
each agent that is deleted is the last of its teams. -/
theorem positions_dense (db : Tables ν) (actions : List (RosterAction ν)) :
    (∀ s ∈ Runs.states step { db with teamMembers := [] } actions, Dense s) ↔
      Runs.Allowed step LeavesNoGap { db with teamMembers := [] } actions :=
  Runs.run_iff step LeavesNoGap Keyed Dense
    (fun s action hkeyed hdense => (step_spec s action hkeyed hdense).1)
    (fun s action hkeyed hdense => (step_spec s action hkeyed hdense).2) _ actions
    List.nodup_nil fun _ => List.Perm.refl _

end Steps

def bareAgent (name : String) : AgentRow ℤ :=
  ⟨js name, js name, none, none, none, none, none, none, none⟩

def emptyTeam : Tables ℤ where
  agents := [bareAgent "Ann", bareAgent "Bob"]
  models := []
  providers := []
  credentials := []
  systemPrompts := []
  teams := [⟨js "t", js "T", none, none, []⟩]
  teamMembers := []
  chats := []
  messages := []
  usageEvents := []

/-- Ann and Bob join a team, Ann is deleted, and Bob stays at position 1. -/
theorem deleted_agent_leaves_gap :
    ¬∀ s ∈ Runs.states step { emptyTeam with teamMembers := [] }
      [.add (js "t") ⟨js "Ann", none⟩ [] [], .add (js "t") ⟨js "Bob", none⟩ [] [],
        .deleteAgent (js "Ann")], Dense s := by
  intro h
  have hgap : ¬DenseRows (members (step (step (step { emptyTeam with teamMembers := [] }
      (.add (js "t") ⟨js "Ann", none⟩ [] [])) (.add (js "t") ⟨js "Bob", none⟩ [] []))
        (.deleteAgent (js "Ann"))) (js "t")) := by
    unfold DenseRows
    decide +kernel
  exact hgap (h _ (by simp [Runs.states]) (js "t"))

end Glassbeetle.RosterPositions
