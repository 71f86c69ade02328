import Glassbeetle.JsText
import Glassbeetle.Runs

set_option autoImplicit false

/-!
# The page of a team

The page follows the team in its route. A load is not cancelled when the route turns to
another team, and a write of the roster is followed by a second read of it.
-/
namespace Glassbeetle.TeamDetail
open JsText Runs

structure TeamMember where
  teamId : JsString
  agentId : JsString
  role : Option JsString
deriving DecidableEq

def rosterOf (teamId : JsString) (rows : List (JsString × Option JsString)) : List TeamMember :=
  rows.map fun row => ⟨teamId, row.1, row.2⟩

inductive Write where
  | addMember (agentId : JsString)
  | updateMember (agentId : JsString) (role : Option JsString)
  | reorderMembers (order : List JsString)
  | removeMember (agentId : JsString)

/-- A write of the roster waits for its answer, then for the team and the members it reads again. -/
inductive Stage where
  | writing
  | reading (teamId : JsString)

structure State where
  teamId : JsString
  /-- The id of the team that was read last. -/
  team : Option JsString
  members : List TeamMember
  loading : Bool
  busy : Bool
  error : Bool
  /-- Loads in flight. -/
  loads : List JsString
  writes : List Stage
  /-- Agents of which it is asked whether to take them off. -/
  confirmations : List JsString
  /-- The writes sent so far, each with the team in its URL. -/
  sent : List (JsString × Write)
  /-- The rosters that were on screen so far. -/
  displayed : List (List TeamMember)

def State.visible (s : State) : Bool := !s.loading && !s.error && s.team.isSome

def load (teamId : JsString) (s : State) : State :=
  { s with loading := true, error := false, loads := s.loads ++ [teamId] }

/-- A load succeeds or fails; an earlier failure stays on screen either way. -/
def receive (teamId : JsString) (s : State) : Option (List (JsString × Option JsString)) → State
  | some rows => { s with team := some teamId, members := rosterOf teamId rows, loading := false }
  | none => { s with team := none, error := true, loading := false }

def rosterWrite (write : Write) (s : State) : State :=
  { s with
    busy := true
    writes := s.writes ++ [.writing]
    sent := s.sent ++ [(s.teamId, write)] }

/-- The current team is read again after a write. -/
def written (k : ℕ) (ok : Bool) (s : State) : Stage → State
  | .writing =>
    if ok then { s with writes := s.writes.set k (.reading s.teamId) }
    else { s with writes := s.writes.eraseIdx k, busy := false }
  | .reading _ => s

def reread (k : ℕ) (rows : Option (List (JsString × Option JsString))) (s : State) : Stage → State
  | .writing => s
  | .reading teamId =>
    rows.elim { s with writes := s.writes.eraseIdx k, busy := false } fun rows =>
      { s with
        team := some teamId
        members := rosterOf teamId rows
        writes := s.writes.eraseIdx k
        busy := false }

def addAgent (agentId : JsString) (s : State) : State :=
  if agentId = [] ∨ s.busy then s else rosterWrite (.addMember agentId) s

def roleOf (raw : JsString) : Option JsString := if trim raw = [] then none else some (trim raw)

def setRole (agentId raw : JsString) (s : State) : State :=
  (s.members.find? fun member => member.agentId = agentId).elim s fun current =>
    if current.role = roleOf raw ∨ s.busy then s
    else rosterWrite (.updateMember agentId (roleOf raw)) s

def swap (order : List JsString) (index target : ℕ) (hi : index < order.length)
    (ht : target < order.length) : List JsString :=
  (order.set index order[target]).set target order[index]

def State.order (s : State) : List JsString := s.members.map TeamMember.agentId

def neighbour (index : ℕ) (later : Bool) : Option ℕ :=
  if later then some (index + 1) else if index = 0 then none else some (index - 1)

def move (index : ℕ) (later : Bool) (s : State) : State :=
  (neighbour index later).elim s fun target =>
    if h : index < s.order.length ∧ target < s.order.length then
      if s.busy then s else rosterWrite (.reorderMembers (swap s.order index target h.1 h.2)) s
    else s

/-- Once it is confirmed the agent is taken off, whatever else has happened since. -/
def confirmed (k : ℕ) (yes : Bool) (s : State) (agentId : JsString) : State :=
  if yes then rosterWrite (.removeMember agentId) { s with confirmations := s.confirmations.eraseIdx k }
  else { s with confirmations := s.confirmations.eraseIdx k }

inductive Event where
  | navigate (teamId : JsString)
  | retry
  | loaded (k : ℕ) (rows : Option (List (JsString × Option JsString)))
  | addAgent (agentId : JsString)
  | setRole (agentId raw : JsString)
  | move (index : ℕ) (later : Bool)
  | removeAgent (agentId : JsString)
  | confirmed (k : ℕ) (yes : Bool)
  | written (k : ℕ) (ok : Bool)
  | reread (k : ℕ) (rows : Option (List (JsString × Option JsString)))

/-- The controls of the roster are there while it is on screen. -/
def act (s : State) : Event → State
  | .navigate teamId => if teamId = s.teamId then s else load teamId { s with teamId := teamId }
  | .retry => if s.error ∧ !s.loading then load s.teamId s else s
  | .loaded k rows => (s.loads[k]?).elim s fun teamId =>
      receive teamId { s with loads := s.loads.eraseIdx k } rows
  | .addAgent agentId => if s.visible then TeamDetail.addAgent agentId s else s
  | .setRole agentId raw => if s.visible then TeamDetail.setRole agentId raw s else s
  | .move index later => if s.visible then TeamDetail.move index later s else s
  | .removeAgent agentId =>
    if s.visible ∧ !s.busy then { s with confirmations := s.confirmations ++ [agentId] } else s
  | .confirmed k yes => (s.confirmations[k]?).elim s (TeamDetail.confirmed k yes s)
  | .written k ok => (s.writes[k]?).elim s (TeamDetail.written k ok s)
  | .reread k rows => (s.writes[k]?).elim s (TeamDetail.reread k rows s)

def look (s : State) : State :=
  if s.visible then { s with displayed := s.displayed ++ [s.members] } else s

def step (s : State) (event : Event) : State := look (act s event)

def start (teamId : JsString) : State :=
  load teamId ⟨teamId, none, [], true, false, false, [], [], [], [], []⟩

/-- With nothing in flight the page shows the team of its route, or that it could not be loaded. -/
def Settled (s : State) : Prop :=
  s.loads = [] → s.writes = [] → s.loading = false ∧
    (s.error = false → s.team = some s.teamId ∧ ∀ member ∈ s.members, member.teamId = s.teamId)

/-- Each order that was sent is one of members that were displayed for the team it was sent to. -/
def Edits (s : State) : Prop := ∀ teamId order, (teamId, Write.reorderMembers order) ∈ s.sent →
  ∃ roster ∈ s.displayed, (∀ member ∈ roster, member.teamId = teamId) ∧
    order.Perm (roster.map TeamMember.agentId)

/-- An answer that comes to be on screen is about the team of the route. -/
def OnTime (s : State) : Event → Prop
  | .loaded k (some _) => s.error = false → ∀ teamId, s.loads[k]? = some teamId → teamId = s.teamId
  | .reread k (some _) => s.visible = true → ∀ teamId, s.writes[k]? = some (.reading teamId) →
      teamId = s.teamId
  | _ => True

/-- A team that is on screen is the one in the route, and one that is not has been asked for. -/
structure Current (s : State) : Prop where
  waiting : s.loading = true → s.teamId ∈ s.loads
  shown : s.loading = false → s.error = false →
    s.team = some s.teamId ∧ ∀ member ∈ s.members, member.teamId = s.teamId

theorem rosterOf_team (teamId : JsString) (rows : List (JsString × Option JsString)) :
    ∀ member ∈ rosterOf teamId rows, member.teamId = teamId := by
  intro member hmember
  obtain ⟨row, -, rfl⟩ := List.mem_map.mp hmember
  rfl

theorem visible_iff (s : State) :
    s.visible = true ↔ s.loading = false ∧ s.error = false ∧ s.team.isSome = true := by
  rw [State.visible, Bool.and_eq_true, Bool.and_eq_true, Bool.not_eq_true', Bool.not_eq_true',
    and_assoc]

section Steps
variable (s : State) (h : Current s)

theorem current_load (teamId : JsString) : Current (load teamId { s with teamId := teamId }) where
  waiting _ := List.mem_append_right _ (List.mem_singleton_self teamId)
  shown hidle := nomatch hidle

include h in
theorem current_kept (t : State) (hteam : t.teamId = s.teamId) (hloads : t.loads = s.loads)
    (hloading : t.loading = s.loading) (herror : t.error = s.error) (hshown : t.team = s.team)
    (hmembers : t.members = s.members) : Current t where
  waiting := by
    rw [hloading, hteam, hloads]
    exact h.waiting
  shown := by
    rw [hloading, herror, hteam, hshown, hmembers]
    exact h.shown

theorem current_receive (teamId : JsString) (loads : List JsString)
    (rows : Option (List (JsString × Option JsString)))
    (htime : ∀ answer, rows = some answer → s.error = false → teamId = s.teamId) :
    Current (receive teamId { s with loads := loads } rows) := by
  cases rows with
  | none => exact ⟨fun hloading => (nomatch hloading), fun _ herror => (nomatch herror)⟩
  | some rows =>
    refine ⟨fun hloading => (nomatch hloading), ?_⟩
    intro _ herror
    rw [htime rows rfl herror]
    exact ⟨rfl, rosterOf_team s.teamId rows⟩

include h in
theorem current_reread (k : ℕ) (teamId : JsString)
    (rows : Option (List (JsString × Option JsString)))
    (htime : ∀ answer, rows = some answer → s.visible = true → teamId = s.teamId) :
    Current (reread k rows s (.reading teamId)) := by
  cases rows with
  | none => exact current_kept s h _ rfl rfl rfl rfl rfl rfl
  | some rows =>
    refine ⟨h.waiting, ?_⟩
    intro hloading herror
    have hvisible : s.visible = true := by
      rw [visible_iff, (h.shown hloading herror).1]
      exact ⟨hloading, herror, rfl⟩
    rw [htime rows rfl hvisible]
    exact ⟨rfl, rosterOf_team s.teamId rows⟩

include h in
theorem current_rosterWrite (write : Write) : Current (rosterWrite write s) :=
  current_kept s h _ rfl rfl rfl rfl rfl rfl

include h in
theorem current_written (k : ℕ) (ok : Bool) (stage : Stage) : Current (written k ok s stage) := by
  cases stage with
  | reading teamId => exact h
  | writing =>
    cases ok with
    | true => exact current_kept s h _ rfl rfl rfl rfl rfl rfl
    | false => exact current_kept s h _ rfl rfl rfl rfl rfl rfl

include h in
theorem current_addAgent (agentId : JsString) : Current (addAgent agentId s) := by
  unfold addAgent
  split_ifs
  · exact h
  · exact current_rosterWrite s h _

include h in
theorem current_setRole (agentId raw : JsString) : Current (setRole agentId raw s) := by
  unfold setRole
  cases s.members.find? fun member => member.agentId = agentId with
  | none => exact h
  | some current =>
    rw [Option.elim_some]
    split_ifs
    · exact h
    · exact current_rosterWrite s h _

include h in
theorem current_move (index : ℕ) (later : Bool) : Current (move index later s) := by
  unfold move
  cases neighbour index later with
  | none => exact h
  | some target =>
    rw [Option.elim_some]
    split_ifs
    · exact h
    · exact current_rosterWrite s h _
    · exact h

include h in
theorem current_confirmed (k : ℕ) (yes : Bool) (agentId : JsString) :
    Current (confirmed k yes s agentId) := by
  cases yes with
  | true => exact current_kept s h _ rfl rfl rfl rfl rfl rfl
  | false => exact current_kept s h _ rfl rfl rfl rfl rfl rfl

include h in
/-- Each event keeps the team on screen the one in the route, if what it shows is on time. -/
theorem current_act (event : Event) (htime : OnTime s event) : Current (act s event) := by
  cases event with
  | navigate teamId =>
    rw [act]
    split_ifs
    · exact h
    · exact current_load s teamId
  | retry =>
    rw [act]
    split_ifs
    · exact current_load s s.teamId
    · exact h
  | loaded k rows =>
    rw [act]
    cases hk : s.loads[k]? with
    | none => exact h
    | some teamId =>
      apply current_receive
      rintro answer rfl herror
      exact htime herror teamId hk
  | addAgent agentId =>
    rw [act]
    split_ifs
    · exact current_addAgent s h agentId
    · exact h
  | setRole agentId raw =>
    rw [act]
    split_ifs
    · exact current_setRole s h agentId raw
    · exact h
  | move index later =>
    rw [act]
    split_ifs
    · exact current_move s h index later
    · exact h
  | removeAgent agentId =>
    rw [act]
    split_ifs
    · exact current_kept s h _ rfl rfl rfl rfl rfl rfl
    · exact h
  | confirmed k yes =>
    rw [act]
    cases s.confirmations[k]? with
    | none => exact h
    | some agentId => exact current_confirmed s h k yes agentId
  | written k ok =>
    rw [act]
    cases s.writes[k]? with
    | none => exact h
    | some stage => exact current_written s h k ok stage
  | reread k rows =>
    rw [act]
    cases hk : s.writes[k]? with
    | none => exact h
    | some stage =>
      cases stage with
      | writing => exact h
      | reading teamId =>
        apply current_reread s h
        rintro answer rfl hvisible
        exact htime hvisible teamId hk

end Steps

theorem swap_perm (order : List JsString) (index target : ℕ) (hi : index < order.length)
    (ht : target < order.length) : (swap order index target hi ht).Perm order :=
  List.set_set_perm hi ht

section Requests
variable (s : State) (h : Edits s)

include h in
theorem edits_kept (t : State) (hsent : t.sent = s.sent) (hdisplayed : t.displayed = s.displayed) :
    Edits t := by
  intro teamId order hmem
  rw [hsent] at hmem
  rw [hdisplayed]
  exact h teamId order hmem

include h in
theorem edits_rosterWrite (write : Write)
    (horder : ∀ order, write = .reorderMembers order → ∃ roster ∈ s.displayed,
      (∀ member ∈ roster, member.teamId = s.teamId) ∧ order.Perm (roster.map TeamMember.agentId)) :
    Edits (rosterWrite write s) := by
  intro teamId order hmem
  rcases List.mem_append.mp hmem with hold | hnew
  · exact h teamId order hold
  · obtain ⟨hteam, hwrite⟩ := Prod.mk.injEq .. ▸ List.mem_singleton.mp hnew
    rw [hteam]
    exact horder order hwrite.symm

include h in
theorem edits_write (write : Write) (hwrite : ∀ order, write ≠ .reorderMembers order) :
    Edits (rosterWrite write s) := by
  apply edits_rosterWrite s h
  intro order horder
  exact absurd horder (hwrite order)

include h in
theorem edits_addAgent (agentId : JsString) : Edits (addAgent agentId s) := by
  unfold addAgent
  split_ifs
  · exact h
  · apply edits_write s h
    intro order
    exact Write.noConfusion

include h in
theorem edits_setRole (agentId raw : JsString) : Edits (setRole agentId raw s) := by
  unfold setRole
  cases s.members.find? fun member => member.agentId = agentId with
  | none => exact h
  | some current =>
    rw [Option.elim_some]
    split_ifs
    · exact h
    · apply edits_write s h
      intro order
      exact Write.noConfusion

include h in
theorem edits_move (hseen : s.members ∈ s.displayed)
    (hteam : ∀ member ∈ s.members, member.teamId = s.teamId) (index : ℕ) (later : Bool) :
    Edits (move index later s) := by
  unfold move
  cases neighbour index later with
  | none => exact h
  | some target =>
    rw [Option.elim_some]
    split_ifs with hrow
    · exact h
    · apply edits_rosterWrite s h
      intro order horder
      rw [← Write.reorderMembers.inj horder]
      exact ⟨s.members, hseen, hteam, swap_perm s.order index target hrow.1 hrow.2⟩
    · exact h

include h in
theorem edits_confirmed (k : ℕ) (yes : Bool) (agentId : JsString) :
    Edits (confirmed k yes s agentId) := by
  cases yes with
  | false => exact edits_kept s h _ rfl rfl
  | true =>
    apply edits_write { s with confirmations := s.confirmations.eraseIdx k }
    · exact edits_kept s h _ rfl rfl
    · intro order
      exact Write.noConfusion

include h in
theorem edits_receive (teamId : JsString) (loads : List JsString)
    (rows : Option (List (JsString × Option JsString))) :
    Edits (receive teamId { s with loads := loads } rows) := by
  cases rows with
  | none => exact edits_kept s h _ rfl rfl
  | some rows => exact edits_kept s h _ rfl rfl

include h in
theorem edits_written (k : ℕ) (ok : Bool) (stage : Stage) : Edits (written k ok s stage) := by
  cases stage with
  | reading teamId => exact h
  | writing =>
    cases ok with
    | true => exact edits_kept s h _ rfl rfl
    | false => exact edits_kept s h _ rfl rfl

include h in
theorem edits_reread (k : ℕ) (rows : Option (List (JsString × Option JsString))) (stage : Stage) :
    Edits (reread k rows s stage) := by
  cases stage with
  | writing => exact h
  | reading teamId =>
    cases rows with
    | none => exact edits_kept s h _ rfl rfl
    | some rows => exact edits_kept s h _ rfl rfl

include h in
theorem edits_act (hcurrent : Current s) (hseen : s.visible = true → s.members ∈ s.displayed)
    (event : Event) : Edits (act s event) := by
  cases event with
  | navigate teamId =>
    rw [act]
    split_ifs
    · exact h
    · exact edits_kept s h _ rfl rfl
  | retry =>
    rw [act]
    split_ifs
    · exact edits_kept s h _ rfl rfl
    · exact h
  | loaded k rows =>
    rw [act]
    cases s.loads[k]? with
    | none => exact h
    | some teamId => exact edits_receive s h teamId _ rows
  | addAgent agentId =>
    rw [act]
    split_ifs
    · exact edits_addAgent s h agentId
    · exact h
  | setRole agentId raw =>
    rw [act]
    split_ifs
    · exact edits_setRole s h agentId raw
    · exact h
  | move index later =>
    rw [act]
    split_ifs with hvisible
    · obtain ⟨hloading, herror, -⟩ := (visible_iff s).mp hvisible
      exact edits_move s h (hseen hvisible) (hcurrent.shown hloading herror).2 index later
    · exact h
  | removeAgent agentId =>
    rw [act]
    split_ifs
    · exact edits_kept s h _ rfl rfl
    · exact h
  | confirmed k yes =>
    rw [act]
    cases s.confirmations[k]? with
    | none => exact h
    | some agentId => exact edits_confirmed s h k yes agentId
  | written k ok =>
    rw [act]
    cases s.writes[k]? with
    | none => exact h
    | some stage => exact edits_written s h k ok stage
  | reread k rows =>
    rw [act]
    cases s.writes[k]? with
    | none => exact h
    | some stage => exact edits_reread s h k rows stage

end Requests

structure Sound (s : State) : Prop where
  current : Current s
  edits : Edits s
  seen : s.visible = true → s.members ∈ s.displayed

theorem sound_look (s : State) (hcurrent : Current s) (hedits : Edits s) : Sound (look s) := by
  unfold look
  split_ifs with hvisible
  · refine ⟨current_kept s hcurrent _ rfl rfl rfl rfl rfl rfl, ?_, ?_⟩
    · intro teamId order hmem
      obtain ⟨roster, hroster, hperm⟩ := hedits teamId order hmem
      exact ⟨roster, List.mem_append_left _ hroster, hperm⟩
    · intro _
      exact List.mem_append_right _ (List.mem_singleton_self s.members)
  · exact ⟨hcurrent, hedits, fun hshown => absurd hshown hvisible⟩

theorem sound_step (s : State) (event : Event) (h : Sound s) (htime : OnTime s event) :
    Sound (step s event) :=
  sound_look (act s event) (current_act s h.current event htime)
    (edits_act s h.edits h.current h.seen event)

theorem sound_start (teamId : JsString) : Sound (start teamId) where
  current := current_load ⟨teamId, none, [], true, false, false, [], [], [], [], []⟩ teamId
  edits _ _ hmem := (List.not_mem_nil hmem).elim
  seen hvisible := nomatch hvisible

theorem settled_of_current (s : State) (h : Current s) : Settled s := by
  intro hloads _
  have hidle : s.loading = false := by
    by_contra hloading
    have hmem := h.waiting (eq_true_of_ne_false hloading)
    rw [hloads] at hmem
    exact List.not_mem_nil hmem
  exact ⟨hidle, h.shown hidle⟩

def Misplaced (s : State) : Prop := s.visible = true ∧ s.team ≠ some s.teamId

theorem misplaced_look (s : State) (h : Misplaced s) : Misplaced (look s) := by
  unfold look
  rw [if_pos h.1]
  exact h

theorem late_misplaces (s : State) (event : Event) (h : ¬OnTime s event) :
    Misplaced (step s event) := by
  apply misplaced_look
  cases event with
  | loaded k rows =>
    cases rows with
    | none => exact absurd trivial h
    | some rows =>
      simp only [OnTime, Classical.not_imp, not_forall] at h
      obtain ⟨herror, teamId, hk, hother⟩ := h
      rw [act, hk]
      refine ⟨(visible_iff _).mpr ⟨rfl, herror, rfl⟩, ?_⟩
      intro hteam
      exact hother (Option.some.inj hteam)
  | reread k rows =>
    cases rows with
    | none => exact absurd trivial h
    | some rows =>
      simp only [OnTime, Classical.not_imp, not_forall] at h
      obtain ⟨hvisible, teamId, hk, hother⟩ := h
      obtain ⟨hloading, herror, -⟩ := (visible_iff s).mp hvisible
      rw [act, hk]
      refine ⟨(visible_iff _).mpr ⟨hloading, herror, rfl⟩, ?_⟩
      intro hteam
      exact hother (Option.some.inj hteam)
  | navigate | retry | addAgent | setRole | move | removeAgent | confirmed | written =>
    exact absurd trivial h

/-- A page whose answers are all on time settles on the team of its route and sends orders of that
team only, and each answer that is not shows another team. -/
theorem shows_one_team (teamId : JsString) (events : List Event) :
    (Allowed step OnTime (start teamId) events →
      ∀ s ∈ states step (start teamId) events, Settled s ∧ Edits s) ∧
    ∀ event, ¬OnTime (events.foldl step (start teamId)) event →
      Misplaced ((events ++ [event]).foldl step (start teamId)) := by
  constructor
  · intro htime s hs
    have hsound := run_invariant step OnTime Sound sound_step (start teamId) events
      (sound_start teamId) htime s hs
    exact ⟨settled_of_current s hsound.current, hsound.edits⟩
  · intro event hlate
    rw [List.foldl_append]
    exact late_misplaces _ event hlate

def oneTeam : List Event :=
  [.loaded 0 (some [([7], none), ([8], none)]), .move 0 true, .written 0 true,
    .reread 0 (some [([8], none), ([7], none)])]

theorem shows_one_team_oneTeam : Settled (oneTeam.foldl step (start [1])) := by
  have hrun := (shows_one_team [1] oneTeam).1
  refine (hrun ⟨?_, trivial, trivial, ?_, trivial⟩ _ (final_mem step _ oneTeam)).1
  · intro _ teamId hk
    exact (Option.some.inj hk).symm
  · intro _ teamId hk
    exact (Stage.reading.inj (Option.some.inj hk)).symm

def crossing : List Event :=
  [.navigate [2], .loaded 1 (some [([5], none), ([6], none)]),
    .loaded 0 (some [([7], none), ([8], none)]), .move 0 true]

/-- The second page settles on the first team, and its order is sent to the second. -/
theorem crossing_misplaces :
    ¬(∀ s ∈ states step (start [1]) crossing, Settled s) ∧
      ¬∀ s ∈ states step (start [1]) crossing, Edits s := by
  constructor
  · intro h
    have hsettled := h _ (List.mem_of_getElem? (i := 3) rfl)
    have hteam := ((hsettled rfl rfl).2 rfl).1
    exact absurd hteam (by decide)
  · intro h
    obtain ⟨roster, hroster, hteam, hperm⟩ := h _ (final_mem step _ crossing) [2] [[8], [7]]
      (List.mem_singleton_self _)
    change roster ∈ [rosterOf [2] [([5], none), ([6], none)], rosterOf [1] [([7], none), ([8], none)],
      rosterOf [1] [([7], none), ([8], none)]] at hroster
    simp only [List.mem_cons, List.not_mem_nil, or_false] at hroster
    rcases hroster with rfl | rfl | rfl
    · exact absurd (hperm.mem_iff.mp List.mem_cons_self) (by decide)
    · exact absurd (hteam _ List.mem_cons_self) (by decide)
    · exact absurd (hteam _ List.mem_cons_self) (by decide)

end Glassbeetle.TeamDetail
