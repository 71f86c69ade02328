import Glassbeetle.ExecutionChain

set_option autoImplicit false

/-!
# Who is on a team, and in what order

`team-members.service.ts`, with the deletions of the two parent tables.
-/
namespace Glassbeetle.TeamMembers
open JsText Database ExecutionChain

variable {ν : Type}

def assertExists (db : Tables ν) (teamId : JsString) : Except Failure TeamRow :=
  match db.team teamId with
  | some team => .ok team
  | none => .error (.http 404 (js "TEAM_NOT_FOUND")
      (js "Team with ID \"" ++ teamId ++ js "\" not found"))

def onTeam (teamId : JsString) (row : TeamMemberRow) : Bool := row.teamId = teamId

def isMember (teamId agentId : JsString) (row : TeamMemberRow) : Bool :=
  row.teamId = teamId ∧ row.agentId = agentId

def members (db : Tables ν) (teamId : JsString) : List TeamMemberRow :=
  db.teamMembers.filter (onTeam teamId)

def readRow (db : Tables ν) (teamId agentId : JsString) : Except Failure TeamMemberRow := do
  let _ ← assertExists db teamId
  match db.teamMembers.find? (isMember teamId agentId) with
  | some row => return row
  | none => throw (.http 404 (js "MEMBER_NOT_FOUND")
      (js "Agent \"" ++ agentId ++ js "\" is not on team \"" ++ teamId ++ js "\""))

structure AddTeamMemberDto where
  agentId : JsString
  role : Option JsString

/-- `COALESCE(MAX(position) + 1, 0)` -/
def nextPosition (db : Tables ν) (teamId : JsString) : ℤ :=
  match ((members db teamId).filterMap (·.position)).max? with
  | some last => last + 1
  | none => 0

def add (db : Tables ν) (teamId : JsString) (dto : AddTeamMemberDto) (now touched : JsString) :
    Except Failure (TeamMemberRow × Tables ν) := do
  let _ ← assertExists db teamId
  match db.agent dto.agentId with
  | none => throw (unprocessable "AGENT_NOT_FOUND"
      (js "Agent with ID \"" ++ dto.agentId ++ js "\" not found"))
  | some _ =>
    match db.teamMembers.find? (isMember teamId dto.agentId) with
    | some _ => throw (.http 409 (js "AGENT_ALREADY_ON_TEAM")
        (js "Agent \"" ++ dto.agentId ++ js "\" is already on this team"))
    | none =>
      let inserted : TeamMemberRow := {
        teamId := teamId
        agentId := dto.agentId
        role := dto.role
        position := some (nextPosition db teamId)
        isCoordinator := false
        createdAt := now }
      let db := { db with teamMembers := db.teamMembers ++ [inserted] }
      return (inserted, db.touchTeam teamId touched)

/-- `dto.role` is `undefined`, `null` or a text. -/
def update (db : Tables ν) (teamId agentId : JsString) (role : Option (Option JsString))
    (touched : JsString) : Except Failure (TeamMemberRow × Tables ν) := do
  let existing ← readRow db teamId agentId
  match role with
  | none => return (existing, db)
  | some role =>
    if role = existing.role then return (existing, db)
    else
      let db := { db with
        teamMembers := db.teamMembers.map fun row =>
          if isMember teamId agentId row then { row with role := role } else row }
      return ({ existing with role := role }, db.touchTeam teamId touched)

/-- `UPDATE team_members SET position = ? WHERE team_id = ? AND agent_id = ?` -/
def placeRow (teamId agentId : JsString) (index : ℕ) (row : TeamMemberRow) : TeamMemberRow :=
  if isMember teamId agentId row then { row with position := some index } else row

/-- `agentIds.forEach((agentId, index) => …)`, from the given index on. -/
def place (teamId : JsString) : ℕ → List JsString → List TeamMemberRow → List TeamMemberRow
  | _, [], rows => rows
  | index, agentId :: rest, rows =>
    place teamId (index + 1) rest (rows.map (placeRow teamId agentId index))

/-- `ORDER BY position ASC, agent_id ASC`, where `NULL` comes first. -/
def rosterLe (a b : TeamMemberRow) : Bool :=
  match a.position, b.position with
  | none, none => textLe a.agentId b.agentId
  | none, some _ => true
  | some _, none => false
  | some p, some q => p < q || (p = q && textLe a.agentId b.agentId)

def renumber (teamId : JsString) (rows : List TeamMemberRow) : List TeamMemberRow :=
  place teamId 0 (((rows.filter (onTeam teamId)).insertionSort fun a b => rosterLe a b = true).map
    (·.agentId)) rows

def remove (db : Tables ν) (teamId agentId touched : JsString) : Except Failure (Tables ν) := do
  let _ ← readRow db teamId agentId
  let db := { db with
    teamMembers := renumber teamId (db.teamMembers.filter fun row => !isMember teamId agentId row) }
  return db.touchTeam teamId touched

def rosterMismatch (message : String) : Failure := .http 409 (js "ROSTER_MISMATCH") (js message)

def sortIds (ids : List JsString) : List JsString :=
  ids.insertionSort fun a b => textLe a b = true

/-- The roster is read back with `findAll`, which changes nothing. -/
def reorder (db : Tables ν) (teamId : JsString) (agentIds : List JsString) (touched : JsString) :
    Except Failure (Tables ν) := do
  let _ ← assertExists db teamId
  if ¬agentIds.Nodup then throw (rosterMismatch "agentIds must not repeat an agent")
  else if sortIds ((members db teamId).map (·.agentId)) ≠ sortIds agentIds then
    throw (rosterMismatch
      "agentIds must name exactly the agents currently on this team. Re-read the roster and try again.")
  else
    let db := { db with teamMembers := place teamId 0 agentIds db.teamMembers }
    return db.touchTeam teamId touched

def checkFailed : Failure := .thrown (js "SqliteError") (js "CHECK constraint failed: chats")

def deleteTeam (db : Tables ν) (teamId : JsString) : Except Failure (Tables ν) := do
  let _ ← assertExists db teamId
  match db.deleteTeam teamId with
  | some db => return db
  | none => throw checkFailed

def deleteAgent (db : Tables ν) (id : JsString) : Except Failure (Tables ν) :=
  match db.deleteAgent id with
  | none => .error checkFailed
  | some after =>
    if (db.agent id).isSome then .ok after
    else .error (.http 404 (js "AGENT_NOT_FOUND")
      (js "Agent with ID \"" ++ id ++ js "\" not found"))

end Glassbeetle.TeamMembers
