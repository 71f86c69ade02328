import Glassbeetle.StoragePaths
import Glassbeetle.ContextConstruction
import Glassbeetle.Runs
import Mathlib.Logic.Function.Basic

set_option autoImplicit false

namespace Glassbeetle.Pictures
open JsText StoragePaths ContextConstruction

inductive Place where
  | agent (id : JsString)
  | userProfile
  | project (id : JsString)
  deriving DecidableEq

/-- `picture_path`, or a project's `image_path`. -/
structure PictureRow where
  picturePath : Option JsString
  deriving DecidableEq

/-- What is left of a call at one of its awaits. -/
inductive Call where
  /-- An upload that has read the row and whose file is being written. -/
  | writing (place : Place) (existing : Option JsString)
  /-- The file is there, and the upload has not gone on yet. -/
  | written (place : Place) (existing : Option JsString) (reference : JsString)
  /-- A call whose last step is the removal of this file. -/
  | deleting (reference : JsString)
  deriving DecidableEq

structure World where
  rows : Place → Option PictureRow
  files : List JsString
  calls : List Call
  /-- Every reference that the storage has handed out. -/
  issued : List JsString

def World.setRow (w : World) (place : Place) (row : Option PictureRow) : World :=
  { w with rows := Function.update w.rows place row }

def World.suspend (w : World) (call : Call) : World := { w with calls := call :: w.calls }

/-- The end of a call, up to `await fileStorage.delete` where there is a file to delete. -/
def World.discard (w : World) (reference : Option JsString) : World :=
  match truthy reference with
  | none => w
  | some reference => w.suspend (.deleting reference)

/-- A new row has no picture. -/
def insertRow (place : Place) (w : World) : World :=
  match w.rows place with
  | some _ => w
  | none => w.setRow place (some ⟨none⟩)

/-- An upload of an acceptable file up to `await fileStorage.write`. -/
def beginUpload (place : Place) (w : World) : World :=
  match w.rows place with
  | none => w
  | some existing => w.suspend (.writing place existing.picturePath)

def clearPicture (place : Place) (w : World) : World :=
  match w.rows place with
  | none => w
  | some existing =>
    match truthy existing.picturePath with
    | none => w
    | some _ => (w.setRow place (some ⟨none⟩)).discard existing.picturePath

def deleteRow (place : Place) (w : World) : World :=
  match w.rows place with
  | none => w
  | some existing => (w.setRow place none).discard existing.picturePath

namespace Agents

def create (id : JsString) : World → World := insertRow (.agent id)

def delete (id : JsString) : World → World := deleteRow (.agent id)

def uploadPicture (id : JsString) : World → World := beginUpload (.agent id)

def deletePicture (id : JsString) : World → World := clearPicture (.agent id)

end Agents

namespace User

/-- The single row is there from the first time it is read. -/
def readRow : World → World := insertRow .userProfile

def uploadPicture (w : World) : World := beginUpload .userProfile (readRow w)

def deletePicture (w : World) : World := clearPicture .userProfile (readRow w)

end User

namespace Projects

def create (id : JsString) : World → World := insertRow (.project id)

def delete (id : JsString) : World → World := deleteRow (.project id)

def uploadImage (id : JsString) : World → World := beginUpload (.project id)

end Projects

def bucket : Place → JsString
  | .agent _ => js "pictures"
  | .userProfile => js "pictures"
  | .project _ => js "project-images"

/-- `fileStorage.write` puts the file of an upload into its bucket. -/
def completeWrite (service : FileStorageService) (place : Place) (existing : Option JsString)
    (size : ℕ) (detected : DetectedContentType) (now : ℕ) (random : Fin 10 → UInt8) (w : World) :
    World :=
  if .writing place existing ∈ w.calls then
    match write service (bucket place) size (.ok detected) now random with
    | .error _ => { w with calls := w.calls.erase (.writing place existing) }
    | .ok stored => { w with
        files := stored.reference :: w.files
        calls := .written place existing stored.reference :: w.calls.erase (.writing place existing)
        issued := stored.reference :: w.issued }
  else w

/-- The rest of an upload: `UPDATE … SET picture_path = ? WHERE id = ?`, and then the picture that
was read at its beginning is deleted. -/
def continueUpload (place : Place) (existing : Option JsString) (reference : JsString) (w : World) :
    World :=
  if .written place existing reference ∈ w.calls then
    ({ w with calls := w.calls.erase (.written place existing reference) }.setRow place
      ((w.rows place).map fun _ => ⟨some reference⟩)).discard existing
  else w

/-- `fileStorage.delete` removes the file, and the call returns. -/
def completeDelete (reference : JsString) (w : World) : World :=
  if .deleting reference ∈ w.calls then { w with
    files := w.files.filter (· ≠ reference)
    calls := w.calls.erase (.deleting reference) }
  else w

inductive Event where
  | createAgent (id : JsString)
  | deleteAgent (id : JsString)
  | uploadAgentPicture (id : JsString)
  | deleteAgentPicture (id : JsString)
  | readUserProfile
  | uploadUserPicture
  | deleteUserPicture
  | createProject (id : JsString)
  | deleteProject (id : JsString)
  | uploadProjectImage (id : JsString)
  | completeWrite (place : Place) (existing : Option JsString) (size : ℕ)
      (detected : DetectedContentType) (now : ℕ) (random : Fin 10 → UInt8)
  | continueUpload (place : Place) (existing : Option JsString) (reference : JsString)
  | completeDelete (reference : JsString)

def step (service : FileStorageService) (w : World) : Event → World
  | .createAgent id => Agents.create id w
  | .deleteAgent id => Agents.delete id w
  | .uploadAgentPicture id => Agents.uploadPicture id w
  | .deleteAgentPicture id => Agents.deletePicture id w
  | .readUserProfile => User.readRow w
  | .uploadUserPicture => User.uploadPicture w
  | .deleteUserPicture => User.deletePicture w
  | .createProject id => Projects.create id w
  | .deleteProject id => Projects.delete id w
  | .uploadProjectImage id => Projects.uploadImage id w
  | .completeWrite place existing size detected now random =>
    completeWrite service place existing size detected now random w
  | .continueUpload place existing reference => continueUpload place existing reference w
  | .completeDelete reference => completeDelete reference w

def empty : World := ⟨fun _ => none, [], [], []⟩

def Names (w : World) (place : Place) (reference : JsString) : Prop :=
  ∃ row, w.rows place = some row ∧ row.picturePath = some reference

/-- The files in the buckets are those that rows refer to. -/
def Matched (w : World) : Prop :=
  ∀ reference, reference ∈ w.files ↔ ∃ place, Names w place reference

/-- The name of a new file has not been used before. -/
def Fresh (service : FileStorageService) (w : World) : Event → Prop
  | .completeWrite place _ size detected now random =>
    ∀ stored, write service (bucket place) size (.ok detected) now random = .ok stored →
      stored.reference ∉ w.issued
  | _ => True

def Call.reads : Call → Option (Place × JsString)
  | .writing place existing => existing.map (Prod.mk place)
  | .written place existing _ => existing.map (Prod.mk place)
  | .deleting _ => none

/-- When an upload goes on its row exists, and refers to no picture, to the one that the upload read,
or to one that another upload in flight has read. -/
def Current (w : World) : Event → Prop
  | .continueUpload place existing reference => .written place existing reference ∈ w.calls →
    ∃ row, w.rows place = some row ∧ ∀ picture, row.picturePath = some picture →
      existing = some picture ∨
        ∃ call ∈ w.calls.erase (.written place existing reference),
          call.reads = some (place, picture)
  | _ => True

end Glassbeetle.Pictures
