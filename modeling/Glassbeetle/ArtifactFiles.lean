import Glassbeetle.ArtifactRules
import Glassbeetle.StorageLinks

set_option autoImplicit false

namespace Glassbeetle.ArtifactFiles
open JsText Utf8Text ContextConstruction ExecutionChain Artifacts ArtifactRules Runs
open StoragePaths FileTree StorageLinks

section Storage

/-- `FileStorageService.delete`, with the entry that it takes away, if any. -/
def deleteFile (service : FileStorageService) (fs : FileSystem Name) (reference : JsString) :
    Except Refusal (FileSystem Name × Option (List Name)) :=
  match resolveAndVerify fs service reference with
  | .error refusal => .error refusal
  | .ok resolvedPath =>
    match realpath fs (names resolvedPath) with
    | .error .ENOENT => .ok (fs, none)
    | .error e => .error (.errno e)
    | .ok real =>
      if fs.entry real = some .directory then
        .error (.storage (.invalidPath (js "Cannot delete directory as a file: \"" ++ reference ++
          js "\"")))
      else match entryPlace fs (names resolvedPath) with
        | .error e => .error (.errno e)
        | .ok place => .ok (unlink fs place, some place)

def refersTo (service : FileStorageService) (fs : FileSystem Name) (place : List Name)
    (reference : JsString) : Bool :=
  match resolveAndVerify fs service reference with
  | .error _ => false
  | .ok path =>
    match realpath fs (names path) with
    | .error _ => false
    | .ok real => decide (real = place ∨ entryPlace fs (names path) = .ok place)

def Stands (service : FileStorageService) (fs : FileSystem Name) (reference : JsString)
    (place real : List Name) : Prop :=
  ∃ path, resolveAndVerify fs service reference = .ok path ∧
    entryPlace fs (names path) = .ok place ∧ realpath fs (names path) = .ok real

/-- The first names a file, or a link to one, which is also what the second names or leads to. -/
def Shares (service : FileStorageService) (fs : FileSystem Name) (reference other : JsString) :
    Prop :=
  ∃ place real place' real', Stands service fs reference place real ∧
    fs.entry real ≠ some .directory ∧ Stands service fs other place' real' ∧
      (real' = place ∨ place' = place)

section Sharing
variable (service : FileStorageService) (fs : FileSystem Name)

theorem deleteFile_some (after : FileSystem Name) (reference : JsString) (place : List Name) :
    deleteFile service fs reference = .ok (after, some place) ↔
      (∃ real, Stands service fs reference place real ∧ fs.entry real ≠ some .directory) ∧
        after = unlink fs place := by
  unfold deleteFile Stands
  cases hresolve : resolveAndVerify fs service reference with
  | error refusal => simp
  | ok path =>
    cases hreal : realpath fs (names path) with
    | error e => cases e <;> simp [hreal]
    | ok real =>
      by_cases hdirectory : fs.entry real = some .directory
      · simp [hreal, hdirectory]
      · cases hplace : entryPlace fs (names path) with
        | error e => simp [hreal, hdirectory, hplace]
        | ok found =>
          simp only [hreal, hdirectory, hplace, if_false]
          constructor
          · rintro ⟨⟩
            exact ⟨⟨real, ⟨path, rfl, hplace, hreal⟩, hdirectory⟩, rfl⟩
          · rintro ⟨⟨real', ⟨path', hpath, hplace', -⟩, -⟩, rfl⟩
            cases hpath
            cases hplace.symm.trans hplace'
            rfl

theorem refersTo_iff (place : List Name) (reference : JsString) :
    refersTo service fs place reference = true ↔
      ∃ place' real', Stands service fs reference place' real' ∧ (real' = place ∨ place' = place) := by
  unfold refersTo Stands
  cases hresolve : resolveAndVerify fs service reference with
  | error refusal => simp
  | ok path =>
    cases hreal : realpath fs (names path) with
    | error e => simp [hreal]
    | ok real =>
      dsimp only
      rw [hreal, decide_eq_true_eq]
      constructor
      · rintro (rfl | hplace)
        · obtain ⟨place', hplace'⟩ := entryPlace_of_realpath fs (names path) real hreal
          exact ⟨place', real, ⟨path, rfl, hplace', hreal⟩, .inl rfl⟩
        · exact ⟨place, real, ⟨path, rfl, hplace, hreal⟩, .inr rfl⟩
      · rintro ⟨place', real', ⟨path', hpath, hplace', hreal'⟩, hsame⟩
        cases hpath
        cases hreal.symm.trans hreal'
        rcases hsame with hsame | rfl
        · exact .inl hsame
        · exact .inr hplace'

variable {fs} {after : FileSystem Name} (h : Pruned fs after)
include h

theorem stands_pruned (reference : JsString) (place real : List Name)
    (hstands : Stands service after reference place real) :
    Stands service fs reference place real := by
  obtain ⟨path, hverify, hplace, hreal⟩ := hstands
  exact ⟨path, verify_pruned h _ _ _ _ _ real hverify hreal, entryPlace_pruned h _ _ hplace,
    realpath_pruned h _ _ hreal⟩

theorem shares_pruned (reference other : JsString) (hshares : Shares service after reference other) :
    Shares service fs reference other := by
  obtain ⟨place, real, place', real', hstands, hfile, hstands', hsame⟩ := hshares
  exact ⟨place, real, place', real', stands_pruned service h _ _ _ hstands,
    fun hdirectory => hfile (h.directory real hdirectory), stands_pruned service h _ _ _ hstands',
    hsame⟩

end Sharing

end Storage

/-- The artifacts, what the rows of other tables refer to, the files, and the files that were deleted
while another row referred to them. -/
structure Stock where
  db : Store
  references : List JsString
  fs : FileSystem Name
  destroyed : List (List Name)

inductive Operation where
  | create (id : JsString) (now : Text) (dto : CreateArtifactDto)
  | update (id : JsString) (now : Text) (dto : UpdateArtifactDto)
  | delete (id : JsString)
  /-- Anything that other services do. -/
  | elsewhere (projects chats agents references : List JsString) (fs : FileSystem Name)

def otherReferences (s : Stock) (id : JsString) : List JsString :=
  s.references ++ (s.db.artifacts.filter (·.id ≠ id)).filterMap fun row => truthy row.filePath

/-- A failure to delete the file is only logged. -/
def release (service : FileStorageService) (s : Stock) (id : JsString) : Option JsString → Stock
  | none => s
  | some reference =>
    match deleteFile service s.fs reference with
    | .ok (fs, some place) =>
      { s with
        fs := fs
        destroyed :=
          if (otherReferences s id).any (refersTo service s.fs place) then s.destroyed ++ [place]
          else s.destroyed }
    | _ => s

def step (service : FileStorageService) (s : Stock) : Operation → Stock
  | .create id now dto =>
    match create s.db id now.1 dto with
    | .ok (_, db) => { s with db := db }
    | .error _ => s
  | .update id now dto =>
    match update s.db id now.1 dto with
    | .ok (_, db, unlinked) => release service { s with db := db } (stored id) unlinked
    | .error _ => s
  | .delete id =>
    match delete s.db id with
    | .ok (db, unlinked) => release service { s with db := db } (stored id) unlinked
    | .error _ => s
  | .elsewhere projects chats agents references fs =>
    { s with db := replaceParents s.db projects chats agents, references := references, fs := fs }

def Separate (service : FileStorageService) (s : Stock) : Prop :=
  ∀ row ∈ s.db.artifacts, ∀ path, truthy row.filePath = some path →
    ∀ other ∈ otherReferences s row.id, ¬Shares service s.fs path other

/-- This file path, for this artifact, shares no file with what the other rows refer to. -/
def Apart (service : FileStorageService) (s : Stock) (id : JsString) (given : Option JsString) :
    Prop :=
  ∀ path, truthy given = some path →
    (∀ other ∈ otherReferences s id, ¬Shares service s.fs path other) ∧
      ∀ row ∈ s.db.artifacts, row.id ≠ id → ∀ other, truthy row.filePath = some other →
        ¬Shares service s.fs other path

def Admitted (db : Store) (id now : JsString) (dto : CreateArtifactDto) : Prop :=
  assertContentRule dto.content (dto.filePath.or dto.file_path) = .ok () ∧
    assertReferences db (truthy dto.projectId) (truthy dto.chatId) (truthy dto.agentId) = .ok () ∧
      ∃ after, insertArtifact db (mapCreateArtifactDtoToRow id now dto) = .ok after

/-- A request that is accepted gives a file path of its own, and what the other services refer to or
move in storage meets no artifact's file. -/
def Careful (service : FileStorageService) (s : Stock) : Operation → Prop
  | .create id now dto => Admitted s.db id now.1 dto →
    Apart service s (stored id) ((dto.filePath.or dto.file_path).map stored)
  | .update id _ dto => ∀ existing, s.db.artifact id = some existing → Accepted s.db existing dto →
    Apart service s (stored id) ((nextFilePath existing dto).map stored)
  | .delete _ => True
  | .elsewhere _ _ _ references fs => Separate service { s with references := references, fs := fs }

section Steps
variable (service : FileStorageService)

theorem mem_otherReferences (s : Stock) (id reference : JsString) :
    reference ∈ otherReferences s id ↔ reference ∈ s.references ∨
      ∃ row ∈ s.db.artifacts, row.id ≠ id ∧ truthy row.filePath = some reference := by
  unfold otherReferences
  simp [and_assoc]

theorem release_destroyed (s : Stock) (hs : s.destroyed = []) (id : JsString)
    (unlinked : Option JsString) :
    (release service s id unlinked).destroyed = [] ↔
      ∀ path, unlinked = some path → ∀ other ∈ otherReferences s id,
        ¬Shares service s.fs path other := by
  cases unlinked with
  | none => exact iff_of_true hs fun _ h => nomatch h
  | some reference =>
    unfold release
    dsimp only
    constructor
    · rintro h _ ⟨⟩ other hother ⟨place, real, place', real', hstands, hfile, hother'⟩
      have hdelete := (deleteFile_some service s.fs _ reference place).mpr ⟨⟨real, hstands, hfile⟩, rfl⟩
      rw [hdelete] at h
      dsimp only at h
      have hrefers := (refersTo_iff service s.fs place other).mpr ⟨place', real', hother'⟩
      rw [if_pos (List.any_eq_true.mpr ⟨other, hother, hrefers⟩)] at h
      exact absurd h (by simp)
    · intro h
      split
      next after place hdelete =>
        obtain ⟨⟨real, hstands, hfile⟩, -⟩ :=
          (deleteFile_some service s.fs after reference place).mp hdelete
        rw [if_neg]
        · exact hs
        · rw [List.any_eq_true]
          rintro ⟨other, hother, hrefers⟩
          obtain ⟨place', real', hother'⟩ := (refersTo_iff service s.fs place other).mp hrefers
          exact h reference rfl other hother ⟨place, real, place', real', hstands, hfile, hother'⟩
      next => exact hs

theorem release_frame (s : Stock) (id : JsString) (unlinked : Option JsString) :
    (release service s id unlinked).db = s.db ∧
      (release service s id unlinked).references = s.references ∧
        Pruned s.fs (release service s id unlinked).fs := by
  cases unlinked with
  | none => exact ⟨rfl, rfl, .refl s.fs⟩
  | some reference =>
    unfold release
    dsimp only
    split
    next after place hdelete =>
      obtain ⟨-, rfl⟩ := (deleteFile_some service s.fs after reference place).mp hdelete
      exact ⟨rfl, rfl, unlink_pruned s.fs place⟩
    next => exact ⟨rfl, rfl, .refl s.fs⟩

def Operation.action : Operation → Action
  | .create id now dto => .create id now dto
  | .update id now dto => .update id now dto
  | .delete id => .delete id
  | .elsewhere projects chats agents _ _ => .parents projects chats agents

def Sound (s : Stock) : Prop := Tidy ⟨s.db, fun _ => 0⟩

theorem step_db (s : Stock) (op : Operation) :
    (step service s op).db = (ArtifactRules.step ⟨s.db, fun _ => 0⟩ op.action).db := by
  cases op with
  | create id now dto =>
    dsimp only [step, Operation.action, ArtifactRules.step]
    cases create s.db id now.1 dto <;> rfl
  | update id now dto =>
    dsimp only [step, Operation.action, ArtifactRules.step]
    cases update s.db id now.1 dto with
    | error failure => rfl
    | ok out => exact (release_frame service _ _ _).1
  | delete id =>
    dsimp only [step, Operation.action, ArtifactRules.step]
    cases delete s.db id with
    | error failure => rfl
    | ok out => exact (release_frame service _ _ _).1
  | elsewhere projects chats agents references fs => rfl

theorem sound_step (s : Stock) (op : Operation) (h : Sound s) : Sound (step service s op) := by
  have htidy := tidy_step _ op.action h
  unfold Sound
  rw [step_db]
  exact ⟨htidy.ids, htidy.kept, htidy.rule⟩

theorem sound_artifact (s : Stock) (h : Sound s) (row : ArtifactRow) (hrow : row ∈ s.db.artifacts) :
    s.db.artifact row.id = some row := by
  have hid : stored row.id = row.id := congrArg (·.id) (h.kept row hrow)
  cases hfound : s.db.artifact row.id with
  | none =>
    have hnone := List.find?_eq_none.mp hfound row hrow
    exact absurd (decide_eq_true hid.symm) hnone
  | some found =>
    have hsame := (artifact_id s.db row.id found hfound).trans hid
    rw [List.inj_on_of_nodup_map h.ids (List.mem_of_find?_eq_some hfound) hrow hsame]

theorem updated_filePath (existing : ArtifactRow) (dto : UpdateArtifactDto) (now : JsString)
    (hkept : Kept existing) :
    (updated existing dto now).filePath = (nextFilePath existing dto).map stored := by
  by_cases h : requested existing dto = existing
  · have hpath : nextFilePath existing dto = existing.filePath := congrArg (·.filePath) h
    rw [updated_unchanged existing dto now hkept h, hpath]
    exact (congrArg (·.filePath) hkept).symm
  · rw [updated_changed existing dto now h]
    rfl

theorem separate_written (s t : Stock) (row : ArtifactRow)
    (hrows : ∀ r ∈ t.db.artifacts, r ∈ s.db.artifacts ∧ r.id ≠ row.id ∨ r = row)
    (hreferences : t.references = s.references) (hpruned : Pruned s.fs t.fs)
    (h : Separate service s) (hapart : Apart service s row.id row.filePath) : Separate service t := by
  intro r hr path hpath other hother hshares
  have hshares' := shares_pruned service hpruned path other hshares
  rw [mem_otherReferences, hreferences] at hother
  have hold : ∀ id, (other ∈ s.references ∨ ∃ r' ∈ s.db.artifacts, r'.id ≠ id ∧
      truthy r'.filePath = some other) → other ∈ otherReferences s id :=
    fun id => (mem_otherReferences s id other).mpr
  rcases hrows r hr with ⟨hr, hne⟩ | rfl
  · rcases hother with hother | ⟨r', hr', hne', hpath'⟩
    · exact h r hr path hpath other (hold _ (.inl hother)) hshares'
    · rcases hrows r' hr' with ⟨hr', -⟩ | rfl
      · exact h r hr path hpath other (hold _ (.inr ⟨r', hr', hne', hpath'⟩)) hshares'
      · exact (hapart other hpath').2 r hr hne path hpath hshares'
  · refine (hapart path hpath).1 other (hold _ ?_) hshares'
    rcases hother with hother | ⟨r', hr', hne', hpath'⟩
    · exact .inl hother
    · rcases hrows r' hr' with ⟨hr', -⟩ | rfl
      · exact .inr ⟨r', hr', hne', hpath'⟩
      · exact absurd rfl hne'

def Safe (s : Stock) : Prop := Sound s ∧ s.destroyed = [] ∧ Separate service s

theorem safe_create (s : Stock) (h : Safe service s) (id : JsString) (now : Text)
    (dto : CreateArtifactDto) (hcareful : Careful service s (.create id now dto)) :
    (step service s (.create id now dto)).destroyed = [] ∧
      Separate service (step service s (.create id now dto)) := by
  obtain ⟨-, hdestroyed, hseparate⟩ := h
  dsimp only [step]
  cases hresult : create s.db id now.1 dto with
  | error failure => exact ⟨hdestroyed, hseparate⟩
  | ok out =>
    obtain ⟨response, db⟩ := out
    obtain ⟨hunused, -, hrows⟩ := create_ok s.db id now.1 dto response db hresult
    have hadmitted : Admitted s.db id now.1 dto := by
      unfold create at hresult
      obtain ⟨_, hrule, hresult⟩ := ok_of_bind _ _ _ hresult
      obtain ⟨_, hreferences, hresult⟩ := ok_of_bind _ _ _ hresult
      obtain ⟨after, hinsert, -⟩ := ok_of_bind _ _ _ hresult
      exact ⟨hrule, hreferences, after, hinsert⟩
    refine ⟨hdestroyed, separate_written service s _ (mapCreateArtifactDtoToRow id now.1 dto).stored
      (fun r hr => ?_) rfl (.refl s.fs) hseparate (hcareful hadmitted)⟩
    dsimp only at hr
    rw [hrows] at hr
    rcases List.mem_append.mp hr with hr | hr
    · exact .inl ⟨hr, fun hid => hunused (List.mem_map.mpr ⟨r, hr, hid⟩)⟩
    · exact .inr (List.mem_singleton.mp hr)

theorem safe_update (s : Stock) (h : Safe service s) (id : JsString) (now : Text)
    (dto : UpdateArtifactDto) (hcareful : Careful service s (.update id now dto)) :
    (step service s (.update id now dto)).destroyed = [] ∧
      Separate service (step service s (.update id now dto)) := by
  obtain ⟨hsound, hdestroyed, hseparate⟩ := h
  dsimp only [step]
  cases hresult : update s.db id now.1 dto with
  | error failure => exact ⟨hdestroyed, hseparate⟩
  | ok out =>
    obtain ⟨response, db, unlinked⟩ := out
    obtain ⟨existing, hfound, -, -, -, rfl, rfl⟩ :=
      update_ok s.db hsound.ids hsound.kept id now.1 dto _ _ _ hresult
    have hid := artifact_id s.db id existing hfound
    have hmem : existing ∈ s.db.artifacts := List.mem_of_find?_eq_some hfound
    have hkept := hsound.kept existing hmem
    have haccepted := (update_accepted s.db id now.1 dto existing hfound).mp ⟨_, hresult⟩
    have hrow : (updated existing dto now.1).id = stored id := (updated_id existing dto now.1 hkept).trans hid
    have hrows := mem_written s.db existing id now.1 dto hid
    have hapart := hcareful existing hfound haccepted
    rw [← hrow, ← updated_filePath existing dto now.1 hkept] at hapart
    rw [← hrow] at hrows
    dsimp only
    rw [← hrow]
    have hreleased := release_frame service
      { s with db := { s.db with artifacts := written s.db.artifacts existing dto now.1 } }
      (updated existing dto now.1).id (updateResult existing dto now.1).unlinkedFilePath
    obtain ⟨hdb, hreferences, hpruned⟩ := hreleased
    refine ⟨?_, separate_written service s _ (updated existing dto now.1)
      (fun r hr => hrows r ?_) hreferences hpruned hseparate hapart⟩
    · refine (release_destroyed service _ (by exact hdestroyed) _ _).mpr fun path hpath other hother => ?_
      have hpath' : truthy existing.filePath = some path := by
        change (if nextFilePath existing dto ≠ existing.filePath then truthy existing.filePath
          else none) = some path at hpath
        split_ifs at hpath
        exact hpath
      refine hseparate existing hmem path hpath' other ?_
      rw [mem_otherReferences, hid, ← hrow]
      refine ((mem_otherReferences _ _ other).mp hother).imp_right ?_
      rintro ⟨r, hr, hne, hreference⟩
      exact (hrows r hr).elim (fun hold => ⟨r, hold.1, hne, hreference⟩)
        fun hsame => absurd (congrArg (·.id) hsame) hne
    · rwa [hdb] at hr

/-- Deleting an artifact loses nothing exactly when it shares its file with no other row. -/
theorem delete_destroyed (s : Stock) (hs : s.destroyed = []) (id : JsString)
    (existing : ArtifactRow) (hfound : s.db.artifact id = some existing) :
    (step service s (.delete id)).destroyed = [] ↔
      ∀ path, truthy existing.filePath = some path → ∀ other ∈ otherReferences s existing.id,
        ¬Shares service s.fs path other := by
  have hid := artifact_id s.db id existing hfound
  dsimp only [step]
  unfold delete
  rw [hfound]
  dsimp only
  rw [hid]
  refine (release_destroyed service _ (by exact hs) _ _).trans ?_
  refine forall₂_congr fun path _ => forall_congr' fun other => imp_congr_left ?_
  rw [mem_otherReferences, mem_otherReferences]
  simp [and_assoc]

theorem safe_delete (s : Stock) (h : Safe service s) (id : JsString) :
    (step service s (.delete id)).destroyed = [] ∧ Separate service (step service s (.delete id)) := by
  obtain ⟨-, hdestroyed, hseparate⟩ := h
  cases hfound : s.db.artifact id with
  | none =>
    dsimp only [step]
    unfold delete
    rw [hfound]
    exact ⟨hdestroyed, hseparate⟩
  | some existing =>
    have hmem : existing ∈ s.db.artifacts := List.mem_of_find?_eq_some hfound
    refine ⟨(delete_destroyed service s hdestroyed id existing hfound).mpr
      (hseparate existing hmem), ?_⟩
    dsimp only [step]
    unfold delete
    rw [hfound]
    dsimp only
    obtain ⟨hdb, hreferences, hpruned⟩ := release_frame service
      { s with db := { s.db with artifacts := s.db.artifacts.filter (·.id ≠ stored id) } }
      (stored id) (truthy existing.filePath)
    intro row hrow path hpath other hother hshares
    rw [hdb] at hrow
    rw [mem_otherReferences, hdb, hreferences] at hother
    refine hseparate row (List.mem_of_mem_filter hrow) path hpath other ?_
      (shares_pruned service hpruned path other hshares)
    refine (mem_otherReferences s row.id other).mpr (hother.imp_right ?_)
    rintro ⟨r, hr, hne⟩
    exact ⟨r, List.mem_of_mem_filter hr, hne⟩

theorem safe_elsewhere (s : Stock) (h : Safe service s) (projects chats agents references : List JsString)
    (fs : FileSystem Name)
    (hcareful : Careful service s (.elsewhere projects chats agents references fs)) :
    (step service s (.elsewhere projects chats agents references fs)).destroyed = [] ∧
      Separate service (step service s (.elsewhere projects chats agents references fs)) := by
  refine ⟨h.2.1, fun row hrow path hpath other hother => ?_⟩
  obtain ⟨old, hold, rfl⟩ := List.mem_map.mp hrow
  refine hcareful old hold path hpath other ?_
  rw [mem_otherReferences] at hother ⊢
  refine hother.imp_right ?_
  rintro ⟨r, hr, hne, hreference⟩
  obtain ⟨old', hold', rfl⟩ := List.mem_map.mp hr
  exact ⟨old', hold', hne, hreference⟩

theorem safe_step (s : Stock) (op : Operation) (h : Safe service s)
    (hcareful : Careful service s op) : Safe service (step service s op) := by
  refine ⟨sound_step service s op h.1, ?_⟩
  cases op with
  | create id now dto => exact safe_create service s h id now dto hcareful
  | update id now dto => exact safe_update service s h id now dto hcareful
  | delete id => exact safe_delete service s h id
  | elsewhere projects chats agents references fs =>
    exact safe_elsewhere service s h projects chats agents references fs hcareful

end Steps

/-- As long as every file path that is given is the artifact's own, nothing that another row refers to
is deleted. Where it is not, deleting the artifact deletes what another row refers to. -/
theorem artifact_files (service : FileStorageService)
    (projects chats agents references : List JsString) (fs : FileSystem Name)
    (ops : List Operation) :
    (Allowed (step service) (Careful service) ⟨⟨projects, chats, agents, []⟩, references, fs, []⟩ ops →
      ∀ s ∈ states (step service) ⟨⟨projects, chats, agents, []⟩, references, fs, []⟩ ops,
        s.destroyed = []) ∧
    ∀ s ∈ states (step service) ⟨⟨projects, chats, agents, []⟩, references, fs, []⟩ ops,
      s.destroyed = [] → ∀ row ∈ s.db.artifacts, ∀ path, truthy row.filePath = some path →
        ((step service s (.delete row.id)).destroyed ≠ [] ↔
          ∃ other ∈ otherReferences s row.id, Shares service s.fs path other) := by
  have hstart : Sound ⟨⟨projects, chats, agents, []⟩, references, fs, []⟩ :=
    tidy_start projects chats agents
  constructor
  · intro hcareful s hs
    exact (run_invariant (step service) (Careful service) (Safe service) (safe_step service) _ ops
      ⟨hstart, rfl, fun _ h => nomatch h⟩ hcareful s hs).2.1
  · intro s hs hdestroyed row hrow path hpath
    have hsound := states_invariant (step service) Sound (sound_step service) _ ops hstart s hs
    have hfound := sound_artifact s hsound row hrow
    rw [Ne, delete_destroyed service s hdestroyed row.id row hfound]
    simp only [hpath, Option.some.injEq, forall_eq', not_forall, not_not, exists_prop]

def pictureTree : FileSystem Name where
  entries := [([], .directory), ([data], .directory), ([data, storage], .directory),
    ([data, storage, pictures], .directory), ([data, storage, pictures, newPicture], .file)]
  linkLimit := 40
  root := rfl
  parents := by decide +kernel

def borrowing : CreateArtifactDto :=
  ⟨js "Portrait", js "file", none, none, some (js "pictures/new.png"), none, none, none, none⟩

/-- An artifact is created with the reference of the picture, and then deleted. -/
theorem picture_destroyed :
    ¬∀ s ∈ states (step ⟨js "/", [js "/data/storage"]⟩)
        ⟨⟨[], [], [js "agent"], []⟩, [js "pictures/new.png"], pictureTree, []⟩
        [.create (js "a") ⟨js "t", rfl⟩ borrowing, .delete (js "a")], s.destroyed = [] := by
  decide +kernel

end Glassbeetle.ArtifactFiles
