import Mathlib.Data.List.Nodup
import Mathlib.Logic.Function.Basic
import Glassbeetle.Artifacts
import Glassbeetle.Runs

set_option autoImplicit false

namespace Glassbeetle.ArtifactRules
open JsText Utf8Text ContextConstruction ExecutionChain Artifacts Runs

section Clauses

theorem execute_append (first rest : List SetClause) (row : ArtifactRow) :
    execute (first ++ rest) row = execute rest (execute first row) := List.foldl_append

def storedColumns (changed : ChangedColumns) : ChangedColumns where
  title := changed.title.map stored
  type := changed.type.map stored
  mimeType := changed.mimeType.map (Option.map stored)
  projectId := changed.projectId.map (Option.map stored)
  chatId := changed.chatId.map (Option.map stored)
  agentId := changed.agentId.map (Option.map stored)
  content := changed.content.map (Option.map stored)
  filePath := changed.filePath.map (Option.map stored)

theorem execute_setClauses (changed : ChangedColumns) (row : ArtifactRow) :
    execute changed.setClauses row = (storedColumns changed).spread row := by
  obtain ⟨title, type, mimeType, projectId, chatId, agentId, content, filePath⟩ := changed
  let upTo (columns : ChangedColumns) : ArtifactRow := (storedColumns columns).spread row
  unfold ChangedColumns.setClauses
  iterate 7 rw [execute_append]
  have htitle : execute (title.map .title).toList row =
      upTo ⟨title, none, none, none, none, none, none, none⟩ := by
    cases title <;> rfl
  have htype : execute (type.map .type).toList (upTo ⟨title, none, none, none, none, none, none, none⟩) =
      upTo ⟨title, type, none, none, none, none, none, none⟩ := by
    cases type <;> rfl
  have hmimeType : execute (mimeType.map .mimeType).toList (upTo ⟨title, type, none, none, none, none, none, none⟩) =
      upTo ⟨title, type, mimeType, none, none, none, none, none⟩ := by
    cases mimeType <;> rfl
  have hprojectId : execute (projectId.map .projectId).toList (upTo ⟨title, type, mimeType, none, none, none, none, none⟩) =
      upTo ⟨title, type, mimeType, projectId, none, none, none, none⟩ := by
    cases projectId <;> rfl
  have hchatId : execute (chatId.map .chatId).toList (upTo ⟨title, type, mimeType, projectId, none, none, none, none⟩) =
      upTo ⟨title, type, mimeType, projectId, chatId, none, none, none⟩ := by
    cases chatId <;> rfl
  have hagentId : execute (agentId.map .agentId).toList (upTo ⟨title, type, mimeType, projectId, chatId, none, none, none⟩) =
      upTo ⟨title, type, mimeType, projectId, chatId, agentId, none, none⟩ := by
    cases agentId <;> rfl
  have hcontent : execute (content.map .content).toList (upTo ⟨title, type, mimeType, projectId, chatId, agentId, none, none⟩) =
      upTo ⟨title, type, mimeType, projectId, chatId, agentId, content, none⟩ := by
    cases content <;> rfl
  have hfilePath : execute (filePath.map .filePath).toList (upTo ⟨title, type, mimeType, projectId, chatId, agentId, content, none⟩) =
      upTo ⟨title, type, mimeType, projectId, chatId, agentId, content, filePath⟩ := by
    cases filePath <;> rfl
  rw [htitle, htype, hmimeType, hprojectId, hchatId, hagentId, hcontent, hfilePath]

def Kept (row : ArtifactRow) : Prop := row.stored = row

theorem stored_kept (row : ArtifactRow) : Kept row.stored := by
  unfold Kept ArtifactRow.stored
  simp only [Option.map_map, Function.comp_def, stored_stored]

theorem spread_stored (changed : ChangedColumns) (row : ArtifactRow) (h : Kept row) :
    (storedColumns changed).spread row = (changed.spread row).stored := by
  have hgetD : ∀ (given : Option JsString) (current : JsString), stored current = current →
      (given.map stored).getD current = stored (given.getD current) := by
    rintro (_ | text) current hcurrent
    · exact hcurrent.symm
    · rfl
  have hgetD' : ∀ (given : Option (Option JsString)) (current : Option JsString),
      current.map stored = current →
      (given.map (Option.map stored)).getD current = (given.getD current).map stored := by
    rintro (_ | text) current hcurrent
    · exact hcurrent.symm
    · rfl
  obtain ⟨hid, hproject, hchat, hagent, htitle, htype, hmime, hcontent, hfile, -, hcreated,
    hupdated⟩ := ArtifactRow.mk.inj h
  exact (ArtifactRow.mk.injEq ..).mpr ⟨hid.symm, hgetD' _ _ hproject, hgetD' _ _ hchat,
    hgetD' _ _ hagent, hgetD _ _ htitle, hgetD _ _ htype, hgetD' _ _ hmime, hgetD' _ _ hcontent,
    hgetD' _ _ hfile, rfl, hcreated.symm, hupdated.symm⟩

theorem changed_getD {α : Type} [DecidableEq α] (specified : Option α) (current : α) :
    (changed specified current).getD current = specified.getD current := by
  cases specified with
  | none => rfl
  | some v =>
    unfold changed
    by_cases h : v = current
    · rw [Option.filter_some_neg (by simpa using h)]
      exact h.symm
    · rw [Option.filter_some_pos (by simpa using h)]

theorem changed_none {α : Type} [DecidableEq α] (specified : Option α) (current : α)
    (h : specified.getD current = current) : changed specified current = none := by
  cases specified with
  | none => rfl
  | some v =>
    obtain rfl : v = current := h
    exact Option.filter_some_neg (by simp)

variable (existing : ArtifactRow) (dto : UpdateArtifactDto) (now : JsString)

def requested (existing : ArtifactRow) (dto : UpdateArtifactDto) : ArtifactRow :=
  { existing with
    title := dto.title.getD existing.title
    type := dto.type.getD existing.type
    mimeType := dto.mimeType.getD existing.mimeType
    projectId := dto.projectId.getD existing.projectId
    chatId := dto.chatId.getD existing.chatId
    agentId := dto.agentId.getD existing.agentId
    content := nextContent existing dto
    filePath := nextFilePath existing dto }

theorem spread_changedColumns :
    (changedColumns existing dto).spread existing = requested existing dto := by
  unfold ChangedColumns.spread changedColumns requested
  simp only [changed_getD, Option.getD_some]

omit existing dto in
theorem columns_nil (changed : ChangedColumns) : changed.setClauses = [] ↔
    changed = ⟨none, none, none, none, none, none, none, none⟩ := by
  obtain ⟨title, type, mimeType, projectId, chatId, agentId, content, filePath⟩ := changed
  simp only [ChangedColumns.setClauses, List.append_eq_nil_iff, Option.toList_eq_nil_iff,
    Option.map_eq_none_iff, ChangedColumns.mk.injEq, and_assoc]

theorem setClauses_nil : (changedColumns existing dto).setClauses = [] ↔
    requested existing dto = existing := by
  rw [columns_nil]
  constructor
  · intro h
    rw [← spread_changedColumns, h]
    rfl
  · intro h
    unfold changedColumns
    rw [changed_none dto.title existing.title (congrArg (·.title) h),
      changed_none dto.type existing.type (congrArg (·.type) h),
      changed_none dto.mimeType existing.mimeType (congrArg (·.mimeType) h),
      changed_none dto.projectId existing.projectId (congrArg (·.projectId) h),
      changed_none dto.chatId existing.chatId (congrArg (·.chatId) h),
      changed_none dto.agentId existing.agentId (congrArg (·.agentId) h),
      changed_none (some (nextContent existing dto)) existing.content (congrArg (·.content) h),
      changed_none (some (nextFilePath existing dto)) existing.filePath (congrArg (·.filePath) h)]

theorem assertContentRule_ok (content filePath : Option JsString) :
    assertContentRule content filePath = .ok () ↔ content.isSome ≠ filePath.isSome := by
  unfold assertContentRule
  cases content with
  | none => cases filePath <;> simp
  | some c => cases filePath <;> simp

theorem hasChanges_iff :
    (updateResult existing dto now).hasChanges = true ↔ requested existing dto ≠ existing := by
  change (!(changedColumns existing dto).setClauses.isEmpty) = true ↔ _
  rw [Bool.not_eq_true', List.isEmpty_eq_false_iff, Ne, setClauses_nil]

def answered (existing : ArtifactRow) (dto : UpdateArtifactDto) (now : JsString) : ArtifactRow :=
  if requested existing dto = existing then existing
  else { requested existing dto with version := existing.version + 1, updatedAt := now }

theorem updatedRow_eq : (updateResult existing dto now).updatedRow = answered existing dto now := by
  have hrow : (updateResult existing dto now).updatedRow =
      { requested existing dto with
        version := if (updateResult existing dto now).hasChanges then existing.version + 1
          else existing.version
        updatedAt := if (updateResult existing dto now).hasChanges then now
          else existing.updatedAt } := by
    rw [← spread_changedColumns]
    rfl
  rw [hrow]
  unfold answered
  by_cases h : requested existing dto = existing
  · have hnone : (updateResult existing dto now).hasChanges = false := by
      rw [← Bool.not_eq_true, hasChanges_iff]
      exact fun hne => hne h
    rw [hnone, if_neg Bool.false_ne_true, if_neg Bool.false_ne_true, if_pos h, h]
  · rw [(hasChanges_iff existing dto now).mpr h, if_pos rfl, if_pos rfl, if_neg h]

/-- The row that an update of this row leaves. -/
def updated (existing : ArtifactRow) (dto : UpdateArtifactDto) (now : JsString) : ArtifactRow :=
  (answered existing dto now).stored

theorem updated_unchanged (hkept : Kept existing) (h : requested existing dto = existing) :
    updated existing dto now = existing := by
  unfold updated answered
  rw [if_pos h]
  exact hkept

theorem updated_changed (h : requested existing dto ≠ existing) : updated existing dto now =
    { (requested existing dto).stored with
      version := existing.version + 1, updatedAt := stored now } := by
  unfold updated answered
  rw [if_neg h]
  rfl

theorem execute_updateResult (hkept : Kept existing) :
    execute (updateResult existing dto now).setClauses existing = updated existing dto now := by
  have hclauses : (updateResult existing dto now).setClauses =
      (changedColumns existing dto).setClauses ++
        if (updateResult existing dto now).hasChanges then
          [.version (if (updateResult existing dto now).hasChanges then existing.version + 1
              else existing.version),
            .updatedAt (if (updateResult existing dto now).hasChanges then now
              else existing.updatedAt)]
        else [] := rfl
  rw [hclauses, execute_append, execute_setClauses, spread_stored _ _ hkept, spread_changedColumns]
  by_cases h : requested existing dto = existing
  · have hnone : (updateResult existing dto now).hasChanges = false := by
      rw [← Bool.not_eq_true, hasChanges_iff]
      exact fun hne => hne h
    rw [hnone, if_neg Bool.false_ne_true, updated_unchanged existing dto now hkept h, h]
    exact hkept
  · rw [(hasChanges_iff existing dto now).mpr h, if_pos rfl, if_pos rfl, if_pos rfl,
      updated_changed existing dto now h]
    rfl

theorem applyArtifactUpdates_ok (result : ArtifactUpdateResult)
    (h : applyArtifactUpdates existing dto now = .ok result) :
    result = updateResult existing dto now ∧
      (existing.content.isSome ≠ existing.filePath.isSome →
        (requested existing dto).content.isSome ≠ (requested existing dto).filePath.isSome) := by
  unfold applyArtifactUpdates at h
  split_ifs at h with hspecified
  · obtain ⟨_, hrule, hresult⟩ := ok_of_bind _ _ _ h
    exact ⟨(Except.ok.inj hresult).symm, fun _ => (assertContentRule_ok _ _).mp hrule⟩
  · refine ⟨(Except.ok.inj h).symm, fun hrow => ?_⟩
    obtain ⟨hcontent, hpath⟩ := not_or.mp hspecified
    unfold requested nextContent nextFilePath
    rw [Option.not_isSome_iff_eq_none.mp hcontent, Option.not_isSome_iff_eq_none.mp hpath]
    exact hrow

end Clauses

structure History where
  db : Store
  changes : JsString → ℕ

inductive Action where
  | create (id : JsString) (now : Text) (dto : CreateArtifactDto)
  | update (id : JsString) (now : Text) (dto : UpdateArtifactDto)
  | delete (id : JsString)
  | parents (projects chats agents : List JsString)

/-- `ON DELETE SET NULL`, for the parents that are still there. -/
def kept (parents : List JsString) (reference : Option JsString) : Option JsString :=
  reference.filter (· ∈ parents)

def replaceParents (db : Store) (projects chats agents : List JsString) : Store where
  projects := projects
  chats := chats
  agents := agents
  artifacts := db.artifacts.map fun row =>
    { row with
      projectId := kept projects row.projectId
      chatId := kept chats row.chatId
      agentId := kept agents row.agentId }

def SameColumns (a b : ArtifactRow) : Prop :=
  a = { b with version := a.version, updatedAt := a.updatedAt }

instance (a b : ArtifactRow) : Decidable (SameColumns a b) :=
  inferInstanceAs (Decidable (a = _))

def columnChanged (before after : Option ArtifactRow) : Bool :=
  match before, after with
  | some before, some after => !decide (SameColumns after before)
  | _, _ => false

def step (s : History) : Action → History
  | .create id now dto =>
    match create s.db id now.1 dto with
    | .ok (_, db) => ⟨db, Function.update s.changes (stored id) 0⟩
    | .error _ => s
  | .update id now dto =>
    match update s.db id now.1 dto with
    | .ok (_, db, _) => ⟨db, if columnChanged (s.db.artifact id) (db.artifact id) then
        Function.update s.changes (stored id) (s.changes (stored id) + 1) else s.changes⟩
    | .error _ => s
  | .delete id =>
    match delete s.db id with
    | .ok (db, _) => ⟨db, s.changes⟩
    | .error _ => s
  | .parents projects chats agents => ⟨replaceParents s.db projects chats agents, s.changes⟩

structure Tidy (s : History) : Prop where
  ids : (s.db.artifacts.map (·.id)).Nodup
  kept : ∀ row ∈ s.db.artifacts, Kept row
  rule : ∀ row ∈ s.db.artifacts, row.content.isSome ≠ row.filePath.isSome

def Counted (s : History) : Prop := ∀ row ∈ s.db.artifacts, row.version = 1 + s.changes row.id

section Updates

theorem artifact_id (db : Store) (id : JsString) (row : ArtifactRow)
    (h : db.artifact id = some row) : row.id = stored id := by
  have hfound := List.find?_some h
  exact of_decide_eq_true hfound

theorem updated_id (existing : ArtifactRow) (dto : UpdateArtifactDto) (now : JsString)
    (hkept : Kept existing) : (updated existing dto now).id = existing.id := by
  have hid : stored existing.id = existing.id := congrArg (·.id) hkept
  unfold updated answered
  split_ifs <;> exact hid

theorem sameColumns_updated (existing : ArtifactRow) (dto : UpdateArtifactDto) (now : JsString)
    (hkept : Kept existing) : SameColumns (updated existing dto now) existing ↔
      (requested existing dto).stored = existing := by
  by_cases h : requested existing dto = existing
  · rw [updated_unchanged existing dto now hkept h, h]
    exact iff_of_true rfl hkept
  · rw [updated_changed existing dto now h]
    constructor
    · intro hsame
      have hback := congrArg (fun row : ArtifactRow =>
        { row with version := existing.version, updatedAt := existing.updatedAt }) hsame
      have hupdated : stored existing.updatedAt = existing.updatedAt := congrArg (·.updatedAt) hkept
      have hrow : { (requested existing dto).stored with
          version := existing.version, updatedAt := existing.updatedAt } =
          (requested existing dto).stored := by
        unfold ArtifactRow.stored requested
        rw [hupdated]
      exact hrow.symm.trans hback
    · intro hsame
      unfold SameColumns
      rw [hsame]

def written (artifacts : List ArtifactRow) (existing : ArtifactRow) (dto : UpdateArtifactDto)
    (now : JsString) : List ArtifactRow :=
  artifacts.map fun row => if row.id = existing.id then updated existing dto now else row

theorem update_ok (db : Store) (hids : (db.artifacts.map (·.id)).Nodup)
    (hkept : ∀ row ∈ db.artifacts, Kept row) (id now : JsString)
    (dto : UpdateArtifactDto) (response : ArtifactResponseDto) (after : Store)
    (unlinked : Option JsString) (h : update db id now dto = .ok (response, after, unlinked)) :
    ∃ existing, db.artifact id = some existing ∧
      applyArtifactUpdates existing dto now = .ok (updateResult existing dto now) ∧
      (existing.content.isSome ≠ existing.filePath.isSome →
        (requested existing dto).content.isSome ≠ (requested existing dto).filePath.isSome) ∧
      response = mapArtifactRowToResponse (answered existing dto now) ∧
      after = { db with artifacts := written db.artifacts existing dto now } ∧
      unlinked = (updateResult existing dto now).unlinkedFilePath := by
  unfold update at h
  cases hfound : db.artifact id with
  | none =>
    rw [hfound] at h
    cases h
  | some existing =>
    rw [hfound] at h
    dsimp only at h
    obtain ⟨_, -, h⟩ := ok_of_bind _ _ _ h
    obtain ⟨result, happly, h⟩ := ok_of_bind _ _ _ h
    obtain ⟨rfl, hrule⟩ := applyArtifactUpdates_ok existing dto now result happly
    have hid := artifact_id db id existing hfound
    have hmem : existing ∈ db.artifacts := List.mem_of_find?_eq_some hfound
    have hwritten : (db.artifacts.map fun row =>
        if row.id = stored id then execute (updateResult existing dto now).setClauses row else row) =
        written db.artifacts existing dto now := by
      refine List.map_congr_left fun row hrow => ?_
      rw [← hid]
      split_ifs with hsame
      · rw [List.inj_on_of_nodup_map hids hrow hmem hsame,
          execute_updateResult existing dto now (hkept existing hmem)]
      · rfl
    refine ⟨existing, rfl, happly, hrule, ?_⟩
    by_cases hchanges : requested existing dto = existing
    · have hnone : (updateResult existing dto now).hasChanges = false := by
        rw [← Bool.not_eq_true, hasChanges_iff]
        exact fun hne => hne hchanges
      have hrow : answered existing dto now = existing := if_pos hchanges
      rw [hnone] at h
      cases h
      have hsame : written db.artifacts existing dto now = db.artifacts := by
        unfold written
        rw [updated_unchanged existing dto now (hkept existing hmem) hchanges]
        refine (List.map_congr_left fun row hmemRow => ?_).trans (List.map_id _)
        split_ifs with hid'
        · exact (List.inj_on_of_nodup_map hids hmemRow hmem hid').symm
        · rfl
      refine ⟨by rw [hrow], by rw [hsame], ?_⟩
      have hpath : nextFilePath existing dto = existing.filePath := congrArg (·.filePath) hchanges
      exact (if_neg (not_not.mpr hpath)).symm
    · rw [(hasChanges_iff existing dto now).mpr hchanges, hwritten] at h
      cases h
      exact ⟨by rw [updatedRow_eq], rfl, rfl⟩

theorem artifact_written (db : Store) (id now : JsString) (dto : UpdateArtifactDto)
    (existing : ArtifactRow) (hkept : Kept existing) (h : db.artifact id = some existing)
    (other : JsString) :
    Store.artifact { db with artifacts := written db.artifacts existing dto now } other =
      if stored other = stored id then some (updated existing dto now) else db.artifact other := by
  have hid := artifact_id db id existing h
  unfold Store.artifact written
  rw [List.find?_map]
  have hids : ((fun row : ArtifactRow => decide (row.id = stored other)) ∘ fun row =>
      if row.id = existing.id then updated existing dto now else row) =
      fun row => decide (row.id = stored other) := by
    funext row
    rw [Function.comp_apply]
    split_ifs with hsame
    · rw [updated_id existing dto now hkept, hsame]
    · rfl
  rw [hids]
  by_cases hother : stored other = stored id
  · rw [if_pos hother, hother]
    unfold Store.artifact at h
    rw [h, Option.map_some, if_pos rfl]
  · rw [if_neg hother]
    cases hfound : db.artifacts.find? fun row => decide (row.id = stored other) with
    | none => rfl
    | some row =>
      have hrow := List.find?_some hfound
      have hne : row.id ≠ existing.id := by
        rw [of_decide_eq_true hrow, hid]
        exact hother
      rw [Option.map_some, if_neg hne]

theorem mem_written (db : Store) (existing : ArtifactRow) (id now : JsString)
    (dto : UpdateArtifactDto) (hid : existing.id = stored id) (row : ArtifactRow)
    (hrow : row ∈ written db.artifacts existing dto now) :
    row ∈ db.artifacts ∧ row.id ≠ stored id ∨ row = updated existing dto now := by
  obtain ⟨old, hold, rfl⟩ := List.mem_map.mp hrow
  split_ifs with hsame
  · exact .inr rfl
  · exact .inl ⟨hold, hid ▸ hsame⟩

end Updates

section Runs

theorem create_ok (db : Store) (id now : JsString) (dto : CreateArtifactDto)
    (response : ArtifactResponseDto) (after : Store)
    (h : create db id now dto = .ok (response, after)) :
    stored id ∉ db.artifacts.map (·.id) ∧
      dto.content.isSome ≠ (dto.filePath.or dto.file_path).isSome ∧
      after.artifacts = db.artifacts ++ [(mapCreateArtifactDtoToRow id now dto).stored] := by
  unfold create at h
  obtain ⟨_, hrule, h⟩ := ok_of_bind _ _ _ h
  obtain ⟨_, -, h⟩ := ok_of_bind _ _ _ h
  obtain ⟨db', hinsert, h⟩ := ok_of_bind _ _ _ h
  cases h
  unfold insertArtifact at hinsert
  dsimp only at hinsert
  split_ifs at hinsert with hused
  cases hinsert
  exact ⟨hused, (assertContentRule_ok _ _).mp hrule, rfl⟩

theorem tidy_create (s : History) (h : Tidy s) (id : JsString) (now : Text)
    (dto : CreateArtifactDto) :
    Tidy (step s (.create id now dto)) := by
  dsimp only [step]
  cases hresult : create s.db id now.1 dto with
  | error failure => exact h
  | ok out =>
    obtain ⟨response, db⟩ := out
    obtain ⟨hunused, hrule, hrows⟩ := create_ok s.db id now.1 dto response db hresult
    refine ⟨?_, fun row hrow => ?_, fun row hrow => ?_⟩
    · dsimp only
      rw [hrows, List.map_append, List.nodup_append]
      refine ⟨h.ids, List.nodup_singleton _, ?_⟩
      rintro a ha b hb rfl
      obtain rfl := List.mem_singleton.mp hb
      exact hunused ha
    · rcases List.mem_append.mp (hrows ▸ hrow) with hrow | hrow
      · exact h.kept row hrow
      · rw [List.mem_singleton.mp hrow]
        exact stored_kept _
    · rcases List.mem_append.mp (hrows ▸ hrow) with hrow | hrow
      · exact h.rule row hrow
      · rw [List.mem_singleton.mp hrow]
        change (dto.content.map stored).isSome ≠ ((dto.filePath.or dto.file_path).map stored).isSome
        rw [Option.isSome_map, Option.isSome_map]
        exact hrule

theorem tidy_update (s : History) (h : Tidy s) (id : JsString) (now : Text)
    (dto : UpdateArtifactDto) :
    Tidy (step s (.update id now dto)) := by
  dsimp only [step]
  cases hresult : update s.db id now.1 dto with
  | error failure => exact h
  | ok out =>
    obtain ⟨response, db, unlinked⟩ := out
    obtain ⟨existing, hfound, -, hrule, -, rfl, -⟩ :=
      update_ok s.db h.ids h.kept id now.1 dto _ _ _ hresult
    have hid := artifact_id s.db id existing hfound
    have hmem : existing ∈ s.db.artifacts := List.mem_of_find?_eq_some hfound
    have hkept := h.kept existing hmem
    refine ⟨?_, fun row hrow => ?_, fun row hrow => ?_⟩
    · have hids : (written s.db.artifacts existing dto now.1).map (·.id) =
          s.db.artifacts.map (·.id) := by
        unfold written
        rw [List.map_map]
        refine List.map_congr_left fun row _ => ?_
        rw [Function.comp_apply]
        split_ifs with hsame
        · rw [updated_id existing dto now.1 hkept, hsame]
        · rfl
      dsimp only
      rw [hids]
      exact h.ids
    · rcases mem_written s.db existing id now.1 dto hid row hrow with ⟨hrow, -⟩ | rfl
      · exact h.kept row hrow
      · exact stored_kept _
    · rcases mem_written s.db existing id now.1 dto hid row hrow with ⟨hrow, -⟩ | rfl
      · exact h.rule row hrow
      · have hxor := h.rule existing hmem
        have hanswered : (answered existing dto now.1).content.isSome ≠
            (answered existing dto now.1).filePath.isSome := by
          unfold answered
          split_ifs
          · exact hxor
          · exact hrule hxor
        change ((answered existing dto now.1).content.map stored).isSome ≠
          ((answered existing dto now.1).filePath.map stored).isSome
        rw [Option.isSome_map, Option.isSome_map]
        exact hanswered

theorem tidy_delete (s : History) (h : Tidy s) (id : JsString) : Tidy (step s (.delete id)) := by
  dsimp only [step]
  unfold delete
  cases s.db.artifact id with
  | none => exact h
  | some existing =>
    have hsub := List.filter_sublist (l := s.db.artifacts) (p := fun row => decide (row.id ≠ stored id))
    exact ⟨h.ids.sublist (hsub.map _), fun row hrow => h.kept row (hsub.subset hrow),
      fun row hrow => h.rule row (hsub.subset hrow)⟩

theorem tidy_parents (s : History) (h : Tidy s) (projects chats agents : List JsString) :
    Tidy (step s (.parents projects chats agents)) := by
  refine ⟨?_, fun row hrow => ?_, fun row hrow => ?_⟩
  · change ((s.db.artifacts.map _).map _).Nodup
    rw [List.map_map]
    exact h.ids
  · obtain ⟨old, hold, rfl⟩ := List.mem_map.mp hrow
    have hfilter : ∀ (parents : List JsString) (reference : Option JsString),
        reference.map stored = reference → (kept parents reference).map stored = kept parents reference := by
      intro parents reference hreference
      cases hkept : kept parents reference with
      | none => rfl
      | some id =>
        obtain ⟨hid, -⟩ := Option.filter_eq_some_iff.mp hkept
        rw [← hid]
        exact hreference
    obtain ⟨hid, hproject, hchat, hagent, htitle, htype, hmime, hcontent, hfile, -, hcreated,
      hupdated⟩ := ArtifactRow.mk.inj (h.kept old hold)
    exact (ArtifactRow.mk.injEq ..).mpr ⟨hid, hfilter _ _ hproject, hfilter _ _ hchat,
      hfilter _ _ hagent, htitle, htype, hmime, hcontent, hfile, rfl, hcreated, hupdated⟩
  · obtain ⟨old, hold, rfl⟩ := List.mem_map.mp hrow
    exact h.rule old hold

theorem tidy_step (s : History) (action : Action) (h : Tidy s) : Tidy (step s action) := by
  cases action with
  | create id now dto => exact tidy_create s h id now dto
  | update id now dto => exact tidy_update s h id now dto
  | delete id => exact tidy_delete s h id
  | parents projects chats agents => exact tidy_parents s h projects chats agents

structure Intact (dto : UpdateArtifactDto) (before after : ArtifactRow) : Prop where
  id : after.id = before.id
  createdAt : after.createdAt = before.createdAt
  title : dto.title = none → after.title = before.title
  type : dto.type = none → after.type = before.type
  mimeType : dto.mimeType = none → after.mimeType = before.mimeType
  projectId : dto.projectId = none → after.projectId = before.projectId
  chatId : dto.chatId = none → after.chatId = before.chatId
  agentId : dto.agentId = none → after.agentId = before.agentId
  content : dto.content = none → after.content = before.content
  filePath : dto.filePath = none → dto.file_path = none → after.filePath = before.filePath

theorem updated_intact (existing : ArtifactRow) (dto : UpdateArtifactDto) (now : JsString)
    (hkept : Kept existing) : Intact dto existing (updated existing dto now) := by
  have hrequested : Intact dto existing (requested existing dto).stored := by
    obtain ⟨hid, hproject, hchat, hagent, htitle, htype, hmime, hcontent, hfile, -, hcreated, -⟩ :=
      ArtifactRow.mk.inj hkept
    exact {
      id := hid
      createdAt := hcreated
      title := fun h =>
        (congrArg (fun title : Option JsString => stored (title.getD existing.title)) h).trans htitle
      type := fun h =>
        (congrArg (fun type : Option JsString => stored (type.getD existing.type)) h).trans htype
      mimeType := fun h =>
        (congrArg (fun mimeType => (mimeType.getD existing.mimeType).map stored) h).trans hmime
      projectId := fun h =>
        (congrArg (fun projectId => (projectId.getD existing.projectId).map stored) h).trans hproject
      chatId := fun h => (congrArg (fun chatId => (chatId.getD existing.chatId).map stored) h).trans hchat
      agentId := fun h =>
        (congrArg (fun agentId => (agentId.getD existing.agentId).map stored) h).trans hagent
      content := fun h =>
        (congrArg (fun content => (content.getD existing.content).map stored) h).trans hcontent
      filePath := fun h h' =>
        (congrArg₂ (fun a b => ((a.or b).getD existing.filePath).map stored) h h').trans hfile }
  by_cases hsame : requested existing dto = existing
  · rw [updated_unchanged existing dto now hkept hsame]
    rw [hsame, show existing.stored = existing from hkept] at hrequested
    exact hrequested
  · rw [updated_changed existing dto now hsame]
    exact ⟨hrequested.id, hrequested.createdAt, hrequested.title, hrequested.type,
      hrequested.mimeType, hrequested.projectId, hrequested.chatId, hrequested.agentId,
      hrequested.content, hrequested.filePath⟩

/-- An update that is rejected changes nothing, one that changes no value neither, and otherwise the
row that the clauses make of the stored one is stored and returned. -/
def UpdateKeeps (s : History) (id : JsString) (now : Text) (dto : UpdateArtifactDto) : Prop :=
  match update s.db id now.1 dto with
  | .error _ => step s (.update id now dto) = s
  | .ok (response, after, _) => ∃ existing row result,
      s.db.artifact id = some existing ∧ after.artifact id = some row ∧
        applyArtifactUpdates existing dto now.1 = .ok result ∧
        execute result.setClauses existing = row ∧ result.updatedRow = row ∧
        response = mapArtifactRowToResponse row ∧ Intact dto existing row ∧
        (if SameColumns row existing then row = existing
          else row.version = existing.version + 1 ∧ row.updatedAt = now.1) ∧
        ∀ other, stored other ≠ stored id → after.artifact other = s.db.artifact other

structure Storable (dto : UpdateArtifactDto) : Prop where
  title : ∀ text ∈ dto.title, wellFormed text = true
  type : ∀ text ∈ dto.type, wellFormed text = true
  mimeType : ∀ text ∈ dto.mimeType.join, wellFormed text = true
  projectId : ∀ text ∈ dto.projectId.join, wellFormed text = true
  chatId : ∀ text ∈ dto.chatId.join, wellFormed text = true
  agentId : ∀ text ∈ dto.agentId.join, wellFormed text = true
  content : ∀ text ∈ dto.content.join, wellFormed text = true
  filePath : ∀ text ∈ (dto.filePath.or dto.file_path).join, wellFormed text = true

theorem getD_stored (given : Option JsString) (current : JsString) (h : stored current = current) :
    stored (given.getD current) = given.getD current ↔ ∀ text ∈ given, wellFormed text = true := by
  rw [stored_eq_self] at h ⊢
  cases given with
  | none => simpa using h
  | some text => simp

theorem getD_map_stored (given : Option (Option JsString)) (current : Option JsString)
    (h : current.map stored = current) : (given.getD current).map stored = given.getD current ↔
      ∀ text ∈ given.join, wellFormed text = true := by
  cases given with
  | none => simpa using h
  | some value => exact map_stored_eq_self value

/-- What is asked of a row that is read back is stored as it is exactly if its texts are. -/
theorem requested_kept (existing : ArtifactRow) (dto : UpdateArtifactDto) (hkept : Kept existing) :
    Kept (requested existing dto) ↔ Storable dto := by
  obtain ⟨hid, hproject, hchat, hagent, htitle, htype, hmime, hcontent, hfile, -, hcreated,
    hupdated⟩ := ArtifactRow.mk.inj hkept
  have htitle' := getD_stored dto.title existing.title htitle
  have htype' := getD_stored dto.type existing.type htype
  have hmime' := getD_map_stored dto.mimeType existing.mimeType hmime
  have hproject' := getD_map_stored dto.projectId existing.projectId hproject
  have hchat' := getD_map_stored dto.chatId existing.chatId hchat
  have hagent' := getD_map_stored dto.agentId existing.agentId hagent
  have hcontent' := getD_map_stored dto.content existing.content hcontent
  have hfile' := getD_map_stored (dto.filePath.or dto.file_path) existing.filePath hfile
  constructor
  · intro h
    obtain ⟨-, hproject, hchat, hagent, htitle, htype, hmime, hcontent, hfile, -, -, -⟩ :=
      ArtifactRow.mk.inj h
    exact ⟨htitle'.mp htitle, htype'.mp htype, hmime'.mp hmime, hproject'.mp hproject,
      hchat'.mp hchat, hagent'.mp hagent, hcontent'.mp hcontent, hfile'.mp hfile⟩
  · intro h
    exact (ArtifactRow.mk.injEq ..).mpr ⟨hid, hproject'.mpr h.projectId, hchat'.mpr h.chatId,
      hagent'.mpr h.agentId, htitle'.mpr h.title, htype'.mpr h.type, hmime'.mpr h.mimeType,
      hcontent'.mpr h.content, hfile'.mpr h.filePath, rfl, hcreated, hupdated⟩

theorem answered_kept (existing : ArtifactRow) (dto : UpdateArtifactDto) (now : Text)
    (hkept : Kept existing) : Kept (answered existing dto now.1) ↔ Storable dto := by
  rw [← requested_kept existing dto hkept]
  by_cases hsame : requested existing dto = existing
  · unfold answered
    rw [if_pos hsame, hsame]
  · unfold answered
    rw [if_neg hsame]
    have hupdated : stored existing.updatedAt = existing.updatedAt := congrArg (·.updatedAt) hkept
    unfold Kept ArtifactRow.stored requested
    simp only [ArtifactRow.mk.injEq, text_stored, hupdated]

def Accepted (db : Store) (existing : ArtifactRow) (dto : UpdateArtifactDto) : Prop :=
  assertReferences db dto.projectId.join dto.chatId.join dto.agentId.join = .ok () ∧
    (dto.content.isSome ∨ (dto.filePath.or dto.file_path).isSome →
      assertContentRule (nextContent existing dto) (nextFilePath existing dto) = .ok ())

theorem update_accepted (db : Store) (id now : JsString) (dto : UpdateArtifactDto)
    (existing : ArtifactRow) (hfound : db.artifact id = some existing) :
    (∃ out, update db id now dto = .ok out) ↔ Accepted db existing dto := by
  unfold update applyArtifactUpdates Accepted
  rw [hfound]
  dsimp only
  cases hreferences : assertReferences db dto.projectId.join dto.chatId.join dto.agentId.join with
  | error failure => exact iff_of_false (fun ⟨_, h⟩ => nomatch h) fun h => nomatch h.1
  | ok u =>
    by_cases hspecified : dto.content.isSome ∨ (dto.filePath.or dto.file_path).isSome
    · rw [if_pos hspecified]
      cases hrule : assertContentRule (nextContent existing dto) (nextFilePath existing dto) with
      | error failure =>
        exact iff_of_false (fun ⟨_, h⟩ => nomatch h) fun h => nomatch h.2 hspecified
      | ok u =>
        refine iff_of_true ?_ ⟨rfl, fun _ => rfl⟩
        by_cases hchanges : (updateResult existing dto now).hasChanges = true
        · exact ⟨_, if_neg (by simpa using hchanges)⟩
        · exact ⟨_, if_pos (by simpa using hchanges)⟩
    · rw [if_neg hspecified]
      refine iff_of_true ?_ ⟨rfl, fun h => absurd h hspecified⟩
      by_cases hchanges : (updateResult existing dto now).hasChanges = true
      · exact ⟨_, if_neg (by simpa using hchanges)⟩
      · exact ⟨_, if_pos (by simpa using hchanges)⟩

def Keeps (s : History) : Action → Prop
  | .update id now dto => UpdateKeeps s id now dto
  | _ => True

/-- No update that is accepted gives a text with a lone surrogate. -/
def Careful (s : History) : Action → Prop
  | .update id _ dto =>
    ∀ existing, s.db.artifact id = some existing → Accepted s.db existing dto → Storable dto
  | _ => True

theorem keeps_careful (s : History) (h : Tidy s) (action : Action) :
    Keeps s action ↔ Careful s action := by
  cases action with
  | create id now dto => exact Iff.rfl
  | delete id => exact Iff.rfl
  | parents projects chats agents => exact Iff.rfl
  | update id now dto =>
    change UpdateKeeps s id now dto ↔ _
    unfold UpdateKeeps
    cases hresult : update s.db id now.1 dto with
    | error failure =>
      refine iff_of_true ?_ fun existing hfound haccepted => ?_
      · dsimp only [step]
        rw [hresult]
      · obtain ⟨out, hout⟩ := (update_accepted s.db id now.1 dto existing hfound).mpr haccepted
        cases hresult.symm.trans hout
    | ok out =>
      obtain ⟨response, after, unlinked⟩ := out
      obtain ⟨existing, hfound, happly, -, rfl, rfl, -⟩ :=
        update_ok s.db h.ids h.kept id now.1 dto _ _ _ hresult
      have hkept := h.kept existing (List.mem_of_find?_eq_some hfound)
      have haccepted := (update_accepted s.db id now.1 dto existing hfound).mp ⟨_, hresult⟩
      constructor
      · rintro ⟨existing', row, result, hfound', -, happly', hexecute, hrow, -⟩
        cases hfound.symm.trans hfound'
        cases happly.symm.trans happly'
        rw [execute_updateResult existing dto now.1 hkept] at hexecute
        rw [updatedRow_eq] at hrow
        exact fun existing' hfound' _ => by
          cases hfound.symm.trans hfound'
          exact (answered_kept existing dto now hkept).mp (hexecute.trans hrow.symm)
      · intro hcareful
        have hstorable := hcareful existing hfound haccepted
        have hanswered : updated existing dto now.1 = answered existing dto now.1 :=
          (answered_kept existing dto now hkept).mpr hstorable
        have hrequested : (requested existing dto).stored = requested existing dto :=
          (requested_kept existing dto hkept).mpr hstorable
        refine ⟨existing, updated existing dto now.1, updateResult existing dto now.1, hfound, ?_,
          happly, execute_updateResult existing dto now.1 hkept, ?_, ?_,
          updated_intact existing dto now.1 hkept, ?_, fun other hother => ?_⟩
        · rw [artifact_written s.db id now.1 dto existing hkept hfound id, if_pos rfl]
        · rw [updatedRow_eq, hanswered]
        · rw [hanswered]
        · have hcolumns := sameColumns_updated existing dto now.1 hkept
          rw [hrequested] at hcolumns
          by_cases hsame : requested existing dto = existing
          · rw [if_pos (hcolumns.mpr hsame)]
            exact updated_unchanged existing dto now.1 hkept hsame
          · rw [if_neg fun hc => hsame (hcolumns.mp hc), hanswered]
            unfold answered
            rw [if_neg hsame]
            exact ⟨rfl, rfl⟩
        · rw [artifact_written s.db id now.1 dto existing hkept hfound other, if_neg hother]

theorem counted_update (s : History) (htidy : Tidy s) (h : Counted s) (id : JsString) (now : Text)
    (dto : UpdateArtifactDto) (hcareful : Careful s (.update id now dto)) :
    Counted (step s (.update id now dto)) := by
  dsimp only [step]
  cases hresult : update s.db id now.1 dto with
  | error failure => exact h
  | ok out =>
    obtain ⟨response, db, unlinked⟩ := out
    obtain ⟨existing, hfound, -, -, -, rfl, -⟩ :=
      update_ok s.db htidy.ids htidy.kept id now.1 dto _ _ _ hresult
    have hid := artifact_id s.db id existing hfound
    have hmem : existing ∈ s.db.artifacts := List.mem_of_find?_eq_some hfound
    have hkept := htidy.kept existing hmem
    have hstorable := hcareful existing hfound
      ((update_accepted s.db id now.1 dto existing hfound).mp ⟨_, hresult⟩)
    have hrequested : (requested existing dto).stored = requested existing dto :=
      (requested_kept existing dto hkept).mpr hstorable
    have hversion := h existing hmem
    rw [hid] at hversion
    dsimp only
    rw [artifact_written s.db id now.1 dto existing hkept hfound id, if_pos rfl, hfound]
    have hchanged : columnChanged (some existing) (some (updated existing dto now.1)) =
        !decide (requested existing dto = existing) := by
      rw [← hrequested]
      exact congrArg not (decide_eq_decide.mpr (sameColumns_updated existing dto now.1 hkept))
    rw [hchanged]
    intro row hrow
    rcases mem_written s.db existing id now.1 dto hid row hrow with ⟨hrow, hne⟩ | rfl
    · dsimp only
      split_ifs
      · rw [Function.update_of_ne hne]
        exact h row hrow
      · exact h row hrow
    · dsimp only
      rw [updated_id existing dto now.1 hkept, hid]
      by_cases hsame : requested existing dto = existing
      · rw [decide_eq_true hsame, Bool.not_true, if_neg Bool.false_ne_true,
          updated_unchanged existing dto now.1 hkept hsame]
        exact hversion
      · rw [decide_eq_false hsame, Bool.not_false, if_pos rfl,
          updated_changed existing dto now.1 hsame, Function.update_self]
        dsimp only
        omega

theorem counted_step (s : History) (action : Action) (h : Tidy s ∧ Counted s)
    (hcareful : Careful s action) : Tidy (step s action) ∧ Counted (step s action) := by
  obtain ⟨htidy, hcounted⟩ := h
  refine ⟨tidy_step s action htidy, ?_⟩
  cases action with
  | update id now dto => exact counted_update s htidy hcounted id now dto hcareful
  | create id now dto =>
    dsimp only [step]
    cases hresult : create s.db id now.1 dto with
    | error failure => exact hcounted
    | ok out =>
      obtain ⟨response, db⟩ := out
      obtain ⟨hunused, -, hrows⟩ := create_ok s.db id now.1 dto response db hresult
      intro row hrow
      dsimp only at hrow ⊢
      rcases List.mem_append.mp (hrows ▸ hrow) with hrow | hrow
      · rw [Function.update_of_ne fun hid => hunused (List.mem_map.mpr ⟨row, hrow, hid⟩)]
        exact hcounted row hrow
      · rw [List.mem_singleton.mp hrow]
        change 1 = 1 + Function.update s.changes (stored id) 0 (stored id)
        rw [Function.update_self]
  | delete id =>
    dsimp only [step]
    unfold delete
    cases s.db.artifact id with
    | none => exact hcounted
    | some existing => exact fun row hrow => hcounted row (List.mem_of_mem_filter hrow)
  | parents projects chats agents =>
    intro row hrow
    obtain ⟨old, hold, rfl⟩ := List.mem_map.mp hrow
    exact hcounted old hold

def start (projects chats agents : List JsString) : History :=
  ⟨⟨projects, chats, agents, []⟩, fun _ => 0⟩

theorem tidy_start (projects chats agents : List JsString) : Tidy (start projects chats agents) :=
  ⟨List.nodup_nil, fun _ hrow => absurd hrow List.not_mem_nil,
    fun _ hrow => absurd hrow List.not_mem_nil⟩

/-- Whatever is asked, artifacts keep to the content rule. Versions count changes and updates answer
with what they store exactly as long as the texts that are given can be stored. -/
theorem artifact_rules (projects chats agents : List JsString) (actions : List Action) :
    (∀ s ∈ states step (start projects chats agents) actions,
      ∀ row ∈ s.db.artifacts, row.content.isSome ≠ row.filePath.isSome) ∧
    ((∀ s ∈ states step (start projects chats agents) actions, Counted s) ∧
        Allowed step Keeps (start projects chats agents) actions ↔
      Allowed step Careful (start projects chats agents) actions) := by
  have hstart := tidy_start projects chats agents
  have htidy := states_invariant step Tidy tidy_step _ actions hstart
  have hkeeps := allowed_congr step Keeps Careful Tidy tidy_step
    (fun s action h => keeps_careful s h action) _ actions hstart
  refine ⟨fun s hs => (htidy s hs).rule, fun h => hkeeps.mp h.2, fun h => ⟨fun s hs => ?_,
    hkeeps.mpr h⟩⟩
  exact (run_invariant step Careful (fun s => Tidy s ∧ Counted s) counted_step _ actions
    ⟨hstart, fun _ hrow => absurd hrow List.not_mem_nil⟩ h s hs).2

def tornTitle : UpdateArtifactDto := ⟨some [0xD800], none, none, none, none, none, none, none, none⟩

def tornRetitling : List Action :=
  [.create (js "a1") ⟨js "t1", rfl⟩
      ⟨js "plan", js "document", none, some (js "draft"), none, none, none, none, none⟩,
    .update (js "a1") ⟨js "t2", rfl⟩ tornTitle, .update (js "a1") ⟨js "t3", rfl⟩ tornTitle]

/-- The second time nothing changes, but the version does, and the title that is answered is not the
one that is stored. -/
theorem torn_retitling :
    let s := tornRetitling.foldl step (start [] [] [])
    s.db.artifacts.map (fun row => (row.title, row.version)) = [([0xFFFD], 3)] ∧
      s.changes (js "a1") = 1 ∧
      ((update s.db (js "a1") (js "t4") tornTitle).toOption.map fun out => (out.1.title, out.1.version)) =
        some ([0xD800], 4) := by
  decide +kernel

end Runs

end Glassbeetle.ArtifactRules
