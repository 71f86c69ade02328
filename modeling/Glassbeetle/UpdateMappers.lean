import Glassbeetle.Database
import Glassbeetle.JsonStringify
import Glassbeetle.PartialUpdates

set_option autoImplicit false

namespace Glassbeetle.UpdateMappers
open JsText Utf8Text Database PartialUpdates
open JsValue (Json JsNumber)

/-- What a property of a row holds. Numbers are compared as `===` does, without `NaN`. -/
inductive Cell (ν : Type) where
  | undefined
  | null
  | text (s : JsString)
  | number (n : ν)
  deriving DecidableEq

variable {ν : Type}

def Cell.ofText : Option JsString → Cell ν
  | none => .null
  | some s => .text s

def Cell.ofNumber : Option ν → Cell ν
  | none => .null
  | some n => .number n

def Cell.stored : Cell ν → Cell ν
  | .text s => .text (Utf8Text.stored s)
  | cell => cell

structure Column (κ ν : Type) extends Field κ (Cell ν) where
  sqlColumn : JsString

structure Recorded (κ ν : Type) where
  changedColumns : List (κ × Cell ν)
  setClauses : List JsString
  setParams : List (Cell ν)

structure UpdateResult (κ ν : Type) where
  updatedRow : κ → Cell ν
  hasChanges : Bool
  setClauses : List JsString
  setParams : List (Cell ν)

structure AgentUpdateResult (κ ν : Type) extends UpdateResult κ ν where
  changedColumns : List (κ × Cell ν)

def clauseText (sqlColumn : JsString) : JsString := sqlColumn ++ js " = ?"

section Mapper
variable {κ : Type}

def recordChange (column : κ) (sqlColumn : JsString) (value : Cell ν) (r : Recorded κ ν) :
    Recorded κ ν where
  changedColumns := r.changedColumns ++ [(column, value)]
  setClauses := r.setClauses ++ [clauseText sqlColumn]
  setParams := r.setParams ++ [value]

def recordField [DecidableEq ν] (row : κ → Cell ν) (r : Recorded κ ν) (field : Column κ ν) :
    Recorded κ ν :=
  field.asked.elim r fun value =>
    if value = row field.column then r else recordChange field.column field.sqlColumn value r

def finish [DecidableEq κ] (updatedAt : κ) (row : κ → Cell ν) (now : JsString)
    (r : Recorded κ ν) : AgentUpdateResult κ ν :=
  let hasChanges := decide (0 < r.setClauses.length)
  let time := if hasChanges then .text now else row updatedAt
  let r := if hasChanges then recordChange updatedAt (js "updated_at") time r else r
  { updatedRow := Function.update (overlay row r.changedColumns) updatedAt time
    hasChanges := hasChanges
    setClauses := r.setClauses
    setParams := r.setParams
    changedColumns := r.changedColumns }

def applyUpdates [DecidableEq κ] [DecidableEq ν] (updatedAt : κ) (fields : List (Column κ ν))
    (row : κ → Cell ν) (now : JsString) : AgentUpdateResult κ ν :=
  finish updatedAt row now (fields.foldl (recordField row) ⟨[], [], []⟩)

end Mapper

inductive AgentColumn where
  | id
  | name
  | personality
  | instructions
  | systemPromptId
  | modelId
  | temperature
  | maxTokens
  | modelParams
  | picturePath
  | createdAt
  | updatedAt
  deriving DecidableEq

def AgentColumn.sql : AgentColumn → JsString
  | .id => js "id"
  | .name => js "name"
  | .personality => js "personality"
  | .instructions => js "instructions"
  | .systemPromptId => js "system_prompt_id"
  | .modelId => js "model_id"
  | .temperature => js "temperature"
  | .maxTokens => js "max_tokens"
  | .modelParams => js "model_params"
  | .picturePath => js "picture_path"
  | .createdAt => js "created_at"
  | .updatedAt => js "updated_at"

def agentColumns : List AgentColumn :=
  [.id, .name, .personality, .instructions, .systemPromptId, .modelId, .temperature, .maxTokens,
    .modelParams, .picturePath, .createdAt, .updatedAt]

/-- A field that is omitted is `none`, one that is `null` is `some none`. -/
structure UpdateAgentDto (ν : Type) where
  name : Option JsString
  personality : Option (Option JsString)
  instructions : Option (Option JsString)
  systemPromptId : Option (Option JsString)
  modelId : Option (Option JsString)
  temperature : Option (Option ν)
  maxTokens : Option (Option ν)
  modelParams : Option (Option (List (JsString × Json ν)))

def serializeJsonColumn [JsNumber ν] (value : Option (List (JsString × Json ν))) : Cell ν :=
  .ofText (value.map fun fields => JsonStringify.stringify (.object fields))

/-- The fields in the order in which `applyAgentUpdates` compares them. -/
def agentFields [JsNumber ν] (dto : UpdateAgentDto ν) : List (Column AgentColumn ν) :=
  [⟨⟨.name, dto.name.map .text⟩, js "name"⟩,
    ⟨⟨.personality, dto.personality.map .ofText⟩, js "personality"⟩,
    ⟨⟨.instructions, dto.instructions.map .ofText⟩, js "instructions"⟩,
    ⟨⟨.systemPromptId, dto.systemPromptId.map .ofText⟩, js "system_prompt_id"⟩,
    ⟨⟨.modelId, dto.modelId.map .ofText⟩, js "model_id"⟩,
    ⟨⟨.temperature, dto.temperature.map .ofNumber⟩, js "temperature"⟩,
    ⟨⟨.maxTokens, dto.maxTokens.map .ofNumber⟩, js "max_tokens"⟩,
    ⟨⟨.modelParams, dto.modelParams.map serializeJsonColumn⟩, js "model_params"⟩]

def applyAgentUpdates [DecidableEq ν] [JsNumber ν] (existingRow : AgentColumn → Cell ν)
    (dto : UpdateAgentDto ν) (now : JsString) : AgentUpdateResult AgentColumn ν :=
  applyUpdates .updatedAt (agentFields dto) existingRow now

inductive TeamColumn where
  | id
  | name
  | description
  | strategy
  | maxTurnsPerInteraction
  | createdAt
  | updatedAt
  deriving DecidableEq

def TeamColumn.sql : TeamColumn → JsString
  | .id => js "id"
  | .name => js "name"
  | .description => js "description"
  | .strategy => js "strategy"
  | .maxTurnsPerInteraction => js "max_turns_per_interaction"
  | .createdAt => js "created_at"
  | .updatedAt => js "updated_at"

def teamColumns : List TeamColumn :=
  [.id, .name, .description, .strategy, .maxTurnsPerInteraction, .createdAt, .updatedAt]

structure UpdateTeamDto (ν : Type) where
  name : Option JsString
  description : Option (Option JsString)
  strategy : Option TeamStrategy
  maxTurnsPerInteraction : Option (Option ν)

def strategyText : TeamStrategy → JsString
  | .sequential => js "sequential"
  | .coordinator => js "coordinator"
  | .broadcast => js "broadcast"
  | .autonomous => js "autonomous"

def teamField (column : TeamColumn) (asked : Option (Cell ν)) : Column TeamColumn ν :=
  ⟨⟨column, asked⟩, column.sql⟩

/-- The fields in the order in which `applyTeamUpdates` compares them. -/
def teamFields (dto : UpdateTeamDto ν) : List (Column TeamColumn ν) :=
  [teamField .name (dto.name.map .text),
    teamField .description (dto.description.map .ofText),
    teamField .strategy (dto.strategy.map fun strategy => .text (strategyText strategy)),
    teamField .maxTurnsPerInteraction (dto.maxTurnsPerInteraction.map .ofNumber)]

def applyTeamUpdates [DecidableEq ν] (existingRow : TeamColumn → Cell ν) (dto : UpdateTeamDto ν)
    (now : JsString) : UpdateResult TeamColumn ν :=
  (applyUpdates .updatedAt (teamFields dto) existingRow now).toUpdateResult

def UpdateAgentDto.asked [JsNumber ν] (dto : UpdateAgentDto ν) : AgentColumn → Option (Cell ν)
  | .name => dto.name.map .text
  | .personality => dto.personality.map .ofText
  | .instructions => dto.instructions.map .ofText
  | .systemPromptId => dto.systemPromptId.map .ofText
  | .modelId => dto.modelId.map .ofText
  | .temperature => dto.temperature.map .ofNumber
  | .maxTokens => dto.maxTokens.map .ofNumber
  | .modelParams => dto.modelParams.map serializeJsonColumn
  | .id | .picturePath | .createdAt | .updatedAt => none

def UpdateTeamDto.asked (dto : UpdateTeamDto ν) : TeamColumn → Option (Cell ν)
  | .name => dto.name.map .text
  | .description => dto.description.map .ofText
  | .strategy => dto.strategy.map fun strategy => .text (strategyText strategy)
  | .maxTurnsPerInteraction => dto.maxTurnsPerInteraction.map .ofNumber
  | .id | .createdAt | .updatedAt => none

structure Agrees {κ : Type} [DecidableEq κ] (columns : List κ) (sql : κ → JsString)
    (updatedAt : κ) (asked : κ → Option (Cell ν))
    (update : (κ → Cell ν) → JsString → UpdateResult κ ν) (row : κ → Cell ν) (now : JsString) :
    Prop where
  executes : executeSet columns (fun column => clauseText (sql column)) Cell.stored row
    (update row now).setClauses (update row now).setParams = some (update row now).updatedRow
  omitted : ∀ column, column ≠ updatedAt → asked column = none →
    (update row now).updatedRow column = row column
  given : ∀ column value, asked column = some value → (update row now).updatedRow column = value
  changes : (update row now).hasChanges = false ↔
    ∀ column, column ≠ updatedAt → (update row now).updatedRow column = row column
  time : (update row now).hasChanges = false → (update row now).updatedRow updatedAt = row updatedAt
  again : ∀ later, (update (update row now).updatedRow later).hasChanges = false

/-- Every value that is asked for and not there yet is read back as it is. -/
def Storable {κ : Type} (asked : κ → Option (Cell ν)) (row : κ → Cell ν) : Prop :=
  ∀ column value, asked column = some value → value ≠ row column → value.stored = value

section Mapper
variable {κ : Type} [DecidableEq κ] [DecidableEq ν] (sql : κ → JsString) (updatedAt : κ)
  (fields : List (Column κ ν)) (row : κ → Cell ν)

def recorded (changes : List (κ × Cell ν)) : Recorded κ ν where
  changedColumns := changes
  setClauses := changes.map fun change => clauseText (sql change.1)
  setParams := changes.map Prod.snd

omit [DecidableEq κ] [DecidableEq ν] in
theorem recordChange_recorded (changes : List (κ × Cell ν)) (column : κ) (value : Cell ν) :
    recordChange column (sql column) value (recorded sql changes) =
      recorded sql (changes ++ [(column, value)]) := by
  simp only [recordChange, recorded, List.map_append, List.map_cons, List.map_nil]

omit [DecidableEq κ] in
/-- The comparisons record the changes, each with its clause and its parameter. -/
theorem foldl_recordField (hsql : ∀ field ∈ fields, field.sqlColumn = sql field.column)
    (done : List (κ × Cell ν)) :
    fields.foldl (recordField row) (recorded sql done) =
      recorded sql (done ++ PartialUpdates.changes row (fields.map Column.toField)) := by
  induction fields generalizing done with
  | nil => rw [List.foldl_nil, List.map_nil, PartialUpdates.changes, List.filterMap_nil, List.append_nil]
  | cons field rest ih =>
    have hrest := ih fun next hnext => hsql next (List.mem_cons_of_mem _ hnext)
    rw [List.foldl_cons, List.map_cons, PartialUpdates.changes, List.filterMap_cons, changed, recordField]
    cases hasked : field.asked with
    | none => exact hrest done
    | some value =>
      rw [Option.elim_some, Option.bind_some]
      split_ifs with hsame
      · exact hrest done
      · rw [hsql field List.mem_cons_self, recordChange_recorded, hrest, List.append_assoc]
        rfl

def allChanges (now : JsString) (changes : List (κ × Cell ν)) : List (κ × Cell ν) :=
  if changes = [] then [] else changes ++ [(updatedAt, .text now)]

omit [DecidableEq ν] in
theorem finish_recorded (hsql : sql updatedAt = js "updated_at") (now : JsString)
    (changes : List (κ × Cell ν)) :
    let result := finish updatedAt row now (recorded sql changes)
    result.setClauses = (recorded sql (allChanges updatedAt now changes)).setClauses ∧
      result.setParams = (recorded sql (allChanges updatedAt now changes)).setParams ∧
      result.changedColumns = allChanges updatedAt now changes ∧
      result.updatedRow = overlay row (allChanges updatedAt now changes) ∧
      (result.hasChanges = false ↔ changes = []) := by
  cases changes with
  | nil =>
    refine ⟨rfl, rfl, rfl, ?_, iff_of_true rfl rfl⟩
    exact Function.update_eq_self updatedAt row
  | cons change rest =>
    refine ⟨?_, ?_, rfl, ?_, iff_of_false Bool.noConfusion (List.cons_ne_nil change rest)⟩
    · change (recordChange updatedAt (js "updated_at") (.text now) (recorded sql (change :: rest))).setClauses = _
      rw [← hsql, recordChange_recorded]
      rfl
    · change (recordChange updatedAt (js "updated_at") (.text now) (recorded sql (change :: rest))).setParams = _
      rw [← hsql, recordChange_recorded]
      rfl
    · change Function.update (overlay row ((change :: rest) ++ [(updatedAt, .text now)])) updatedAt
        (.text now) = overlay row ((change :: rest) ++ [(updatedAt, .text now)])
      rw [overlay_append]
      exact Function.update_idem _ _ _

structure Lawful (columns : List κ) (asked : κ → Option (Cell ν)) : Prop where
  names : ∀ field ∈ fields, field.sqlColumn = sql field.column
  time : sql updatedAt = js "updated_at"
  injective : Function.Injective sql
  all : ∀ column, column ∈ columns
  nodup : (fields.map fun field => field.column).Nodup
  other : ∀ field ∈ fields, field.column ≠ updatedAt
  asks : ∀ field ∈ fields, field.asked = asked field.column
  complete : ∀ column, asked column ≠ none → ∃ field ∈ fields, field.column = column

omit [DecidableEq κ] in
theorem clauseText_injective (h : Function.Injective sql) :
    Function.Injective fun column => clauseText (sql column) := by
  intro a b hab
  exact h (List.append_cancel_right hab)

def fieldChanges (row : κ → Cell ν) : List (κ × Cell ν) :=
  PartialUpdates.changes row (fields.map Column.toField)

section Lawful
variable (columns : List κ) (asked : κ → Option (Cell ν))
  (h : Lawful sql updatedAt fields columns asked) (now : JsString)

include h in
theorem applyUpdates_outputs :
    let result := applyUpdates updatedAt fields row now
    let all := allChanges updatedAt now (fieldChanges fields row)
    result.setClauses = (recorded sql all).setClauses ∧
      result.setParams = (recorded sql all).setParams ∧ result.changedColumns = all ∧
      result.updatedRow = overlay row all ∧
      (result.hasChanges = false ↔ fieldChanges fields row = []) := by
  have hresult : applyUpdates updatedAt fields row now =
      finish updatedAt row now (recorded sql (fieldChanges fields row)) :=
    congrArg (finish updatedAt row now) (foldl_recordField sql fields row h.names [])
  rw [hresult]
  exact finish_recorded sql updatedAt row h.time now (fieldChanges fields row)

include h in
theorem updatedRow_column (column : κ) (hcolumn : column ≠ updatedAt) :
    (applyUpdates updatedAt fields row now).updatedRow column =
      overlay row (fieldChanges fields row) column := by
  obtain ⟨-, -, -, hrow, -⟩ := applyUpdates_outputs sql updatedAt fields row columns asked h now
  rw [hrow]
  unfold allChanges
  split_ifs with hnil
  · rw [hnil]
  · rw [overlay_append]
    exact Function.update_of_ne hcolumn _ _

omit [DecidableEq κ] [DecidableEq ν] in
include h in
theorem toField_nodup : ((fields.map Column.toField).map Field.column).Nodup := by
  rw [List.map_map]
  exact h.nodup

omit [DecidableEq κ] in
include h in
theorem allChanges_nodup :
    ((allChanges updatedAt now (fieldChanges fields row)).map Prod.fst).Nodup := by
  unfold allChanges
  split_ifs with hnil
  · exact List.nodup_nil
  · have hcolumns := changes_columns row (fields.map Column.toField)
    rw [List.map_append, List.nodup_append]
    refine ⟨(toField_nodup sql updatedAt fields columns asked h).sublist hcolumns,
      List.nodup_singleton _, ?_⟩
    rintro column hcolumn time htime rfl
    obtain rfl := List.mem_singleton.mp htime
    obtain ⟨field, hfield, hsame⟩ := List.mem_map.mp (hcolumns.subset hcolumn)
    obtain ⟨full, hfull, rfl⟩ := List.mem_map.mp hfield
    exact h.other full hfull hsame

omit [DecidableEq κ] in
include h in
theorem allChanges_kept (time : Text) :
    (∀ change ∈ allChanges updatedAt time.1 (fieldChanges fields row), change.2.stored = change.2) ↔
      Storable asked row := by
  constructor
  · intro hkept column value hvalue hnew
    obtain ⟨field, hfield, rfl⟩ := h.complete column (by rw [hvalue]; exact Option.some_ne_none value)
    have hchange : (field.column, value) ∈ fieldChanges fields row := by
      refine List.mem_filterMap.mpr ⟨field.toField, List.mem_map_of_mem hfield, ?_⟩
      rw [changed, h.asks field hfield, hvalue, Option.bind_some, if_neg hnew]
    have hne : fieldChanges fields row ≠ [] := List.ne_nil_of_mem hchange
    unfold allChanges at hkept
    rw [if_neg hne] at hkept
    exact hkept _ (List.mem_append_left _ hchange)
  · intro hstorable change hchange
    unfold allChanges at hchange
    split_ifs at hchange
    · exact absurd hchange List.not_mem_nil
    · rcases List.mem_append.mp hchange with hchange | hchange
      · obtain ⟨field, hfield, hchanged⟩ := List.mem_filterMap.mp hchange
        obtain ⟨full, hfull, rfl⟩ := List.mem_map.mp hfield
        obtain ⟨hcolumn, hasked, hnew⟩ := changed_column row full.toField change hchanged
        exact hstorable full.column change.2 ((h.asks full hfull).symm.trans hasked) hnew
      · rw [List.mem_singleton.mp hchange]
        exact congrArg Cell.text (text_stored time)

include h in
/-- A mapper with lawful fields agrees with its statement on what is read back as it is. -/
theorem applyUpdates_agrees (time : Text) :
    Agrees columns sql updatedAt asked
      (fun row now => (applyUpdates updatedAt fields row now).toUpdateResult) row time.1 ↔
        Storable asked row := by
  have houtputs := applyUpdates_outputs sql updatedAt fields row columns asked h time.1
  obtain ⟨hclauses, hparams, -, hrow, hchanges⟩ := houtputs
  have hcolumn := updatedRow_column sql updatedAt fields row columns asked h time.1
  have hnodup := toField_nodup sql updatedAt fields columns asked h
  have hexecutes : executeSet columns (fun column => clauseText (sql column)) Cell.stored row
      (applyUpdates updatedAt fields row time.1).setClauses
      (applyUpdates updatedAt fields row time.1).setParams =
        some (applyUpdates updatedAt fields row time.1).updatedRow ↔ Storable asked row := by
    rw [hclauses, hparams, hrow, ← allChanges_kept sql updatedAt fields row columns asked h time]
    have hexecuted := executeSet_overlay columns _ (clauseText_injective sql h.injective) Cell.stored
      row (allChanges updatedAt time.1 (fieldChanges fields row)) fun change _ => h.all change.1
    rw [← overlay_kept Cell.stored row _ (allChanges_nodup sql updatedAt fields row columns asked h time.1)]
    exact (Eq.congr_left hexecuted).trans (Option.some_inj)
  refine ⟨fun hagrees => hexecutes.mp hagrees.executes, fun hstorable => ?_⟩
  refine ⟨hexecutes.mpr hstorable, ?_, ?_, ?_, ?_, ?_⟩
  · intro column hother hnone
    rw [hcolumn column hother]
    apply overlay_unasked
    intro field hfield hsame
    obtain ⟨full, hfull, rfl⟩ := List.mem_map.mp hfield
    rw [h.asks full hfull, hsame, hnone]
  · intro column value hvalue
    obtain ⟨field, hfield, rfl⟩ := h.complete column (by rw [hvalue]; exact Option.some_ne_none value)
    rw [hcolumn _ (h.other field hfield)]
    exact overlay_asked row _ hnodup field.toField (List.mem_map_of_mem hfield) value
      ((h.asks field hfield).trans hvalue)
  · refine hchanges.trans ⟨?_, ?_⟩
    · intro hnil column hother
      rw [hcolumn column hother, hnil]
      rfl
    · intro hsame
      apply (changes_nil_iff row _ hnodup).mpr
      intro field hfield
      obtain ⟨full, hfull, rfl⟩ := List.mem_map.mp hfield
      rw [← hsame _ (h.other full hfull)]
      exact (hcolumn _ (h.other full hfull)).symm
  · intro hnone
    rw [hrow, hchanges.mp hnone]
    rfl
  · intro later
    obtain ⟨-, -, -, -, hlater⟩ := applyUpdates_outputs sql updatedAt fields
      (applyUpdates updatedAt fields row time.1).updatedRow columns asked h later
    rw [hlater]
    apply changes_again row _ hnodup
    intro field hfield
    obtain ⟨full, hfull, rfl⟩ := List.mem_map.mp hfield
    exact hcolumn _ (h.other full hfull)

end Lawful

end Mapper

theorem agent_lawful [JsNumber ν] (dto : UpdateAgentDto ν) :
    Lawful AgentColumn.sql .updatedAt (agentFields dto) agentColumns dto.asked where
  names := by
    simp only [agentFields, List.forall_mem_cons]
    exact ⟨rfl, rfl, rfl, rfl, rfl, rfl, rfl, rfl, List.forall_mem_nil _⟩
  time := rfl
  injective := by
    have all : ∀ a ∈ agentColumns, ∀ b ∈ agentColumns, a.sql = b.sql → a = b := by decide
    intro a b hab
    exact all a (by cases a <;> decide) b (by cases b <;> decide) hab
  all := by
    intro column
    cases column <;> decide
  nodup := by
    change [AgentColumn.name, .personality, .instructions, .systemPromptId, .modelId, .temperature,
      .maxTokens, .modelParams].Nodup
    decide
  other := by
    simp only [agentFields, List.forall_mem_cons]
    exact ⟨nofun, nofun, nofun, nofun, nofun, nofun, nofun, nofun, List.forall_mem_nil _⟩
  asks := by
    simp only [agentFields, List.forall_mem_cons]
    exact ⟨rfl, rfl, rfl, rfl, rfl, rfl, rfl, rfl, List.forall_mem_nil _⟩
  complete := by
    intro column hasked
    cases column with
    | id | picturePath | createdAt | updatedAt => exact absurd rfl hasked
    | name | personality | instructions | systemPromptId | modelId | temperature | maxTokens
      | modelParams =>
      simp [agentFields]

theorem team_lawful (dto : UpdateTeamDto ν) :
    Lawful TeamColumn.sql .updatedAt (teamFields dto) teamColumns dto.asked where
  names := by
    simp only [teamFields, List.forall_mem_cons]
    exact ⟨rfl, rfl, rfl, rfl, List.forall_mem_nil _⟩
  time := rfl
  injective := by
    have all : ∀ a ∈ teamColumns, ∀ b ∈ teamColumns, a.sql = b.sql → a = b := by decide
    intro a b hab
    exact all a (by cases a <;> decide) b (by cases b <;> decide) hab
  all := by
    intro column
    cases column <;> decide
  nodup := by
    change [TeamColumn.name, .description, .strategy, .maxTurnsPerInteraction].Nodup
    decide
  other := by
    simp only [teamFields, List.forall_mem_cons]
    exact ⟨nofun, nofun, nofun, nofun, List.forall_mem_nil _⟩
  asks := by
    simp only [teamFields, List.forall_mem_cons]
    exact ⟨rfl, rfl, rfl, rfl, List.forall_mem_nil _⟩
  complete := by
    intro column hasked
    cases column with
    | id | createdAt | updatedAt => exact absurd rfl hasked
    | name | description | strategy | maxTurnsPerInteraction => simp [teamFields, teamField]

/-- The columns that an agent's update reports are those that lead to its row. -/
theorem agent_changedColumns [DecidableEq ν] [JsNumber ν] (row : AgentColumn → Cell ν)
    (dto : UpdateAgentDto ν) (now : JsString) :
    (applyAgentUpdates row dto now).updatedRow =
      overlay row (applyAgentUpdates row dto now).changedColumns := by
  obtain ⟨-, -, hcolumns, hrow, -⟩ := applyUpdates_outputs _ _ _ row _ _ (agent_lawful dto) now
  unfold applyAgentUpdates
  rw [hrow, hcolumns]

/-- Both mappers agree with their statements exactly on what is read back as it is, and the columns
that an agent's update reports lead to its row. -/
theorem mappers_agree [DecidableEq ν] [JsNumber ν] (now : Text) :
    (∀ (row : AgentColumn → Cell ν) dto,
      (Agrees agentColumns AgentColumn.sql .updatedAt dto.asked
        (fun row now => (applyAgentUpdates row dto now).toUpdateResult) row now.1 ↔
          Storable dto.asked row) ∧
      (applyAgentUpdates row dto now.1).updatedRow =
        overlay row (applyAgentUpdates row dto now.1).changedColumns) ∧
    ∀ (row : TeamColumn → Cell ν) dto, Agrees teamColumns TeamColumn.sql .updatedAt dto.asked
      (fun row now => applyTeamUpdates row dto now) row now.1 ↔ Storable dto.asked row := by
  constructor
  · intro row dto
    exact ⟨applyUpdates_agrees _ _ _ row _ _ (agent_lawful dto) now,
      agent_changedColumns row dto now.1⟩
  · intro row dto
    exact applyUpdates_agrees _ _ _ row _ _ (team_lawful dto) now

def annsRow : AgentColumn → Cell ℤ
  | .id => .text (js "a1")
  | .name => .text (js "Ann")
  | .createdAt | .updatedAt => .text (js "t1")
  | _ => .null

def tornName : UpdateAgentDto ℤ :=
  ⟨some [0xD800], none, none, none, none, none, none, none⟩

/-- The name that is stored is another than that of the updated row. -/
theorem torn_name :
    ¬∀ (row : AgentColumn → Cell ℤ) dto now, Agrees agentColumns AgentColumn.sql .updatedAt
      (UpdateAgentDto.asked dto)
      (fun row now => (applyAgentUpdates row dto now).toUpdateResult) row now := by
  intro h
  have hexecutes := (h annsRow tornName (js "t2")).executes
  have hname := congrArg (Option.map fun row : AgentColumn → Cell ℤ => row .name) hexecutes
  revert hname
  decide +kernel

end Glassbeetle.UpdateMappers
