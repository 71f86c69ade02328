import Glassbeetle.JsText
import Glassbeetle.SqlTables

set_option autoImplicit false

/-!
# The schema of the database

The files under `data/`, statement by statement, and the bundled copy of each.
-/
namespace Glassbeetle.DataSchema
open JsText SqlTables

inductive TableName where
  | systemPrompts
  | providers
  | models
  | providerCredentials
  | agents
  | agentMemories
  | teams
  | teamMembers
  | projects
  | chats
  | messages
  | sharedMemories
  | artifacts
  | usageEvents
  | backups
  | backupPolicy
  | userProfile
  | spendBudget
  deriving DecidableEq, Repr

inductive ColumnName where
  | id | name | content | createdAt | updatedAt
  | kind | isLocal | baseUrl | enabled
  | providerId | modelIdentifier | displayName | source | contextWindow | defaultTemperature
  | defaultMaxTokens | encryptedValue | nonce | maskedPreview
  | personality | instructions | systemPromptId | modelId | temperature | maxTokens | modelParams
  | picturePath | agentId | tags
  | description | strategy | maxTurnsPerInteraction | teamId | role | position | isCoordinator
  | imagePath | title | projectId | contextSummary | compactedBeforeSequence
  | chatId | sequence | status | tokenCount
  | type | mimeType | filePath | version
  | occurredAt | eventType | inputTokens | outputTokens | costUsd | metadata
  | sizeBytes | trigger | frequency | retentionCount | targetDirectory
  | singleton | pronouns | about | locale | timezone | includeInPrompts | pictureUpdatedAt
  | limitUsd | period
  deriving DecidableEq, Repr

/-- A `REAL` is its bits. -/
inductive Cell where
  | integer (value : ℤ)
  | real (bits : UInt64)
  | text (value : JsString)
  | blob (bytes : List UInt8)
  deriving DecidableEq

abbrev TableColumn := Column TableName ColumnName Cell
abbrev TableDefinition := Definition TableName ColumnName Cell
abbrev TableRow := Row ColumnName Cell
abbrev TableStatement := Statement TableName ColumnName Cell
abbrev DataCatalogue := Catalogue TableName ColumnName Cell

def text (value : String) : Cell := .text (js value)

def nullable (affinity : Affinity) (column : ColumnName) : TableColumn :=
  ⟨column, affinity, false, none, none⟩

def required (affinity : Affinity) (column : ColumnName) : TableColumn :=
  ⟨column, affinity, true, none, none⟩

/-- `NOT NULL DEFAULT value`. -/
def preset (affinity : Affinity) (column : ColumnName) (value : Cell) : TableColumn :=
  ⟨column, affinity, true, some value, none⟩

/-- `REFERENCES table(id)`. -/
def optionalReference (column : ColumnName) (table : TableName) : TableColumn :=
  ⟨column, .text, false, none, some ⟨table, .setNull⟩⟩

def owningReference (column : ColumnName) (table : TableName) : TableColumn :=
  ⟨column, .text, true, none, some ⟨table, .cascade⟩⟩

def stamps : List TableColumn := [required .text .createdAt, required .text .updatedAt]

def systemPrompts : TableDefinition where
  columns := [nullable .text .id, required .text .name, required .text .content] ++ stamps
  unique := [[.id]]

def providers : TableDefinition where
  columns := [nullable .text .id, required .text .name, required .text .kind,
    preset .integer .isLocal (.integer 0), nullable .text .baseUrl,
    preset .integer .enabled (.integer 1)] ++ stamps
  unique := [[.id]]
  checks := [.among .kind [text "anthropic", text "openai", text "google", text "ollama",
    text "lmstudio", text "openai_compatible"]]

def models : TableDefinition where
  columns := [nullable .text .id, owningReference .providerId .providers,
    required .text .modelIdentifier, required .text .displayName, required .text .source,
    nullable .integer .contextWindow, nullable .real .defaultTemperature,
    nullable .integer .defaultMaxTokens, preset .integer .enabled (.integer 1)] ++ stamps
  unique := [[.id], [.providerId, .modelIdentifier]]
  checks := [.among .source [text "discovered", text "manual"]]

def providerCredentials : TableDefinition where
  columns := [⟨.providerId, .text, false, none, some ⟨.providers, .cascade⟩⟩,
    required .blob .encryptedValue, required .blob .nonce, nullable .text .maskedPreview] ++ stamps
  unique := [[.providerId]]

def agents : TableDefinition where
  columns := [nullable .text .id, required .text .name, nullable .text .personality,
    nullable .text .instructions, optionalReference .systemPromptId .systemPrompts,
    optionalReference .modelId .models, nullable .real .temperature, nullable .integer .maxTokens,
    nullable .text .modelParams, nullable .text .picturePath] ++ stamps
  unique := [[.id]]

def agentMemories : TableDefinition where
  columns := [nullable .text .id, owningReference .agentId .agents, required .text .content,
    nullable .text .tags] ++ stamps
  unique := [[.id]]

def teams : TableDefinition where
  columns := [nullable .text .id, required .text .name, nullable .text .description,
    preset .text .strategy (text "sequential"),
    ⟨.maxTurnsPerInteraction, .integer, false, some (.integer 5), none⟩] ++ stamps
  unique := [[.id]]

def teamMembers : TableDefinition where
  columns := [owningReference .teamId .teams, owningReference .agentId .agents,
    nullable .text .role, nullable .integer .position, preset .integer .isCoordinator (.integer 0),
    required .text .createdAt]
  unique := [[.teamId, .agentId]]

def projects : TableDefinition where
  columns := [nullable .text .id, required .text .name, nullable .text .description,
    nullable .text .imagePath] ++ stamps
  unique := [[.id]]

def chats : TableDefinition where
  columns := [nullable .text .id, nullable .text .title, optionalReference .projectId .projects,
    optionalReference .agentId .agents, optionalReference .teamId .teams,
    nullable .text .contextSummary, nullable .integer .compactedBeforeSequence] ++ stamps
  unique := [[.id]]
  checks := [.eitherOr .agentId .teamId]

def messages : TableDefinition where
  columns := [nullable .text .id, owningReference .chatId .chats, required .integer .sequence,
    required .text .role, optionalReference .agentId .agents, required .text .content,
    preset .text .status (text "complete"), nullable .integer .tokenCount,
    required .text .createdAt]
  unique := [[.id], [.chatId, .sequence]]
  checks := [.among .role [text "user", text "assistant", text "system", text "tool"],
    .among .status [text "pending", text "streaming", text "complete", text "error"]]

def sharedMemories : TableDefinition where
  columns := [nullable .text .id, required .text .content, nullable .text .tags] ++ stamps
  unique := [[.id]]

def artifacts : TableDefinition where
  columns := [nullable .text .id, optionalReference .projectId .projects,
    optionalReference .chatId .chats, optionalReference .agentId .agents, required .text .title,
    required .text .type, nullable .text .mimeType, nullable .text .content,
    nullable .text .filePath, preset .integer .version (.integer 1)] ++ stamps
  unique := [[.id]]

def usageEvents : TableDefinition where
  columns := [nullable .text .id, required .text .occurredAt, required .text .eventType,
    optionalReference .agentId .agents, optionalReference .providerId .providers,
    optionalReference .modelId .models, optionalReference .chatId .chats,
    nullable .integer .inputTokens, nullable .integer .outputTokens, nullable .real .costUsd,
    nullable .text .metadata]
  unique := [[.id]]

def backups : TableDefinition where
  columns := [nullable .text .id, required .text .filePath, required .integer .sizeBytes,
    required .text .trigger, required .text .createdAt]
  unique := [[.id]]
  checks := [.among .trigger [text "manual", text "scheduled"]]

def backupPolicy : TableDefinition where
  columns := [nullable .integer .id, preset .integer .enabled (.integer 0),
    preset .text .frequency (text "daily"), preset .integer .retentionCount (.integer 7),
    nullable .text .targetDirectory, required .text .updatedAt]
  unique := [[.id]]
  checks := [.among .id [.integer 1],
    .among .frequency [text "hourly", text "daily", text "weekly"]]

def userProfile : TableDefinition where
  columns := [nullable .text .id, preset .integer .singleton (.integer 1),
    nullable .text .displayName, nullable .text .pronouns, nullable .text .about,
    nullable .text .locale, nullable .text .timezone,
    preset .integer .includeInPrompts (.integer 1), nullable .text .picturePath,
    nullable .text .pictureUpdatedAt] ++ stamps
  unique := [[.id], [.singleton]]
  checks := [.among .singleton [.integer 1]]

def spendBudget : TableDefinition where
  columns := [nullable .text .id, preset .integer .singleton (.integer 1), nullable .real .limitUsd,
    preset .text .period (text "monthly")] ++ stamps
  unique := [[.id], [.singleton]]
  checks := [.among .singleton [.integer 1],
    .among .period [text "daily", text "weekly", text "monthly"]]

def schema : TableName → TableDefinition
  | .systemPrompts => systemPrompts
  | .providers => providers
  | .models => models
  | .providerCredentials => providerCredentials
  | .agents => agents
  | .agentMemories => agentMemories
  | .teams => teams
  | .teamMembers => teamMembers
  | .projects => projects
  | .chats => chats
  | .messages => messages
  | .sharedMemories => sharedMemories
  | .artifacts => artifacts
  | .usageEvents => usageEvents
  | .backups => backups
  | .backupPolicy => backupPolicy
  | .userProfile => userProfile
  | .spendBudget => spendBudget

theorem schema_names (name : TableName) : (schema name).names.Nodup := by
  cases name <;> decide

/-- One area's `index.sql`. -/
inductive Area where
  | providers
  | agents
  | teams
  | chats
  | artifacts
  | analytics
  deriving DecidableEq, Repr

inductive SqlFile where
  | global
  | table (name : TableName)
  | seed
  | index (area : Area)
  deriving DecidableEq, Repr

def migrationFileSequence : List SqlFile :=
  [.global, .table .systemPrompts, .table .providers, .table .models, .table .providerCredentials,
    .table .agents, .table .agentMemories, .table .teams, .table .teamMembers, .table .projects,
    .table .chats, .table .messages, .table .sharedMemories, .table .artifacts,
    .table .usageEvents, .table .backups, .table .backupPolicy, .seed, .table .userProfile,
    .table .spendBudget, .index .providers, .index .agents, .index .teams, .index .chats,
    .index .artifacts, .index .analytics]

def areaIndexes : Area → List (Index TableName ColumnName)
  | .providers => [⟨.models, [.providerId]⟩]
  | .agents => [⟨.agents, [.systemPromptId]⟩, ⟨.agents, [.modelId]⟩, ⟨.agentMemories, [.agentId]⟩]
  | .teams => [⟨.teamMembers, [.agentId]⟩]
  | .chats => [⟨.chats, [.projectId]⟩, ⟨.chats, [.agentId]⟩, ⟨.chats, [.teamId]⟩,
      ⟨.messages, [.chatId, .sequence]⟩]
  | .artifacts => [⟨.artifacts, [.projectId]⟩, ⟨.artifacts, [.chatId]⟩, ⟨.artifacts, [.agentId]⟩]
  | .analytics => [⟨.usageEvents, [.occurredAt]⟩, ⟨.usageEvents, [.agentId]⟩,
      ⟨.usageEvents, [.providerId]⟩, ⟨.usageEvents, [.modelId]⟩]

/-- The row that `backups/seed.sql` inserts; `now` is `strftime(…, 'now')`. -/
def seedRow (now : JsString) : TableRow
  | .id => some (.integer 1)
  | .enabled => some (.integer 0)
  | .frequency => some (text "daily")
  | .retentionCount => some (.integer 7)
  | .updatedAt => some (.text now)
  | _ => none

def fallbackSql (now : JsString) : SqlFile → List TableStatement
  | .global => [.pragma]
  | .table name => [.createTable false name (schema name)]
  | .seed => [.insert .backupPolicy (seedRow now)]
  | .index area => (areaIndexes area).map .createIndex

end Glassbeetle.DataSchema
