import Glassbeetle.ContextConstruction
import Glassbeetle.Database
import Glassbeetle.JsValue

set_option autoImplicit false

/-!
# From a chat to the request that is sent

Which agent, model, provider and key a completion uses, and what the provider is
asked.
-/
namespace Glassbeetle.ExecutionChain
open JsText JsValue AdapterTypes Database ContextConstruction

variable {ν : Type}

/-- What a call can throw: an adapter's error, an HTTP exception, or anything else. -/
inductive Failure where
  | adapter (error : ModelAdapterError)
  | http (status : ℕ) (code message : JsString)
  | thrown (name message : JsString)
  deriving DecidableEq, Repr

def Failure.message : Failure → JsString
  | .adapter error => error.message
  | .http _ _ message => message
  | .thrown _ message => message

theorem ok_of_bind {ε α β : Type} (r : Except ε α) (f : α → Except ε β) (b : β)
    (h : r >>= f = .ok b) : ∃ a, r = .ok a ∧ f a = .ok b := by
  cases r with
  | error e => cases h
  | ok a => exact ⟨a, rfl, h⟩

theorem ok_of_isOk {ε α : Type} (r : Except ε α) (h : r.isOk = true) : ∃ a, r = .ok a := by
  cases r with
  | error e => cases h
  | ok a => exact ⟨a, rfl⟩

theorem ok_of_guard {ε α : Type} (c : Prop) [Decidable c] (e : ε) (k : Except ε α) (b : α)
    (h : (if c then (do let _ ← (throw e : Except ε PUnit); k) else k) = .ok b) : k = .ok b := by
  split_ifs at h
  · cases h
  · exact h

def unprocessable (code : String) (message : JsString) : Failure := .http 422 (js code) message

structure CreateCompletionDto (ν : Type) where
  modelId : Option JsString
  temperature : Option ν
  maxTokens : Option ℤ
  strategy : Option TeamStrategy
  maxTurns : Option ℤ

structure Execution (ν : Type) where
  model : ModelRow ν
  provider : ProviderRow
  apiKey : Option JsString

/-- The rest of `resolveAgentExecution` once the model's identifier is known. -/
def resolveModel (db : Tables ν) (effectiveModelId : JsString) : Except Failure (Execution ν) := do
  let some model := db.model effectiveModelId
    | throw (unprocessable "MODEL_NOT_FOUND"
        (js "Model with ID \"" ++ effectiveModelId ++ js "\" was not found"))
  if !model.enabled then
    throw (unprocessable "MODEL_DISABLED"
      (js "Model \"" ++ model.displayName ++ js "\" is disabled"))
  let some provider := db.provider model.providerId
    | throw (unprocessable "PROVIDER_NOT_FOUND"
        (js "Provider with ID \"" ++ model.providerId ++ js "\" was not found"))
  if !provider.enabled then
    throw (unprocessable "PROVIDER_DISABLED"
      (js "Provider \"" ++ provider.name ++ js "\" is disabled"))
  let isLocal := provider.isLocal ∨ provider.kind = js "ollama" ∨ provider.kind = js "lmstudio"
  let apiKey ← match db.credentials.lookup provider.id with
    | none => pure none
    | some (.ok key) => pure (some key)
    | some (.error message) => throw (.thrown (js "Error") message)
  if ¬isLocal ∧ apiKey.all fun key => trim key = [] then
    throw (unprocessable "CREDENTIAL_MISSING" (js "Provider \"" ++ provider.name ++
      js "\" requires an API credential that is not configured"))
  return ⟨model, provider, apiKey⟩

theorem resolveModel_found (db : Tables ν) (id : JsString) (execution : Execution ν)
    (h : resolveModel db id = .ok execution) :
    db.model id = some execution.model ∧
      db.provider execution.model.providerId = some execution.provider := by
  unfold resolveModel at h
  cases hmodel : db.model id with
  | none => rw [hmodel] at h; cases h
  | some model =>
    simp only [hmodel] at h
    replace h := ok_of_guard _ _ _ _ h
    cases hprovider : db.provider model.providerId with
    | none => rw [hprovider] at h; cases h
    | some provider =>
      simp only [hprovider] at h
      replace h := ok_of_guard _ _ _ _ h
      cases hkey : db.credentials.lookup provider.id with
      | none =>
        rw [hkey] at h
        cases ok_of_guard _ _ _ _ h
        exact ⟨rfl, hprovider⟩
      | some outcome =>
        rw [hkey] at h
        cases outcome with
        | error message => cases h
        | ok key =>
          cases ok_of_guard _ _ _ _ h
          exact ⟨rfl, hprovider⟩

def resolveAgentExecution (db : Tables ν) (agent : AgentRow ν) (overrideModelId : Option JsString) :
    Except Failure (Execution ν) :=
  match truthy (overrideModelId.or agent.modelId) with
  | none => .error (unprocessable "AGENT_HAS_NO_MODEL"
      (js "Agent \"" ++ agent.name ++ js "\" has no model configured"))
  | some effectiveModelId => resolveModel db effectiveModelId

/-- Request body, then agent, then model. -/
def effectiveTemperature (dto : CreateCompletionDto ν) (agent : AgentRow ν) (model : ModelRow ν) :
    Option ν :=
  (dto.temperature.or agent.temperature).or model.defaultTemperature

def effectiveMaxTokens (dto : CreateCompletionDto ν) (agent : AgentRow ν) (model : ModelRow ν) :
    Option ℤ :=
  (dto.maxTokens.or agent.maxTokens).or model.defaultMaxTokens

def effectiveModelParams (runtime : Runtime ν) (agent : AgentRow ν) : Option (Json ν) :=
  (truthy agent.modelParams).bind runtime.parseJson

def systemPromptTemplate (db : Tables ν) (agent : AgentRow ν) : Option JsString := do
  let id ← truthy agent.systemPromptId
  let sp ← db.systemPrompts.find? (·.id = id)
  truthy (some sp.content)

def memberRole (db : Tables ν) (teamId agentId : JsString) : Option JsString := do
  let member ← db.teamMembers.find? fun tm => tm.teamId = teamId ∧ tm.agentId = agentId
  member.role

/-- The agent's instructions, in a team with the directive for its role. -/
def instructionsFor (db : Tables ν) (chat : ChatRow) (agent : AgentRow ν) : Option JsString :=
  match chat.teamId with
  | none => agent.instructions
  | some teamId =>
    match trimmed (memberRole db teamId agent.id) with
    | none => agent.instructions
    | some role =>
      let name := ((db.team teamId).map (·.name)).getD (js "Team")
      let roleDirective := js "In this conversation, you are collaborating as the " ++ role ++
        js " for team '" ++ name ++ js "'."
      match truthy agent.instructions with
      | some instructions => some (instructions ++ js "\n\n" ++ roleDirective)
      | none => some roleDirective

def inputMessage (db : Tables ν) (chat : ChatRow) (row : MessageRow) : ContextInputMessage where
  id := some row.id
  sequence := row.sequence
  role := row.role
  content := row.content
  status := row.status.text
  agentId := row.agentId
  agentName := match chat.teamId with
    | none => none
    | some _ => do return (← db.agent (← row.agentId)).name
  agentRole := match chat.teamId with
    | none => none
    | some teamId => do memberRole db teamId (← row.agentId)

/-- The rows of the chat `ORDER BY sequence ASC`. -/
def history (db : Tables ν) (chat : ChatRow) : List MessageRow :=
  (db.messages.filter (·.chatId = chat.id)).insertionSort fun a b => a.sequence ≤ b.sequence

def contextInput (db : Tables ν) (chat : ChatRow) (agent : AgentRow ν) (model : ModelRow ν)
    (maxSequence : Option ℤ) : BuildContextInput where
  sources := {
    systemPromptTemplate := systemPromptTemplate db agent
    personality := agent.personality
    instructions := instructionsFor db chat agent
    contextSummary := chat.contextSummary }
  messages := (history db chat).map (inputMessage db chat)
  contextWindow := model.contextWindow
  fittingStrategy := some .refuse
  compactedBeforeSequence := chat.compactedBeforeSequence
  memorySeam := none
  isTeamChat := chat.teamId.isSome
  currentAgentId := some agent.id
  maxSequence := maxSequence

def buildForChat (db : Tables ν) (chat : ChatRow) (agent : AgentRow ν) (model : ModelRow ν)
    (maxSequence : Option ℤ) : Except ContextConstruction.ContextLengthExceededError AssembledContext :=
  buildContextPure (contextInput db chat agent model maxSequence)

abbrev Prompt := Option JsString × List AdapterMessage

def buildContext (db : Tables ν) (chat : ChatRow) (agent : AgentRow ν) (model : ModelRow ν)
    (maxSequence : Option ℤ) : Except Failure Prompt :=
  match buildForChat db chat agent model maxSequence with
  | .ok assembled => .ok (assembled.systemPrompt, assembled.messages)
  | .error e => .error (.adapter (contextLengthExceededError e.message none))

structure CompletionRequest (ν : Type) where
  model : JsString
  systemPrompt : Option JsString
  messages : List AdapterMessage
  temperature : Option ν
  maxTokens : Option ℤ
  modelParams : Option (Json ν)

def completionRequest (runtime : Runtime ν) (dto : CreateCompletionDto ν) (agent : AgentRow ν)
    (model : ModelRow ν) (prompt : Prompt) : CompletionRequest ν where
  model := model.modelIdentifier
  systemPrompt := prompt.1
  messages := prompt.2
  temperature := effectiveTemperature dto agent model
  maxTokens := effectiveMaxTokens dto agent model
  modelParams := effectiveModelParams runtime agent

structure AdapterConfig where
  providerId : JsString
  providerKind : JsString
  baseUrl : Option JsString
  apiKey : Option JsString
  modelIdentifier : JsString
  deriving DecidableEq, Repr

def Execution.config (execution : Execution ν) : AdapterConfig where
  providerId := execution.provider.id
  providerKind := execution.provider.kind
  baseUrl := execution.provider.baseUrl
  apiKey := execution.apiKey
  modelIdentifier := execution.model.modelIdentifier

structure TeamMember where
  agentId : JsString
  role : Option JsString
  position : Option ℤ
  agentName : JsString
  isCoordinator : Bool
  deriving DecidableEq, Repr

/-- The order of `TEXT` columns that hold ASCII. -/
def textLe : JsString → JsString → Bool
  | [], _ => true
  | _ :: _, [] => false
  | c :: s, d :: t => c < d || (c = d && textLe s t)

/-- `position ASC NULLS LAST, created_at ASC, agent_id ASC` -/
def memberLe (a b : TeamMemberRow) : Bool :=
  let later := if a.createdAt = b.createdAt then textLe a.agentId b.agentId
    else textLe a.createdAt b.createdAt
  match a.position, b.position with
  | some p, some q => p < q || (p = q && later)
  | some _, none => true
  | none, some _ => false
  | none, none => later

def getActiveTeamMembers (db : Tables ν) (teamId : JsString) : List TeamMember :=
  ((db.teamMembers.filter (·.teamId = teamId)).insertionSort fun a b => memberLe a b = true).filterMap
    fun tm => (db.agent tm.agentId).map fun agent =>
      ⟨tm.agentId, tm.role, tm.position, agent.name, tm.isCoordinator⟩

/-- `resolveExecutionChain` for a chat that an agent owns. -/
def resolveExecutionChain (db : Tables ν) (chat : ChatRow) (overrideModelId : Option JsString) :
    Except Failure (AgentRow ν × Execution ν) :=
  match truthy chat.agentId with
  | none => .error (unprocessable "CHAT_HAS_NO_AGENT"
      (js "Chat has no assigned agent to execute completions"))
  | some agentId =>
    match db.agent agentId with
    | none => .error (unprocessable "AGENT_NOT_FOUND"
        (js "Agent with ID \"" ++ agentId ++ js "\" was not found"))
    | some agent => (resolveAgentExecution db agent overrideModelId).map fun e => (agent, e)

theorem resolveExecutionChain_ok (db : Tables ν) (chat : ChatRow)
    (overrideModelId : Option JsString) (agent : AgentRow ν) (execution : Execution ν)
    (h : resolveExecutionChain db chat overrideModelId = .ok (agent, execution)) :
    ∃ agentId, truthy chat.agentId = some agentId ∧ db.agent agentId = some agent ∧
      resolveAgentExecution db agent overrideModelId = .ok execution := by
  unfold resolveExecutionChain at h
  cases hid : truthy chat.agentId with
  | none => rw [hid] at h; cases h
  | some agentId =>
    simp only [hid] at h
    cases hagent : db.agent agentId with
    | none => rw [hagent] at h; cases h
    | some found =>
      simp only [hagent] at h
      cases hexecution : resolveAgentExecution db found overrideModelId with
      | error e => rw [hexecution] at h; cases h
      | ok e =>
        rw [hexecution] at h
        cases h
        exact ⟨agentId, rfl, hagent, hexecution⟩

end Glassbeetle.ExecutionChain
