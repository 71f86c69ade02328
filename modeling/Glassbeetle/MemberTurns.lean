import Glassbeetle.Inference

set_option autoImplicit false

namespace Glassbeetle.MemberTurns
open JsText JsValue AdapterTypes Database ContextConstruction ExecutionChain AsyncGenerator Inference

variable {ν : Type}

structure PreparedTurn (ν : Type) where
  agent : AgentRow ν
  execution : Execution ν
  request : CompletionRequest ν

def effectiveAgent (agent : AgentRow ν) (extraInstructions : Option JsString) : AgentRow ν :=
  match truthy extraInstructions with
  | none => agent
  | some extra =>
    { agent with
      instructions := match truthy agent.instructions with
        | some instructions => some (instructions ++ js "\n\n" ++ extra)
        | none => some extra }

/-- Reading from an agent that has been deleted in the meantime. -/
def missingAgent : Failure :=
  .thrown (js "TypeError") (js "Cannot read properties of undefined")

/-- What both kinds of turn do before they write or send anything. -/
def prepareTurn (runtime : Runtime ν) (db : Tables ν) (chat : ChatRow)
    (dto : CreateCompletionDto ν) (turn : Turn) : Except Failure (PreparedTurn ν) :=
  match db.agent turn.member.agentId with
  | none => do
    if let some modelId := truthy dto.modelId then
      let _ ← resolveModel db modelId
    throw missingAgent
  | some agent => do
    let execution ← resolveAgentExecution db agent dto.modelId
    let prompt ← buildContext db chat (effectiveAgent agent turn.extraInstructions) execution.model
      turn.maxSequence
    return ⟨agent, execution, completionRequest runtime dto agent execution.model prompt⟩

theorem prepareTurn_ok (runtime : Runtime ν) (db : Tables ν) (chat : ChatRow)
    (dto : CreateCompletionDto ν) (turn : Turn) (prepared : PreparedTurn ν)
    (h : prepareTurn runtime db chat dto turn = .ok prepared) :
    db.agent turn.member.agentId = some prepared.agent ∧
      resolveAgentExecution db prepared.agent dto.modelId = .ok prepared.execution ∧
      ∃ prompt, buildContext db chat (effectiveAgent prepared.agent turn.extraInstructions)
          prepared.execution.model turn.maxSequence = .ok prompt ∧
        prepared.request =
          completionRequest runtime dto prepared.agent prepared.execution.model prompt := by
  unfold prepareTurn at h
  split at h
  · split at h
    · rename_i modelId _
      cases hm : resolveModel db modelId with
      | error e => rw [hm] at h; cases h
      | ok e => rw [hm] at h; cases h
    · cases h
  · rename_i agent hagent
    cases he : resolveAgentExecution db agent dto.modelId with
    | error e => rw [he] at h; cases h
    | ok execution =>
      rw [he] at h
      cases hp : buildContext db chat (effectiveAgent agent turn.extraInstructions) execution.model
          turn.maxSequence with
      | error e =>
        change (do
          let prompt ← buildContext db chat (effectiveAgent agent turn.extraInstructions)
            execution.model turn.maxSequence
          return ⟨agent, execution, completionRequest runtime dto agent execution.model prompt⟩ :
            Except Failure (PreparedTurn ν)) = .ok prepared at h
        rw [hp] at h
        cases h
      | ok prompt =>
        change (do
          let prompt ← buildContext db chat (effectiveAgent agent turn.extraInstructions)
            execution.model turn.maxSequence
          return ⟨agent, execution, completionRequest runtime dto agent execution.model prompt⟩ :
            Except Failure (PreparedTurn ν)) = .ok prepared at h
        rw [hp] at h
        cases h
        exact ⟨hagent, he, prompt, hp, rfl⟩

theorem prepareTurn_agent (runtime : Runtime ν) (db : Tables ν) (chat : ChatRow)
    (dto : CreateCompletionDto ν) (turn : Turn) (prepared : PreparedTurn ν)
    (h : prepareTurn runtime db chat dto turn = .ok prepared) :
    db.agent prepared.agent.id = some prepared.agent := by
  have hfound := (prepareTurn_ok runtime db chat dto turn prepared h).1
  have hid := List.find?_some hfound
  rw [of_decide_eq_true hid]
  exact hfound

variable (env : Environment ν)

def executeMemberTurn (chat : ChatRow) (dto : CreateCompletionDto ν) (turn : Turn) :
    Run ν CompletionResponseDto := do
  let w ← Gen.read
  let prepared ← Gen.lift (prepareTurn env.toRuntime w.db chat dto turn)
  let _ ← Gen.lift (env.create w.clock prepared.execution.config)
  let response ← callComplete env prepared.agent.id prepared.execution prepared.request
  persistAssistantReply env chat prepared.agent prepared.execution response

structure TurnResult where
  content : JsString
  usage : Option (TokenUsage ℤ)
  error : Option Failure

def speakerName (member : TeamMember) : JsString :=
  match truthy member.role with
  | some role => member.agentName ++ js " (" ++ role ++ js ")"
  | none => member.agentName

def finishTurn (chat : ChatRow) (prepared : PreparedTurn ν) (row : MessageRow) (p : Progress)
    (turnError : Option Failure) : Run ν TurnResult := do
  if ← isAborted env then
    let p ← finishAborted env chat row p
    return ⟨p.accumulatedContent, p.reportedUsage,
      some (.adapter (requestAbortedError (js "Aborted") (some (js "generic"))))⟩
  else match turnError with
    | some failure => do
      let p ← flushPartial env chat row p .error p.outputTokens
      yieldEvent env (.error (env.errorPayload prepared.execution failure))
      yieldEvent env .done
      return ⟨p.accumulatedContent, p.reportedUsage, some failure⟩
    | none => do
      let p ← flushPartial env chat row p .complete p.outputTokens
      note fun w => .usageRow w.db prepared.agent.id chat.id prepared.execution
      recordUsage env chat prepared.agent prepared.execution p.reportedUsage
      yieldEvent env (.messageComplete row.id p.outputTokens p.reportedUsage)
      return ⟨p.accumulatedContent, p.reportedUsage, none⟩

/-- The adapter is created after the row and outside the `try` block. -/
def streamMemberTurn (chat : ChatRow) (dto : CreateCompletionDto ν) (turn : Turn) :
    Run ν TurnResult := do
  note fun w => .turn w.clock w.db chat turn
  let w ← Gen.read
  let prepared ← Gen.lift (prepareTurn env.toRuntime w.db chat dto turn)
  let row ← createPendingMessageRow env chat prepared.agent
  yieldEvent env
    (.messageStart row.id chat.id row.sequence prepared.agent.id (speakerName turn.member))
  let w ← Gen.read
  note fun w => .creation w.clock prepared.execution.config
  let _ ← Gen.lift (env.create w.clock prepared.execution.config)
  let script := env.stream w.requests.length prepared.execution.config prepared.request
  send prepared.agent.id prepared.request
  let (p, turnError) ← readStream env chat row script.ending script.events
    (.start (env.now w.clock))
  finishTurn env chat prepared row p turnError

end Glassbeetle.MemberTurns
