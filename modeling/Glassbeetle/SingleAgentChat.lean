import Glassbeetle.Inference

set_option autoImplicit false

namespace Glassbeetle.SingleAgentChat
open JsText JsValue AdapterTypes Database ExecutionChain AsyncGenerator Inference

variable {ν : Type} (env : Environment ν)

def completeAgentChat (chat : ChatRow) (dto : CreateCompletionDto ν) :
    Run ν CompletionResponseDto := do
  let w ← Gen.read
  let (agent, execution) ← Gen.lift (resolveExecutionChain w.db chat dto.modelId)
  let prompt ← Gen.lift (buildContext w.db chat agent execution.model none)
  let request := completionRequest env.toRuntime dto agent execution.model prompt
  let _ ← Gen.lift (env.create w.clock execution.config)
  let response ← callComplete env agent.id execution request
  persistAssistantReply env chat agent execution response

/-- The client's own cancellation, as far as the exception tells. -/
def abortLike (toLowerCase : JsString → JsString) : Failure → Bool
  | .adapter error =>
    error.code = .requestAborted ∨ includes (toLowerCase error.message) (js "abort")
  | .http _ _ message => includes (toLowerCase message) (js "abort")
  | .thrown name message => name = js "AbortError" ∨ includes (toLowerCase message) (js "abort")

/-- The `catch` block of `streamChat`. -/
def onFailure (chat : ChatRow) (row : MessageRow) (execution : Execution ν) (p : Progress)
    (failure : Failure) : Run ν Unit := do
  note fun _ => .provider failure
  if (← isAborted env) ∨ abortLike env.toLowerCase failure then
    let _ ← finishAborted env chat row p
  else do
    let _ ← flushPartial env chat row p .error p.outputTokens
    yieldEvent env (.error (env.errorPayload execution failure))
    yieldEvent env .done

def announceReply (row : MessageRow) (p : Progress) : Run ν Unit := do
  yieldUsage env p.reportedUsage
  yieldEvent env (.messageComplete row.id p.outputTokens p.reportedUsage)
  yieldEvent env .done

def streamAgentChat (chat : ChatRow) (dto : CreateCompletionDto ν) : Run ν Unit := do
  let w ← Gen.read
  let (agent, execution) ← Gen.lift (resolveExecutionChain w.db chat dto.modelId)
  if ← isAborted env then
    Gen.fail (.adapter (requestAbortedError (js "Request was aborted before execution")
      (some execution.provider.kind)))
  else do
  let supportsStreaming ← Gen.lift (env.create w.clock execution.config)
  if !supportsStreaming then
    Gen.fail (unprocessable "STREAMING_NOT_SUPPORTED" (js "Model \"" ++
      execution.model.displayName ++ js "\" does not support streaming completions"))
  else do
  let prompt ← Gen.lift (buildContext w.db chat agent execution.model none)
  let request := completionRequest env.toRuntime dto agent execution.model prompt
  let row ← createPendingMessageRow env chat agent
  yieldEvent env (.messageStart row.id chat.id row.sequence agent.id agent.name)
  let w ← Gen.read
  let script := env.stream w.requests.length execution.config request
  send agent.id request
  let (p, failure) ← readStream env chat row script.ending script.events
    (.start (env.now w.clock))
  match failure with
  | some failure => onFailure env chat row execution p failure
  | none =>
    if ← isAborted env then do
      let _ ← finishAborted env chat row p
    else do
      let p ← flushPartial env chat row p .complete p.outputTokens
      match ← Gen.attempt (recordUsage env chat agent execution p.reportedUsage) with
      | .error failure => onFailure env chat row execution p failure
      | .ok () => announceReply env row p

end Glassbeetle.SingleAgentChat
