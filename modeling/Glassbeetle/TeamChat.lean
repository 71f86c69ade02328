import Glassbeetle.MemberTurns

set_option autoImplicit false

/-!
# Completions of a chat that a team owns

Each strategy is written out twice, once for streaming and once without. What
the two share word for word, the choices and the texts, is defined once.
-/
namespace Glassbeetle.TeamChat
open JsText JsValue AdapterTypes Database ContextConstruction ExecutionChain AsyncGenerator
  Inference MemberTurns

section Choices

def bracketBody (s : JsString) : Option JsString :=
  let body := s.takeWhile (· ≠ 0x5D)
  if body ≠ [] ∧ body.length < s.length then some body else none

def afterBlanks (body : JsString) : JsString :=
  match trimStart body with
  | [] => body.drop (body.length - 1)
  | rest => rest

/-- `\s*@?([^\]]+)` -/
def afterMention (body : JsString) : JsString :=
  match trimStart body with
  | 0x40 :: c :: rest => c :: rest
  | _ => afterBlanks body

/-- `/\[DELEGATE:\s*([^\]]+)\]/i`: the group of the leftmost match. -/
def delegateMatch (content : JsString) : Option JsString :=
  content.tails.findSome? fun s => ((afterText (js "[delegate:") s).bind bracketBody).map afterBlanks

/-- `/\[NEXT:\s*@?([^\]]+)\]/i` -/
def nextMatch (content : JsString) : Option JsString :=
  content.tails.findSome? fun s => ((afterText (js "[next:") s).bind bracketBody).map afterMention

def teamFinish : JsString := js "<!-- GB_TEAM_FINISH -->"

def finished (content : JsString) : Bool := includes content teamFinish

def handoffFinished (content : JsString) : Bool :=
  includes content (js "[DONE]") || includes content teamFinish

variable (toLowerCase : JsString → JsString)

def leadsByRole (m : TeamMember) : Bool :=
  m.role.any fun role => includes (toLowerCase role) (js "coordinator") ||
    includes (toLowerCase role) (js "router")

def leadMember (first : TeamMember) (rest : List TeamMember) : TeamMember :=
  (((first :: rest).find? (·.isCoordinator)).or
    ((first :: rest).find? (leadsByRole toLowerCase))).getD first

theorem leadMember_mem (first : TeamMember) (rest : List TeamMember) :
    leadMember toLowerCase first rest ∈ first :: rest := by
  unfold leadMember
  cases h : ((first :: rest).find? (·.isCoordinator)).or
      ((first :: rest).find? (leadsByRole toLowerCase)) with
  | none => exact List.mem_cons_self
  | some lead =>
    rcases Option.or_eq_some_iff.mp h with h | ⟨-, h⟩
    · exact List.mem_of_find?_eq_some h
    · exact List.mem_of_find?_eq_some h

def others (members : List TeamMember) (member : TeamMember) : List TeamMember :=
  members.filter fun m => m.agentId ≠ member.agentId

def findByQuery (candidates : List TeamMember) (group : JsString) : Option TeamMember :=
  let targetQuery := toLowerCase (trim group)
  ((candidates.find? fun s => toLowerCase s.agentId = targetQuery).or
    (candidates.find? fun s => toLowerCase s.agentName = targetQuery)).or
    (candidates.find? fun s => includes (toLowerCase s.agentName) targetQuery ||
      includes targetQuery (toLowerCase s.agentName))

def teamName (team : Option TeamRow) : JsString := (team.map (·.name)).getD (js "Team")

def rosterLine (mention roleLabel : JsString) (m : TeamMember) : JsString :=
  js "- " ++ mention ++ m.agentName ++
    (match truthy m.role with
      | some role => js " (" ++ roleLabel ++ role ++ js ")"
      | none => []) ++ js " [ID: " ++ m.agentId ++ js "]"

def coordinatorDirective (team : Option TeamRow) (specialists : List TeamMember) :
    Option JsString :=
  if specialists.length > 0 then
    some (js "You are the designated Coordinator for team \"" ++ teamName team ++ js "\".\n" ++
      js "Available team specialists:\n" ++
      join (js "\n") (specialists.map (rosterLine [] (js "Role: "))) ++ js "\n\n" ++
      js "If a specialist should handle or answer the request, output:\n" ++
      js "[DELEGATE: <Specialist Name or ID>] <instructions for the specialist>\n" ++
      js "If you can answer directly without delegation, provide your response directly.")
  else none

def autonomousDirective (team : Option TeamRow) (colleagues : List TeamMember) : Option JsString :=
  if colleagues.length > 0 then
    some (js "You are collaborating dynamically in an autonomous multi-agent team \"" ++
      teamName team ++ js "\".\n" ++ js "Available colleagues:\n" ++
      join (js "\n") (colleagues.map (rosterLine (js "@") [])) ++ js "\n\n" ++
      js "If another colleague should continue the discussion, hand off by including:\n" ++
      js "[NEXT: @ColleagueName]\n" ++
      js "When the task is complete and no further response is needed, end with:\n" ++
      js "[DONE] or <!-- GB_TEAM_FINISH -->.")
  else none

end Choices

variable {ν : Type} (env : Environment ν)

def preValidateTeamMembers (moment : ℕ) (db : Tables ν) (modelIdOverride : Option JsString)
    (requireStreaming : Bool) : List TeamMember → Except Failure Unit
  | [] => .ok ()
  | member :: rest => do
    let some agent := db.agent member.agentId
      | throw (unprocessable "AGENT_NOT_FOUND"
          (js "Agent with ID \"" ++ member.agentId ++ js "\" was not found"))
    let execution ← resolveAgentExecution db agent modelIdOverride
    if requireStreaming then
      let supportsStreaming ← env.create moment execution.config
      if !supportsStreaming then
        throw (unprocessable "STREAMING_NOT_SUPPORTED" (js "Model \"" ++
          execution.model.displayName ++ js "\" does not support streaming completions"))
    preValidateTeamMembers moment db modelIdOverride requireStreaming rest

def recordTurnErrorRow (chat : ChatRow) (agentId : JsString) : Run ν Unit := do
  let id ← newId env
  let w ← Gen.read
  let inserted := w.db.insertMessage id chat.id agentId (js "Generation failed mid-team turn") .error
    none (env.nowIso w.clock)
  if env.storageFails w.clock then pure ()
  else match inserted with
    | none => pure ()
    | some (_, db) => Gen.modify fun w => { w with db := db }

structure Totals where
  totalInputTokens : ℤ
  totalOutputTokens : ℤ
  totalTokens : ℤ
  totalReasoningTokens : ℤ

def Totals.zero : Totals := ⟨0, 0, 0, 0⟩

def Totals.add (totals : Totals) (usage : Option (TokenUsage ℤ)) : Totals :=
  match usage with
  | none => totals
  | some usage => {
    totalInputTokens := totals.totalInputTokens + usage.inputTokens
    totalOutputTokens := totals.totalOutputTokens + usage.outputTokens
    totalTokens := totals.totalTokens + usage.totalTokens
    totalReasoningTokens := totals.totalReasoningTokens + usage.reasoningTokens.getD 0 }

def Totals.usage (totals : Totals) : Option (TokenUsage ℤ) :=
  if totals.totalInputTokens > 0 ∨ totals.totalOutputTokens > 0 then
    some {
      inputTokens := totals.totalInputTokens
      outputTokens := totals.totalOutputTokens
      totalTokens := totals.totalTokens
      reasoningTokens := if totals.totalReasoningTokens > 0 then some totals.totalReasoningTokens
        else none }
  else none

def emitFinalStreamUsageAndDone (totals : Totals) : Run ν Unit := do
  yieldUsage env totals.usage
  yieldEvent env .done

def abortedBeforeReply : Failure :=
  .adapter (requestAbortedError (js "Request was aborted") (some (js "generic")))

variable (chat : ChatRow) (dto : CreateCompletionDto ν)

/-- A turn whose failure leaves an error row, unless it is the first. -/
def guardedTurn (turn : Turn) (completedMessages : List CompletionResponseDto) :
    Run ν CompletionResponseDto := do
  match ← Gen.attempt (executeMemberTurn env chat dto turn) with
  | .ok reply => return reply
  | .error e =>
    if completedMessages.length > 0 then do
      recordTurnErrorRow env chat turn.member.agentId
      Gen.fail e
    else Gen.fail e

/-- The loop over the members; nothing follows a reply for which `finish` holds. -/
def completePipeline (finish : JsString → Bool) (maxSequence : Option ℤ) :
    List TeamMember → List CompletionResponseDto → Run ν (List CompletionResponseDto)
  | [], completedMessages => return completedMessages
  | member :: rest, completedMessages => do
    if ← isAborted env then
      if completedMessages.length = 0 then Gen.fail abortedBeforeReply
      else return completedMessages
    else do
      let reply ← guardedTurn env chat dto ⟨member, maxSequence, none⟩ completedMessages
      if finish reply.content then return completedMessages ++ [reply]
      else completePipeline finish maxSequence rest (completedMessages ++ [reply])

def completeSequentialTeamChat (members : List TeamMember) (boundedMaxTurns : ℕ) :
    Run ν (List CompletionResponseDto) :=
  completePipeline env chat dto finished none (members.take boundedMaxTurns) []

/-- Everyone gets the messages from before the broadcast. -/
def completeBroadcastTeamChat (members : List TeamMember) (boundedMaxTurns : ℕ) :
    Run ν (List CompletionResponseDto) := do
  let boundary := (← Gen.read).db.maxSequence chat.id
  completePipeline env chat dto (fun _ => false) (some boundary) (members.take boundedMaxTurns) []

def completeCoordinatorTeamChat (team : Option TeamRow) (first : TeamMember)
    (rest : List TeamMember) (boundedMaxTurns : ℕ) : Run ν (List CompletionResponseDto) := do
  let coordinatorMember := leadMember env.toLowerCase first rest
  let specialists := others (first :: rest) coordinatorMember
  let coordReply ← executeMemberTurn env chat dto
    ⟨coordinatorMember, none, coordinatorDirective team specialists⟩
  if boundedMaxTurns ≥ 2 ∧ specialists.length > 0 then
    match (delegateMatch coordReply.content).bind (findByQuery env.toLowerCase specialists) with
    | none => return [coordReply]
    | some specialist => do
      let specReply ← guardedTurn env chat dto ⟨specialist, none, none⟩ [coordReply]
      return [coordReply, specReply]
  else return [coordReply]

def completeHandoffs (team : Option TeamRow) (members : List TeamMember) :
    ℕ → TeamMember → List CompletionResponseDto → Run ν (List CompletionResponseDto)
  | 0, _, completedMessages => return completedMessages
  | left + 1, currentMember, completedMessages => do
    if ← isAborted env then
      if completedMessages.length = 0 then Gen.fail abortedBeforeReply
      else return completedMessages
    else do
      let colleagues := others members currentMember
      let reply ← guardedTurn env chat dto
        ⟨currentMember, none, autonomousDirective team colleagues⟩ completedMessages
      let completedMessages := completedMessages ++ [reply]
      if handoffFinished reply.content then return completedMessages
      else match (nextMatch reply.content).bind (findByQuery env.toLowerCase colleagues) with
        | none => return completedMessages
        | some nextMember => completeHandoffs team members left nextMember completedMessages

def completeAutonomousTeamChat (team : Option TeamRow) (first : TeamMember)
    (rest : List TeamMember) (boundedMaxTurns : ℕ) : Run ν (List CompletionResponseDto) :=
  completeHandoffs env chat dto team (first :: rest) boundedMaxTurns
    (leadMember env.toLowerCase first rest) []

def streamPipeline (finish : JsString → Bool) (maxSequence : Option ℤ) :
    List TeamMember → Totals → Run ν (Option Totals)
  | [], totals => return some totals
  | member :: rest, totals => do
    if ← isAborted env then return none
    else do
      let res ← streamMemberTurn env chat dto ⟨member, maxSequence, none⟩
      if res.error.isSome then return none
      else if finish res.content then return some (totals.add res.usage)
      else streamPipeline finish maxSequence rest (totals.add res.usage)

def emitUnlessEnded (totals : Option Totals) : Run ν Unit :=
  match totals with
  | none => pure ()
  | some totals => emitFinalStreamUsageAndDone env totals

def streamSequentialTeamChat (members : List TeamMember) (boundedMaxTurns : ℕ) : Run ν Unit := do
  let totals ← streamPipeline env chat dto finished none (members.take boundedMaxTurns) .zero
  emitUnlessEnded env totals

def streamBroadcastTeamChat (members : List TeamMember) (boundedMaxTurns : ℕ) : Run ν Unit := do
  let boundary := (← Gen.read).db.maxSequence chat.id
  let totals ← streamPipeline env chat dto (fun _ => false) (some boundary)
    (members.take boundedMaxTurns) .zero
  emitUnlessEnded env totals

def streamCoordinatorTeamChat (team : Option TeamRow) (first : TeamMember)
    (rest : List TeamMember) (boundedMaxTurns : ℕ) : Run ν Unit := do
  let coordinatorMember := leadMember env.toLowerCase first rest
  let specialists := others (first :: rest) coordinatorMember
  let coordRes ← streamMemberTurn env chat dto
    ⟨coordinatorMember, none, coordinatorDirective team specialists⟩
  if coordRes.error.isSome then pure ()
  else do
    let totals := Totals.zero.add coordRes.usage
    if boundedMaxTurns ≥ 2 ∧ specialists.length > 0 then
      match (delegateMatch coordRes.content).bind (findByQuery env.toLowerCase specialists) with
      | none => emitFinalStreamUsageAndDone env totals
      | some specialist => do
        let specRes ← streamMemberTurn env chat dto ⟨specialist, none, none⟩
        if specRes.error.isSome then pure ()
        else emitFinalStreamUsageAndDone env (totals.add specRes.usage)
    else emitFinalStreamUsageAndDone env totals

def streamHandoffs (team : Option TeamRow) (members : List TeamMember) :
    ℕ → TeamMember → Totals → Run ν (Option Totals)
  | 0, _, totals => return some totals
  | left + 1, currentMember, totals => do
    if ← isAborted env then return none
    else do
      let colleagues := others members currentMember
      let res ← streamMemberTurn env chat dto
        ⟨currentMember, none, autonomousDirective team colleagues⟩
      if res.error.isSome then return none
      else do
        let totals := totals.add res.usage
        if handoffFinished res.content then return some totals
        else match (nextMatch res.content).bind (findByQuery env.toLowerCase colleagues) with
          | none => return some totals
          | some nextMember => streamHandoffs team members left nextMember totals

def streamAutonomousTeamChat (team : Option TeamRow) (first : TeamMember)
    (rest : List TeamMember) (boundedMaxTurns : ℕ) : Run ν Unit := do
  let totals ← streamHandoffs env chat dto team (first :: rest) boundedMaxTurns
    (leadMember env.toLowerCase first rest) .zero
  emitUnlessEnded env totals

def teamHasNoMembers : Failure :=
  unprocessable "TEAM_HAS_NO_MEMBERS" (js "Team has no active members to execute completions")

def effectiveStrategy (team : Option TeamRow) : TeamStrategy :=
  (dto.strategy.or (team.bind (·.strategy))).getD .sequential

/-- `Math.min(Math.max(1, configuredMaxTurns), 10)` -/
def boundedMaxTurns (team : Option TeamRow) : ℕ :=
  (min (max 1 ((dto.maxTurns.or (team.bind (·.maxTurnsPerInteraction))).getD 5)) 10).toNat

omit dto in
theorem boundedMaxTurns_pos (dto : CreateCompletionDto ν) (team : Option TeamRow) :
    1 ≤ boundedMaxTurns dto team := by
  unfold boundedMaxTurns
  omega

def completeTeamChat (teamId : JsString) : Run ν (List CompletionResponseDto) := do
  let w ← Gen.read
  let team := w.db.team teamId
  match getActiveTeamMembers w.db teamId with
  | [] => Gen.fail teamHasNoMembers
  | first :: rest => do
    let _ ← Gen.lift (preValidateTeamMembers env w.clock w.db dto.modelId false (first :: rest))
    let bound := boundedMaxTurns dto team
    match effectiveStrategy dto team with
    | .coordinator => completeCoordinatorTeamChat env chat dto team first rest bound
    | .broadcast => completeBroadcastTeamChat env chat dto (first :: rest) bound
    | .autonomous => completeAutonomousTeamChat env chat dto team first rest bound
    | .sequential => completeSequentialTeamChat env chat dto (first :: rest) bound

def streamTeamChat (teamId : JsString) : Run ν Unit := do
  let w ← Gen.read
  let team := w.db.team teamId
  match getActiveTeamMembers w.db teamId with
  | [] => Gen.fail teamHasNoMembers
  | first :: rest => do
    if ← isAborted env then
      Gen.fail (.adapter (requestAbortedError (js "Request was aborted before execution")
        (some (js "generic"))))
    else do
      let _ ← Gen.lift (preValidateTeamMembers env w.clock w.db dto.modelId true (first :: rest))
      let bound := boundedMaxTurns dto team
      match effectiveStrategy dto team with
      | .coordinator => streamCoordinatorTeamChat env chat dto team first rest bound
      | .broadcast => streamBroadcastTeamChat env chat dto (first :: rest) bound
      | .autonomous => streamAutonomousTeamChat env chat dto team first rest bound
      | .sequential => streamSequentialTeamChat env chat dto (first :: rest) bound

end Glassbeetle.TeamChat
