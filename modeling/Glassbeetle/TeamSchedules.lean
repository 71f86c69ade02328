import Glassbeetle.Completions
import Glassbeetle.Schedules

set_option autoImplicit false

namespace Glassbeetle.TeamSchedules
open JsText Utf8Text AdapterTypes Database ExecutionChain AsyncGenerator Inference MemberTurns TeamChat
  Completions Schedules

section Strategies

def pipelineSchedule (finish : JsString → Bool) (maxSequence : Option ℤ) :
    List TeamMember → Schedule Turn JsString
  | [] => .finish
  | member :: rest => .turn ⟨member, maxSequence, none⟩ fun reply =>
      if finish reply then .finish else pipelineSchedule finish maxSequence rest

variable (toLowerCase : JsString → JsString) (team : Option TeamRow)

def coordinatorSchedule (first : TeamMember) (rest : List TeamMember) (bound : ℕ) :
    Schedule Turn JsString :=
  let lead := leadMember toLowerCase first rest
  let specialists := others (first :: rest) lead
  .turn ⟨lead, none, coordinatorDirective team specialists⟩ fun reply =>
    if bound ≥ 2 ∧ specialists.length > 0 then
      match (delegateMatch reply).bind (findByQuery toLowerCase specialists) with
      | none => .finish
      | some specialist => .turn ⟨specialist, none, none⟩ fun _ => .finish
    else .finish

def handoffSchedule (members : List TeamMember) : ℕ → TeamMember → Schedule Turn JsString
  | 0, _ => .finish
  | left + 1, current =>
    let colleagues := others members current
    .turn ⟨current, none, autonomousDirective team colleagues⟩ fun reply =>
      if handoffFinished reply then .finish
      else match (nextMatch reply).bind (findByQuery toLowerCase colleagues) with
        | none => .finish
        | some next => handoffSchedule members left next

/-- `boundary` is the last message from before the run. -/
def teamSchedule (strategy : TeamStrategy) (boundary : ℤ) (first : TeamMember)
    (rest : List TeamMember) (bound : ℕ) : Schedule Turn JsString :=
  match strategy with
  | .sequential => pipelineSchedule finished none ((first :: rest).take bound)
  | .broadcast => pipelineSchedule (fun _ => false) (some boundary) ((first :: rest).take bound)
  | .coordinator => coordinatorSchedule toLowerCase team first rest bound
  | .autonomous => handoffSchedule toLowerCase team (first :: rest) bound
      (leadMember toLowerCase first rest)

end Strategies

/-- A row of `messages` as far as the turn decides it. -/
structure Line where
  chatId : JsString
  role : JsString
  agentId : Option JsString
  content : JsString
  status : MessageStatus
  deriving DecidableEq

def lineOf (row : MessageRow) : Line :=
  ⟨row.chatId, row.role, row.agentId, row.content, row.status⟩

def repliedLine (chat : ChatRow) (agentId content : JsString) : Line :=
  ⟨chat.id, js "assistant", some agentId, stored content, .complete⟩

variable {ν : Type} (env : Environment ν) (chat : ChatRow) (dto : CreateCompletionDto ν)

def completeStep (turn : Turn) (completedMessages : List CompletionResponseDto) :
    Run ν (Option (JsString × List CompletionResponseDto)) := do
  let reply ← guardedTurn env chat dto turn completedMessages
  return some (reply.content, completedMessages ++ [reply])

def streamStep (turn : Turn) (totals : Totals) : Run ν (Option (JsString × Totals)) := do
  let res ← streamMemberTurn env chat dto turn
  if res.error.isSome then return none
  else return some (res.content, totals.add res.usage)

theorem emitUnlessEnded_requests (totals : Option Totals) (w : World ν) :
    (emitUnlessEnded env totals w).final.requests = w.requests := by
  cases totals with
  | none => rfl
  | some totals =>
    change ((yieldUsage env totals.usage >>= fun _ => yieldEvent env .done) w).final.requests = _
    cases totals.usage with
    | none => rfl
    | some usage => rfl

theorem emitUnlessEnded_db (hothers : ∀ moment db, env.others moment db = db)
    (totals : Option Totals) (w : World ν) : (emitUnlessEnded env totals w).final.db = w.db := by
  have hyield : ∀ (event : SseCompletionEvent) (w : World ν),
      (yieldEvent env event w).final.db = w.db := fun _ w => hothers w.clock w.db
  cases totals with
  | none => rfl
  | some totals =>
    refine (Gen.final_keep World.db (yieldUsage env totals.usage) (fun _ => yieldEvent env .done) w
      fun _ => hyield .done).trans ?_
    cases totals.usage with
    | none => rfl
    | some usage => exact hyield _ w

def completeSchedule (s : Schedule Turn JsString) (completedMessages : List CompletionResponseDto) :
    Run ν (List CompletionResponseDto) := do
  return (← perform (completeStep env chat dto) s completedMessages).getD []

theorem completeSchedule_final (s : Schedule Turn JsString)
    (completed : List CompletionResponseDto) (w : World ν) :
    (completeSchedule env chat dto s completed w).final =
      (perform (completeStep env chat dto) s completed w).final :=
  Gen.final_keep id _ _ w fun _ _ => rfl

theorem completeSchedule_ok (s : Schedule Turn JsString)
    (completed replies : List CompletionResponseDto) (w : World ν)
    (h : (completeSchedule env chat dto s completed w).result = .ok replies) :
    ∃ out, (perform (completeStep env chat dto) s completed w).result = .ok out := by
  cases hresult : (perform (completeStep env chat dto) s completed w).result with
  | error failure =>
    unfold completeSchedule at h
    rw [Gen.bind_error _ _ _ _ hresult] at h
    cases h
  | ok out => exact ⟨out, rfl⟩

section Present

variable (present : ∀ moment, env.aborted moment = false)

include present

theorem completePipeline_eq (finish : JsString → Bool) (maxSequence : Option ℤ)
    (members : List TeamMember) (completed : List CompletionResponseDto) :
    completePipeline env chat dto finish maxSequence members completed =
      completeSchedule env chat dto (pipelineSchedule finish maxSequence members) completed := by
  induction members generalizing completed with
  | nil => rfl
  | cons member rest ih =>
    unfold completePipeline completeSchedule pipelineSchedule perform completeStep
    rw [isAborted_eq env present, Gen.pure_bind, if_neg Bool.false_ne_true, Gen.bind_assoc,
      Gen.bind_assoc]
    refine congrArg _ (funext fun reply => ?_)
    rw [Gen.pure_bind]
    dsimp only
    split_ifs with h
    · rfl
    · exact ih (completed ++ [reply])

theorem completeHandoffs_eq (team : Option TeamRow) (members : List TeamMember) (left : ℕ)
    (current : TeamMember) (completed : List CompletionResponseDto) :
    completeHandoffs env chat dto team members left current completed =
      completeSchedule env chat dto (handoffSchedule env.toLowerCase team members left current)
        completed := by
  induction left generalizing current completed with
  | zero => rfl
  | succ left ih =>
    unfold completeHandoffs completeSchedule handoffSchedule perform completeStep
    rw [isAborted_eq env present, Gen.pure_bind, if_neg Bool.false_ne_true, Gen.bind_assoc,
      Gen.bind_assoc]
    dsimp only
    refine congrArg _ (funext fun reply => ?_)
    rw [Gen.pure_bind]
    dsimp only
    split_ifs with h
    · rfl
    · cases hnext : (nextMatch reply.content).bind
          (findByQuery env.toLowerCase (others members current)) with
      | none => rfl
      | some next => exact ih next (completed ++ [reply])

omit present in
theorem guardedTurn_nil (turn : Turn) :
    guardedTurn env chat dto turn [] = executeMemberTurn env chat dto turn := by
  funext w
  unfold guardedTurn
  change Gen.bind (Gen.attempt (executeMemberTurn env chat dto turn)) _ w = _
  unfold Gen.bind Gen.attempt
  dsimp only
  obtain ⟨yields, result, final⟩ := executeMemberTurn env chat dto turn w
  cases result with
  | error e =>
    change Trace.mk (yields ++ []) (.error e) final = _
    rw [List.append_nil]
  | ok reply =>
    change Trace.mk (yields ++ []) (.ok reply) final = _
    rw [List.append_nil]

omit present in
theorem completeCoordinator_eq (team : Option TeamRow) (first : TeamMember)
    (rest : List TeamMember) (bound : ℕ) :
    completeCoordinatorTeamChat env chat dto team first rest bound =
      completeSchedule env chat dto (coordinatorSchedule env.toLowerCase team first rest bound)
        [] := by
  unfold completeCoordinatorTeamChat completeSchedule coordinatorSchedule perform completeStep
  rw [Gen.bind_assoc, Gen.bind_assoc, guardedTurn_nil]
  dsimp only
  refine congrArg _ (funext fun reply => ?_)
  rw [Gen.pure_bind]
  dsimp only
  split_ifs with h
  · cases hmatch : (delegateMatch reply.content).bind (findByQuery env.toLowerCase
        (others (first :: rest) (leadMember env.toLowerCase first rest))) with
    | none => rfl
    | some specialist =>
      unfold perform
      dsimp only
      rw [Gen.bind_assoc, Gen.bind_assoc]
      rfl
  · rfl

def refusal (w : World ν) (teamId : JsString) (streaming : Bool) : Option Failure :=
  match getActiveTeamMembers w.db teamId with
  | [] => some teamHasNoMembers
  | first :: rest =>
    match preValidateTeamMembers env w.clock w.db dto.modelId streaming (first :: rest) with
    | .error failure => some failure
    | .ok () => none

omit present in
theorem refusal_none (w : World ν) (teamId : JsString) (streaming : Bool)
    (h : refusal env dto w teamId streaming = none) :
    ∃ first rest, getActiveTeamMembers w.db teamId = first :: rest ∧
      preValidateTeamMembers env w.clock w.db dto.modelId streaming (first :: rest) = .ok () := by
  unfold refusal at h
  cases hmembers : getActiveTeamMembers w.db teamId with
  | nil => rw [hmembers] at h; cases h
  | cons first rest =>
    simp only [hmembers] at h
    cases hvalid : preValidateTeamMembers env w.clock w.db dto.modelId streaming (first :: rest) with
    | error failure => rw [hvalid] at h; cases h
    | ok u => exact ⟨first, rest, rfl, hvalid⟩

omit present in
theorem completeTeamChat_refused (teamId : JsString) (w : World ν) (failure : Failure)
    (h : refusal env dto w teamId false = some failure) :
    completeTeamChat env chat dto teamId w = ⟨[], .error failure, w⟩ := by
  unfold refusal at h
  unfold completeTeamChat
  rw [Gen.read_bind]
  dsimp only
  cases hmembers : getActiveTeamMembers w.db teamId with
  | nil =>
    rw [hmembers] at h
    obtain rfl := Option.some.inj h
    rfl
  | cons first rest =>
    simp only [hmembers] at h
    dsimp only
    rw [Gen.lift_bind]
    cases hvalid : preValidateTeamMembers env w.clock w.db dto.modelId false (first :: rest) with
    | error found =>
      rw [hvalid] at h
      obtain rfl := Option.some.inj h
      rfl
    | ok u => rw [hvalid] at h; cases h

theorem streamTeamChat_refused (teamId : JsString) (w : World ν) (failure : Failure)
    (h : refusal env dto w teamId true = some failure) :
    streamTeamChat env chat dto teamId w = ⟨[], .error failure, w⟩ := by
  unfold refusal at h
  unfold streamTeamChat
  rw [Gen.read_bind]
  dsimp only
  cases hmembers : getActiveTeamMembers w.db teamId with
  | nil =>
    rw [hmembers] at h
    obtain rfl := Option.some.inj h
    rfl
  | cons first rest =>
    simp only [hmembers] at h
    dsimp only
    rw [isAborted_eq env present, Gen.pure_bind, if_neg Bool.false_ne_true, Gen.lift_bind]
    cases hvalid : preValidateTeamMembers env w.clock w.db dto.modelId true (first :: rest) with
    | error found =>
      rw [hvalid] at h
      obtain rfl := Option.some.inj h
      rfl
    | ok u => rw [hvalid] at h; cases h

theorem completeTeamChat_eq (teamId : JsString) (w : World ν) (first : TeamMember)
    (rest : List TeamMember) (hmembers : getActiveTeamMembers w.db teamId = first :: rest)
    (hvalid : preValidateTeamMembers env w.clock w.db dto.modelId false (first :: rest) = .ok ()) :
    completeTeamChat env chat dto teamId w =
      completeSchedule env chat dto (teamSchedule env.toLowerCase (w.db.team teamId)
        (effectiveStrategy dto (w.db.team teamId)) (w.db.maxSequence chat.id) first rest
        (boundedMaxTurns dto (w.db.team teamId))) [] w := by
  unfold completeTeamChat
  rw [Gen.read_bind]
  dsimp only
  rw [hmembers]
  dsimp only
  rw [Gen.lift_bind, hvalid]
  dsimp only
  cases effectiveStrategy dto (w.db.team teamId) with
  | coordinator => exact congrFun (completeCoordinator_eq env chat dto _ _ _ _) w
  | broadcast => exact congrFun (completePipeline_eq env chat dto present _ _ _ _) w
  | autonomous => exact congrFun (completeHandoffs_eq env chat dto present _ _ _ _ _) w
  | sequential => exact congrFun (completePipeline_eq env chat dto present _ _ _ _) w

theorem streamPipeline_eq (finish : JsString → Bool) (maxSequence : Option ℤ)
    (members : List TeamMember) (totals : Totals) :
    streamPipeline env chat dto finish maxSequence members totals =
      perform (streamStep env chat dto) (pipelineSchedule finish maxSequence members) totals := by
  induction members generalizing totals with
  | nil => rfl
  | cons member rest ih =>
    unfold streamPipeline pipelineSchedule perform streamStep
    rw [isAborted_eq env present, Gen.pure_bind, if_neg Bool.false_ne_true, Gen.bind_assoc]
    refine congrArg _ (funext fun res => ?_)
    split_ifs with hfailed hfinish
    · rfl
    · rw [Gen.pure_bind]
      dsimp only
      rw [if_pos hfinish]
      rfl
    · rw [Gen.pure_bind]
      dsimp only
      rw [if_neg hfinish]
      exact ih (totals.add res.usage)

theorem streamHandoffs_eq (team : Option TeamRow) (members : List TeamMember) (left : ℕ)
    (current : TeamMember) (totals : Totals) :
    streamHandoffs env chat dto team members left current totals =
      perform (streamStep env chat dto) (handoffSchedule env.toLowerCase team members left current)
        totals := by
  induction left generalizing current totals with
  | zero => rfl
  | succ left ih =>
    unfold streamHandoffs handoffSchedule perform streamStep
    rw [isAborted_eq env present, Gen.pure_bind, if_neg Bool.false_ne_true, Gen.bind_assoc]
    dsimp only
    refine congrArg _ (funext fun res => ?_)
    split_ifs with hfailed hfinish
    · rfl
    · rw [Gen.pure_bind]
      dsimp only
      rw [if_pos hfinish]
      rfl
    · rw [Gen.pure_bind]
      dsimp only
      rw [if_neg hfinish]
      cases hnext : (nextMatch res.content).bind
          (findByQuery env.toLowerCase (others members current)) with
      | none => rfl
      | some next => exact ih next (totals.add res.usage)

omit present in
theorem streamCoordinator_eq (team : Option TeamRow) (first : TeamMember) (rest : List TeamMember)
    (bound : ℕ) :
    streamCoordinatorTeamChat env chat dto team first rest bound = (do
      let totals ← perform (streamStep env chat dto)
        (coordinatorSchedule env.toLowerCase team first rest bound) .zero
      emitUnlessEnded env totals) := by
  unfold streamCoordinatorTeamChat coordinatorSchedule perform streamStep
  rw [Gen.bind_assoc, Gen.bind_assoc]
  dsimp only
  refine congrArg _ (funext fun res => ?_)
  by_cases hfailed : res.error.isSome = true
  · rw [if_pos hfailed, if_pos hfailed]
    rfl
  rw [if_neg hfailed, if_neg hfailed, Gen.pure_bind]
  dsimp only
  by_cases hbound : bound ≥ 2 ∧ (others (first :: rest) (leadMember env.toLowerCase first rest)).length > 0
  · rw [if_pos hbound, if_pos hbound]
    cases hmatch : (delegateMatch res.content).bind (findByQuery env.toLowerCase
        (others (first :: rest) (leadMember env.toLowerCase first rest))) with
    | none => rfl
    | some specialist =>
      unfold perform
      dsimp only
      rw [Gen.bind_assoc, Gen.bind_assoc]
      refine congrArg _ (funext fun res => ?_)
      split_ifs with hfailed
      · rfl
      · rfl
  · rw [if_neg hbound, if_neg hbound]
    rfl

theorem streamTeamChat_eq (teamId : JsString) (w : World ν) (first : TeamMember)
    (rest : List TeamMember) (hmembers : getActiveTeamMembers w.db teamId = first :: rest)
    (hvalid : preValidateTeamMembers env w.clock w.db dto.modelId true (first :: rest) = .ok ()) :
    streamTeamChat env chat dto teamId w = (do
      let totals ← perform (streamStep env chat dto) (teamSchedule env.toLowerCase
        (w.db.team teamId) (effectiveStrategy dto (w.db.team teamId)) (w.db.maxSequence chat.id)
        first rest (boundedMaxTurns dto (w.db.team teamId))) .zero
      emitUnlessEnded env totals : Run ν Unit) w := by
  unfold streamTeamChat
  rw [Gen.read_bind]
  dsimp only
  rw [hmembers]
  dsimp only
  rw [isAborted_eq env present, Gen.pure_bind, if_neg Bool.false_ne_true, Gen.lift_bind, hvalid]
  dsimp only
  cases effectiveStrategy dto (w.db.team teamId) with
  | coordinator => exact congrFun (streamCoordinator_eq env chat dto _ _ _ _) w
  | broadcast =>
    dsimp only
    unfold streamBroadcastTeamChat
    rw [Gen.read_bind, streamPipeline_eq env chat dto present]
    rfl
  | autonomous =>
    dsimp only
    unfold streamAutonomousTeamChat
    rw [streamHandoffs_eq env chat dto present]
    rfl
  | sequential =>
    dsimp only
    unfold streamSequentialTeamChat
    rw [streamPipeline_eq env chat dto present]
    rfl

end Present

end Glassbeetle.TeamSchedules
