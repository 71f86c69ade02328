import Glassbeetle.Completions

set_option autoImplicit false

namespace Glassbeetle.StreamRecord
open JsText JsValue AdapterTypes Database ExecutionChain AsyncGenerator Inference SingleAgentChat
  MemberTurns TeamChat Completions

variable {ν α β : Type} {env : Environment ν}

structure Silent (g : Run ν α) : Prop where
  yields : ∀ w, (g w).yields = []
  emitted : ∀ w, (g w).final.emitted = w.emitted
  hazards : ∀ w, (g w).final.hazards = w.hazards
  requests : ∀ w, (g w).final.requests = w.requests

theorem silent_pure (a : α) : Silent (pure a : Run ν α) :=
  ⟨fun _ => rfl, fun _ => rfl, fun _ => rfl, fun _ => rfl⟩

theorem silent_fail (failure : Failure) : Silent (Gen.fail failure : Run ν α) :=
  ⟨fun _ => rfl, fun _ => rfl, fun _ => rfl, fun _ => rfl⟩

theorem silent_lift (r : Except Failure α) : Silent (Gen.lift r : Run ν α) :=
  ⟨fun _ => rfl, fun _ => rfl, fun _ => rfl, fun _ => rfl⟩

theorem silent_read : Silent (Gen.read : Run ν (World ν)) :=
  ⟨fun _ => rfl, fun _ => rfl, fun _ => rfl, fun _ => rfl⟩

theorem silent_modify (f : World ν → World ν) (hemitted : ∀ w, (f w).emitted = w.emitted)
    (hhazards : ∀ w, (f w).hazards = w.hazards) (hrequests : ∀ w, (f w).requests = w.requests) :
    Silent (Gen.modify f : Run ν Unit) :=
  ⟨fun _ => rfl, hemitted, hhazards, hrequests⟩

theorem silent_bind (g : Run ν α) (f : α → Run ν β) (hg : Silent g) (hf : ∀ a, Silent (f a)) :
    Silent (g >>= f) := by
  refine ⟨fun w => ?_, fun w => ?_, fun w => ?_, fun w => ?_⟩
  · change (Gen.bind g f w).yields = []
    unfold Gen.bind
    dsimp only
    cases (g w).result with
    | error e => exact hg.yields w
    | ok a =>
      dsimp only
      rw [hg.yields, (hf a).yields]
      rfl
  · exact (Gen.final_keep World.emitted g f w fun a => (hf a).emitted).trans (hg.emitted w)
  · exact (Gen.final_keep World.hazards g f w fun a => (hf a).hazards).trans (hg.hazards w)
  · exact (Gen.final_keep World.requests g f w fun a => (hf a).requests).trans (hg.requests w)

theorem silent_attempt (g : Run ν α) (hg : Silent g) : Silent (Gen.attempt g) :=
  ⟨hg.yields, hg.emitted, hg.hazards, hg.requests⟩

theorem silent_suspend : Silent (suspend env) :=
  silent_modify _ (fun _ => rfl) (fun _ => rfl) fun _ => rfl

theorem silent_aborted : Silent (isAborted env) :=
  silent_bind _ _ silent_read fun _ => silent_pure _

theorem silent_newId : Silent (newId env) :=
  silent_bind _ _ silent_read fun _ =>
    silent_bind _ _ (silent_modify _ (fun _ => rfl) (fun _ => rfl) fun _ => rfl) fun _ => silent_pure _

variable (chat : ChatRow) (row : MessageRow)

theorem silent_create (agent : AgentRow ν) : Silent (createPendingMessageRow env chat agent) := by
  refine silent_bind _ _ silent_newId fun id => silent_bind _ _ silent_read fun w => ?_
  dsimp only
  split_ifs
  · exact silent_fail _
  · split
    · exact silent_fail _
    · exact silent_bind _ _ (silent_modify _ (fun _ => rfl) (fun _ => rfl) fun _ => rfl) fun _ => silent_pure _

theorem silent_flush (p : Progress) (status : MessageStatus) (tokenCount : Option ℤ) :
    Silent (flushPartial env chat row p status tokenCount) :=
  silent_bind _ _ silent_read fun _ =>
    silent_bind _ _ (silent_modify _ (fun _ => rfl) (fun _ => rfl) fun _ => rfl) fun _ => silent_pure _

theorem silent_delta (p : Progress) (delta : JsString) :
    Silent (onTextDelta env chat row p delta) := by
  unfold onTextDelta
  dsimp only
  split_ifs
  · exact silent_flush ..
  · refine silent_bind _ _ silent_read fun w => ?_
    split_ifs
    · exact silent_flush ..
    · exact silent_pure _

theorem silent_finishAborted (p : Progress) : Silent (finishAborted env chat row p) := by
  unfold finishAborted
  split_ifs <;> exact silent_flush ..

theorem silent_recordUsage (agent : AgentRow ν) (execution : Execution ν)
    (usage : Option (TokenUsage ℤ)) : Silent (recordUsage env chat agent execution usage) := by
  refine silent_bind _ _ silent_newId fun id => silent_bind _ _ silent_read fun w => ?_
  split
  · exact silent_fail _
  · exact silent_modify _ (fun _ => rfl) (fun _ => rfl) fun _ => rfl

theorem silent_errorRow (agentId : JsString) : Silent (recordTurnErrorRow env chat agentId) := by
  refine silent_bind _ _ silent_newId fun id => silent_bind _ _ silent_read fun w => ?_
  dsimp only
  split_ifs
  · exact silent_pure _
  · split
    · exact silent_pure _
    · exact silent_modify _ (fun _ => rfl) (fun _ => rfl) fun _ => rfl

structure Logs (g : Run ν α) : Prop where
  emitted : ∀ w, (g w).final.emitted = w.emitted ++ events (g w)
  yielded : ∀ w (k : ℕ) y, (g w).yields[k]? = some y →
    y.2.emitted = w.emitted ++ (events (g w)).take (k + 1)

theorem logs_silent (g : Run ν α) (hg : Silent g) : Logs g := by
  refine ⟨fun w => ?_, fun w k y hy => ?_⟩
  · rw [hg.emitted, events, hg.yields, List.map_nil, List.append_nil]
  · rw [hg.yields] at hy
    cases hy

theorem logs_pure (a : α) : Logs (pure a : Run ν α) := logs_silent _ (silent_pure a)

theorem logs_bind (g : Run ν α) (f : α → Run ν β) (hg : Logs g) (hf : ∀ a, Logs (f a)) :
    Logs (g >>= f) := by
  refine ⟨fun w => ?_, fun w k y hy => ?_⟩
  · cases h : (g w).result with
    | error e =>
      rw [Gen.bind_error g f w e h]
      exact hg.emitted w
    | ok a =>
      rw [events_bind g f w a h, ← List.append_assoc, ← hg.emitted w, ← (hf a).emitted,
        Gen.bind_ok g f w a h]
  · cases h : (g w).result with
    | error e =>
      rw [Gen.bind_error g f w e h] at hy ⊢
      exact hg.yielded w k y hy
    | ok a =>
      have hlength : (events (g w)).length = (g w).yields.length := List.length_map _
      rw [events_bind g f w a h, List.take_append, hlength]
      rw [Gen.bind_ok g f w a h] at hy
      change ((g w).yields ++ (f a (g w).final).yields)[k]? = some y at hy
      by_cases hk : k < (g w).yields.length
      · rw [List.getElem?_append_left hk] at hy
        rw [Nat.sub_eq_zero_of_le hk, List.take_zero, List.append_nil]
        exact hg.yielded w k y hy
      · rw [List.getElem?_append_right (by omega)] at hy
        have hall : (events (g w)).take (k + 1) = events (g w) :=
          List.take_of_length_le (by omega)
        have hrest : k + 1 - (g w).yields.length = k - (g w).yields.length + 1 := by omega
        rw [(hf a).yielded _ _ y hy, hg.emitted w, List.append_assoc, hall, hrest]

theorem logs_note (hazard : World ν → Hazard ν) : Logs (note hazard) := by
  refine ⟨fun w => ?_, fun w k y hy => (nomatch hy)⟩
  change (if w.emitted = [] then w else _).emitted = w.emitted ++ []
  rw [List.append_nil]
  split_ifs <;> rfl

theorem logs_send (agentId : JsString) (request : CompletionRequest ν) :
    Logs (send agentId request) :=
  ⟨fun _ => (List.append_nil _).symm, fun _ _ _ hy => (nomatch hy)⟩

theorem logs_yield (event : SseCompletionEvent) : Logs (yieldEvent env event) := by
  refine ⟨fun _ => rfl, fun w k y hy => ?_⟩
  cases k with
  | zero =>
    obtain rfl := Option.some.inj hy
    rfl
  | succ k => cases hy

theorem logs_yieldUsage (usage : Option (TokenUsage ℤ)) : Logs (yieldUsage env usage) := by
  cases usage with
  | none => exact logs_pure ()
  | some usage => exact logs_yield _

theorem logs_readStream (ending : Option Failure) (script : List (StreamEvent JsString ℤ))
    (p : Progress) : Logs (readStream env chat row ending script p) := by
  induction script generalizing p with
  | nil => exact logs_bind _ _ (logs_silent _ silent_suspend) fun _ => logs_pure _
  | cons event rest ih =>
    refine logs_bind _ _ (logs_silent _ silent_suspend) fun _ =>
      logs_bind _ _ (logs_silent _ silent_aborted) fun b => ?_
    split_ifs
    · exact logs_pure _
    · cases event with
      | textDelta delta =>
        exact logs_bind _ _ (logs_silent _ (silent_delta ..)) fun _ =>
          logs_bind _ _ (logs_yield _) fun _ => ih _
      | thoughtDelta thought => exact logs_bind _ _ (logs_yield _) fun _ => ih _
      | usage usage => exact ih _
      | complete reason usage content => exact ih _
      | error error => exact logs_pure _

theorem logs_onFailure (execution : Execution ν) (p : Progress) (failure : Failure) :
    Logs (onFailure env chat row execution p failure) := by
  refine logs_bind _ _ (logs_note _) fun _ => logs_bind _ _ (logs_silent _ silent_aborted) fun b => ?_
  split_ifs
  · exact logs_bind _ _ (logs_silent _ (silent_finishAborted ..)) fun _ => logs_pure _
  · exact logs_bind _ _ (logs_silent _ (silent_flush ..)) fun _ =>
      logs_bind _ _ (logs_yield _) fun _ => logs_yield _

theorem logs_finishTurn (prepared : PreparedTurn ν) (p : Progress) (turnError : Option Failure) :
    Logs (finishTurn env chat prepared row p turnError) := by
  refine logs_bind _ _ (logs_silent _ silent_aborted) fun b => ?_
  split_ifs
  · exact logs_bind _ _ (logs_silent _ (silent_finishAborted ..)) fun _ => logs_pure _
  · cases turnError with
    | some failure =>
      exact logs_bind _ _ (logs_silent _ (silent_flush ..)) fun _ =>
        logs_bind _ _ (logs_yield _) fun _ => logs_bind _ _ (logs_yield _) fun _ => logs_pure _
    | none =>
      exact logs_bind _ _ (logs_silent _ (silent_flush ..)) fun _ =>
        logs_bind _ _ (logs_note _) fun _ =>
          logs_bind _ _ (logs_silent _ (silent_recordUsage ..)) fun _ =>
            logs_bind _ _ (logs_yield _) fun _ => logs_pure _

variable (dto : CreateCompletionDto ν)

theorem logs_streamMemberTurn (turn : Turn) : Logs (streamMemberTurn env chat dto turn) := by
  refine logs_bind _ _ (logs_note _) fun _ => logs_bind _ _ (logs_silent _ silent_read) fun w => ?_
  refine logs_bind _ _ (logs_silent _ (silent_lift _)) fun prepared => ?_
  refine logs_bind _ _ (logs_silent _ (silent_create ..)) fun row => ?_
  refine logs_bind _ _ (logs_yield _) fun _ => logs_bind _ _ (logs_silent _ silent_read) fun w => ?_
  refine logs_bind _ _ (logs_note _) fun _ => logs_bind _ _ (logs_silent _ (silent_lift _)) fun _ => ?_
  exact logs_bind _ _ (logs_send ..) fun _ =>
    logs_bind _ _ (logs_readStream ..) fun _ => logs_finishTurn ..

theorem logs_final (totals : Totals) : Logs (emitFinalStreamUsageAndDone env totals) :=
  logs_bind _ _ (logs_yieldUsage _) fun _ => logs_yield _

theorem logs_emitUnlessEnded (totals : Option Totals) : Logs (emitUnlessEnded env totals) := by
  cases totals with
  | none => exact logs_pure ()
  | some totals => exact logs_final totals

theorem logs_streamPipeline (finish : JsString → Bool) (maxSequence : Option ℤ)
    (members : List TeamMember) (totals : Totals) :
    Logs (streamPipeline env chat dto finish maxSequence members totals) := by
  induction members generalizing totals with
  | nil => exact logs_pure _
  | cons member rest ih =>
    refine logs_bind _ _ (logs_silent _ silent_aborted) fun b => ?_
    split_ifs
    · exact logs_pure _
    · refine logs_bind _ _ (logs_streamMemberTurn ..) fun res => ?_
      split_ifs
      · exact logs_pure _
      · exact logs_pure _
      · exact ih _

theorem logs_streamHandoffs (team : Option TeamRow) (members : List TeamMember) (left : ℕ)
    (currentMember : TeamMember) (totals : Totals) :
    Logs (streamHandoffs env chat dto team members left currentMember totals) := by
  induction left generalizing currentMember totals with
  | zero => exact logs_pure _
  | succ left ih =>
    refine logs_bind _ _ (logs_silent _ silent_aborted) fun b => ?_
    split_ifs
    · exact logs_pure _
    · refine logs_bind _ _ (logs_streamMemberTurn ..) fun res => ?_
      split_ifs
      · exact logs_pure _
      · exact logs_pure _
      · dsimp only
        split
        · exact logs_pure _
        · exact ih _ _

theorem logs_coordinator (team : Option TeamRow) (first : TeamMember) (rest : List TeamMember)
    (bound : ℕ) : Logs (streamCoordinatorTeamChat env chat dto team first rest bound) := by
  refine logs_bind _ _ (logs_streamMemberTurn ..) fun res => ?_
  split_ifs
  · exact logs_pure _
  · dsimp only
    split
    · exact logs_final _
    · refine logs_bind _ _ (logs_streamMemberTurn ..) fun spec => ?_
      split_ifs
      · exact logs_pure _
      · exact logs_final _
  · exact logs_final _

theorem logs_streamTeamChat (teamId : JsString) : Logs (streamTeamChat env chat dto teamId) := by
  refine logs_bind _ _ (logs_silent _ silent_read) fun w => ?_
  dsimp only
  split
  · exact logs_silent _ (silent_fail _)
  · refine logs_bind _ _ (logs_silent _ silent_aborted) fun b => ?_
    split_ifs
    · exact logs_silent _ (silent_fail _)
    · refine logs_bind _ _ (logs_silent _ (silent_lift _)) fun _ => ?_
      split
      · exact logs_coordinator ..
      · exact logs_bind _ _ (logs_silent _ silent_read) fun w =>
          logs_bind _ _ (logs_streamPipeline ..) logs_emitUnlessEnded
      · exact logs_bind _ _ (logs_streamHandoffs ..) logs_emitUnlessEnded
      · exact logs_bind _ _ (logs_streamPipeline ..) logs_emitUnlessEnded

theorem logs_streamAgentChat : Logs (streamAgentChat env chat dto) := by
  refine logs_bind _ _ (logs_silent _ silent_read) fun w =>
    logs_bind _ _ (logs_silent _ (silent_lift _)) fun chain =>
      logs_bind _ _ (logs_silent _ silent_aborted) fun b => ?_
  split_ifs
  · exact logs_silent _ (silent_fail _)
  refine logs_bind _ _ (logs_silent _ (silent_lift _)) fun supportsStreaming => ?_
  split_ifs
  · exact logs_silent _ (silent_fail _)
  refine logs_bind _ _ (logs_silent _ (silent_lift _)) fun prompt =>
    logs_bind _ _ (logs_silent _ (silent_create ..)) fun row =>
      logs_bind _ _ (logs_yield _) fun _ => logs_bind _ _ (logs_silent _ silent_read) fun w =>
        logs_bind _ _ (logs_send ..) fun _ =>
          logs_bind _ _ (logs_readStream ..) fun ending => ?_
  obtain ⟨p, failure⟩ := ending
  cases failure with
  | some failure => exact logs_onFailure ..
  | none =>
    refine logs_bind _ _ (logs_silent _ silent_aborted) fun b => ?_
    split_ifs
    · exact logs_bind _ _ (logs_silent _ (silent_finishAborted ..)) fun _ => logs_pure ()
    · refine logs_bind _ _ (logs_silent _ (silent_flush ..)) fun p => ?_
      refine logs_bind _ _ (logs_silent _ (silent_attempt _ (silent_recordUsage ..))) fun r => ?_
      cases r with
      | error failure => exact logs_onFailure ..
      | ok _ =>
        exact logs_bind _ _ (logs_yieldUsage _) fun _ =>
          logs_bind _ _ (logs_yield _) fun _ => logs_yield _

theorem logs_streamChat (chatId : JsString) : Logs (streamChat env chatId dto) := by
  refine logs_bind _ _ (logs_silent _ silent_read) fun w => ?_
  split
  · exact logs_silent _ (silent_fail _)
  · split
    · exact logs_streamTeamChat ..
    · exact logs_streamAgentChat ..

end Glassbeetle.StreamRecord
