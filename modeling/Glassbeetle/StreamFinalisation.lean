import Glassbeetle.Completions

set_option autoImplicit false

namespace Glassbeetle.StreamFinalisation
open JsText JsValue AdapterTypes Database ExecutionChain AsyncGenerator Inference SingleAgentChat
  MemberTurns TeamChat Completions

section Rows

variable {ν : Type} (env : Environment ν)

/-- None of the rows that the run has created is pending or streaming. -/
def Settled (w : World ν) : Prop :=
  ∀ id ∈ w.opened, ∀ row ∈ w.db.messages, row.id = id → row.status.inFlight = false

structure Held (current : Option JsString) (w : World ν) : Prop where
  settled : ∀ id ∈ w.opened, some id ≠ current → ∀ row ∈ w.db.messages, row.id = id →
    row.status.inFlight = false
  issued : ∀ id ∈ w.opened, ∃ n < w.issued, id = env.newId n

/-- A turn's adapter could not be created, after the turn's row had been. -/
def CreationFailed (w : World ν) : Prop :=
  ∃ moment config e, Hazard.creation moment config ∈ w.hazards ∧ env.create moment config = .error e

def underWay : SseCompletionEvent → Bool
  | .messageStart .. | .token .. | .thought .. => true
  | _ => false

def AtYield (event : SseCompletionEvent) (w : World ν) : Prop := underWay event = false → Settled w

variable {env}

theorem held_settled (w : World ν) (h : Held env none w) : Settled w :=
  fun id hid => h.settled id hid (by simp)

variable {Y : SseCompletionEvent → World ν → Prop} {E : Failure → World ν → Prop}

/-- A change of the state that touches neither the messages nor what the run has issued. -/
theorem held_keep (current : Option JsString) (w w' : World ν) (h : Held env current w)
    (hmessages : w'.db.messages = w.db.messages) (hopened : w'.opened = w.opened)
    (hissued : w.issued ≤ w'.issued) : Held env current w' := by
  refine ⟨fun id hid hne row hrow => ?_, fun id hid => ?_⟩
  · rw [hopened] at hid
    rw [hmessages] at hrow
    exact h.settled id hid hne row hrow
  · rw [hopened] at hid
    obtain ⟨n, hn, he⟩ := h.issued id hid
    exact ⟨n, by omega, he⟩

theorem held_suspend (current : Option JsString) :
    Triple (Held env current) (suspend env) Y (fun _ => Held env current) E := by
  refine triple_modify _ fun w h => ⟨fun id hid hne row hrow heq => ?_, h.issued⟩
  obtain ⟨n, -, rfl⟩ := h.issued id hid
  by_contra hflight
  rw [Bool.not_eq_false] at hflight
  obtain ⟨old, hold, hoid, hof⟩ := env.others_keep w.clock w.db n row hrow heq hflight
  exact absurd (h.settled _ hid hne old hold hoid) (by simp [hof])

theorem held_yield (current : Option JsString) (event : SseCompletionEvent)
    (h : current = none ∨ underWay event = true) :
    Triple (Held env current) (yieldEvent env event) AtYield
      (fun _ w => Held env current w ∧ w.emitted ≠ []) E := by
  refine triple_bind_modify _ _ (fun w => Held env current w ∧ w.emitted ≠ [])
    (fun w hw => ⟨held_keep current w _ hw rfl rfl (Nat.le_refl _), by simp⟩) ?_
  refine triple_bind_emit event _ (fun w hw hnot => ?_) fun w hw => ?_
  · rcases h with rfl | h
    · exact held_settled w hw.1
    · exact absurd hnot (by simp [h])
  · have hsuspend : Triple (Held env current) (suspend env) AtYield (fun _ => Held env current) E :=
      held_suspend current
    obtain ⟨hy, hq⟩ := hsuspend w hw.1
    exact ⟨hy, hq, hw.2⟩

theorem held_event (current : Option JsString) (event : SseCompletionEvent)
    (h : current = none ∨ underWay event = true) :
    Triple (Held env current) (yieldEvent env event) AtYield (fun _ => Held env current) E :=
  triple_conseq _ (held_yield current event h) (fun _ hw => hw) (fun _ _ hw => hw.1)
    fun _ _ hw => hw

theorem held_aborted (current : Option JsString) :
    Triple (Held env current) (isAborted env) Y (fun _ => Held env current) E :=
  triple_bind_read _ fun _ hw => triple_pure _ (by rintro _ rfl; exact hw)

theorem held_note (current : Option JsString) (hazard : World ν → Hazard ν) :
    Triple (Held env current) (note hazard) Y (fun _ => Held env current) E := by
  refine triple_modify _ fun w hw => ?_
  split_ifs
  · exact hw
  · exact held_keep current w _ hw rfl rfl (Nat.le_refl _)

theorem held_send (current : Option JsString) (agentId : JsString) (request : CompletionRequest ν) :
    Triple (Held env current) (send agentId request) Y (fun _ => Held env current) E :=
  triple_modify _ fun w hw => held_keep current w _ hw rfl rfl (Nat.le_refl _)

theorem held_weaken (id : JsString) (w : World ν) (h : Held env none w) : Held env (some id) w :=
  ⟨fun i hi _ => h.settled i hi (by simp), h.issued⟩

theorem held_newId :
    Triple (Held env none) (newId env) Y
      (fun id w => Held env none w ∧ id ∉ w.opened ∧ ∃ n < w.issued, id = env.newId n) E := by
  refine triple_bind_read _ fun w hw => triple_bind_modify _ _
    (fun w' => w' = { w with issued := w.issued + 1 }) (by rintro _ rfl; rfl)
    (triple_pure _ ?_)
  rintro _ rfl
  refine ⟨held_keep none w _ hw rfl rfl (Nat.le_succ _), fun hin => ?_, w.issued,
    Nat.lt_succ_self _, rfl⟩
  obtain ⟨n, hn, he⟩ := hw.issued _ hin
  exact absurd (env.newId_injective _ _ he) (by omega)

theorem held_insert (w : World ν) (id chatId agentId now : JsString) (row : MessageRow)
    (db : Tables ν) (hw : Held env none w) (hid : id ∉ w.opened)
    (hissued : ∃ n < w.issued, id = env.newId n)
    (h : w.db.insertMessage id chatId agentId [] .pending none now = some (row, db)) :
    row.id = id ∧
      Held env (some id) { w with db := db.touchChat chatId now, opened := w.opened ++ [id] } := by
  obtain ⟨hrow, rfl⟩ := insertMessage_some _ _ _ _ _ _ _ _ _ _ h
  have hrowId : row.id = id := by rw [hrow]
  refine ⟨hrowId, fun i hi hne r hr hri => ?_, fun i hi => ?_⟩
  · rcases List.mem_append.mp hi with hi | hi
    · rcases List.mem_append.mp hr with hr | hr
      · exact hw.settled i hi (by simp) r hr hri
      · rw [List.mem_singleton.mp hr, hrowId] at hri
        exact absurd (hri ▸ hi) hid
    · exact absurd (congrArg some (List.mem_singleton.mp hi)) hne
  · rcases List.mem_append.mp hi with hi | hi
    · exact hw.issued i hi
    · rw [List.mem_singleton.mp hi]
      exact hissued

theorem held_create (chat : ChatRow) (agent : AgentRow ν) :
    Triple (Held env none) (createPendingMessageRow env chat agent) Y
      (fun row => Held env (some row.id)) (fun _ => Held env none) := by
  refine triple_bind _ _ held_newId fun id => triple_bind_read _ fun w hw => ?_
  obtain ⟨hheld, hid, hissued⟩ := hw
  split
  · exact triple_fail _ (by rintro _ rfl; exact hheld)
  · dsimp only
    split
    · exact triple_fail _ (by rintro _ rfl; exact hheld)
    · rename_i row db h
      obtain ⟨hrow, hafter⟩ := held_insert w id _ _ _ row db hheld hid hissued h
      refine triple_bind_modify _ _ (Held env (some row.id)) ?_ (triple_pure _ fun _ hw => hw)
      rintro _ rfl
      rw [hrow]
      exact hafter

theorem held_write (w : World ν) (id content chatId now : JsString) (status : MessageStatus)
    (tokenCount : Option ℤ) (hw : Held env (some id) w) :
    Held env (if status.inFlight then some id else none)
      { w with db := (w.db.writeMessage id status content tokenCount).touchChat chatId now } := by
  refine ⟨fun i hi hne r hr hri => ?_, hw.issued⟩
  obtain ⟨old, hold, rfl⟩ := List.mem_map.mp hr
  rw [writeRow_id] at hri
  unfold writeRow
  split_ifs with hsame
  · by_contra hflight
    have hopen : status.inFlight = true := by simpa using hflight
    rw [if_pos hopen, ← hri, hsame] at hne
    exact hne rfl
  · refine hw.settled i hi (fun h => hsame ?_) old hold hri
    rw [hri]
    exact Option.some.inj h

theorem held_flush (chat : ChatRow) (row : MessageRow) (p : Progress) (status : MessageStatus)
    (tokenCount : Option ℤ) :
    Triple (Held env (some row.id)) (flushPartial env chat row p status tokenCount) Y
      (fun _ => Held env (if status.inFlight then some row.id else none)) E := by
  refine triple_bind_read _ fun w hw => triple_bind_modify _ _ _ ?_ (triple_pure _ fun _ h => h)
  rintro w' rfl
  exact held_write w' row.id _ _ _ status tokenCount hw

theorem held_streaming (chat : ChatRow) (row : MessageRow) (p : Progress) :
    Triple (Held env (some row.id)) (flushPartial env chat row p .streaming p.outputTokens) Y
      (fun _ => Held env (some row.id)) E :=
  held_flush chat row p .streaming _

theorem held_delta (chat : ChatRow) (row : MessageRow) (p : Progress) (delta : JsString) :
    Triple (Held env (some row.id)) (onTextDelta env chat row p delta) Y
      (fun _ => Held env (some row.id)) E := by
  unfold onTextDelta
  simp only
  split_ifs
  · exact held_streaming chat row _
  · refine triple_bind_read _ fun w hw => ?_
    have hnow : ∀ s, s = w → Held env (some row.id) s := by rintro _ rfl; exact hw
    split_ifs
    · exact triple_conseq _ (held_streaming chat row _) hnow (fun _ _ h => h) fun _ _ h => h
    · exact triple_pure _ hnow

theorem held_readStream (chat : ChatRow) (row : MessageRow) (ending : Option Failure)
    (script : List (StreamEvent JsString ℤ)) (p : Progress) :
    Triple (Held env (some row.id)) (readStream env chat row ending script p) AtYield
      (fun _ => Held env (some row.id)) E := by
  induction script generalizing p with
  | nil => exact triple_bind _ _ (held_suspend _) fun _ => triple_pure _ fun _ h => h
  | cons event rest ih =>
    refine triple_bind _ _ (held_suspend _) fun _ => triple_bind _ _ (held_aborted _) fun b => ?_
    split_ifs
    · exact triple_pure _ fun _ h => h
    · cases event with
      | textDelta delta =>
        exact triple_bind _ _ (held_delta chat row p delta) fun _ =>
          triple_bind _ _ (held_event _ _ (.inr rfl)) fun _ => ih _
      | thoughtDelta thought =>
        exact triple_bind _ _ (held_event _ _ (.inr rfl)) fun _ => ih _
      | usage usage => exact ih _
      | complete reason usage content => exact ih _
      | error error => exact triple_pure _ fun _ h => h

theorem held_finishAborted (chat : ChatRow) (row : MessageRow) (p : Progress) :
    Triple (Held env (some row.id)) (finishAborted env chat row p) Y (fun _ => Held env none) E := by
  unfold finishAborted
  split_ifs
  · exact held_flush chat row _ .complete _
  · exact held_flush chat row _ .error _

theorem held_recordUsage (chat : ChatRow) (agent : AgentRow ν) (execution : Execution ν)
    (usage : Option (TokenUsage ℤ)) :
    Triple (Held env none) (recordUsage env chat agent execution usage) Y (fun _ => Held env none)
      (fun _ => Held env none) := by
  have hid : Triple (Held env none) (newId env) Y (fun _ => Held env none)
      (fun _ => Held env none) :=
    triple_conseq _ held_newId (fun _ h => h) (fun _ _ h => h.1) fun _ _ h => h
  refine triple_bind _ _ hid fun id => triple_bind_read _ fun w hw => ?_
  split
  · exact triple_fail _ (by rintro _ rfl; exact hw)
  · rename_i db h
    refine triple_modify _ ?_
    rintro w' rfl
    refine held_keep none w' _ hw ?_ rfl (Nat.le_refl _)
    unfold Tables.insertUsageEvent at h
    split_ifs at h
    rw [← Option.some.inj h]

theorem held_onFailure (chat : ChatRow) (row : MessageRow) (execution : Execution ν) (p : Progress)
    (failure : Failure) :
    Triple (Held env (some row.id)) (onFailure env chat row execution p failure) AtYield
      (fun _ => Held env none) E := by
  refine triple_bind _ _ (held_note _ _) fun _ => triple_bind _ _ (held_aborted _) fun b => ?_
  split_ifs
  · exact triple_bind _ _ (held_finishAborted chat row p) fun _ => triple_pure _ fun _ h => h
  · exact triple_bind _ _ (held_flush chat row p .error _) fun _ =>
      triple_bind _ _ (held_event none _ (.inl rfl)) fun _ => held_event none _ (.inl rfl)

def Finalises {α : Type} (env : Environment ν) (g : Run ν α) : Prop :=
  Triple (Held env none) g AtYield (fun _ => Held env none)
    fun _ w => Held env none w ∨ CreationFailed env w

variable {α β : Type}

theorem finalises_pure (a : α) : Finalises env (pure a : Run ν α) := triple_pure a fun _ h => h

theorem finalises_fail (failure : Failure) : Finalises env (Gen.fail failure : Run ν α) :=
  triple_fail failure fun _ h => .inl h

theorem finalises_bind (g : Run ν α) (f : α → Run ν β) (hg : Finalises env g)
    (hf : ∀ a, Finalises env (f a)) : Finalises env (g >>= f) :=
  triple_bind g f hg hf

theorem finalises_lift (r : Except Failure α) : Finalises env (Gen.lift r : Run ν α) :=
  triple_lift r (fun _ _ _ h => h) fun _ _ _ h => .inl h

theorem finalises_read : Finalises env (Gen.read : Run ν (World ν)) := triple_read fun _ h => h

theorem finalises_aborted : Finalises env (isAborted env) := held_aborted none

theorem finalises_yield (event : SseCompletionEvent) : Finalises env (yieldEvent env event) :=
  held_event none event (.inl rfl)

theorem finalises_yieldUsage (usage : Option (TokenUsage ℤ)) :
    Finalises env (yieldUsage env usage) := by
  cases usage with
  | none => exact finalises_pure ()
  | some usage => exact finalises_yield _

theorem finalises_finishTurn (chat : ChatRow) (prepared : PreparedTurn ν) (row : MessageRow)
    (p : Progress) (turnError : Option Failure) :
    Triple (Held env (some row.id)) (finishTurn env chat prepared row p turnError) AtYield
      (fun _ => Held env none) fun _ w => Held env none w ∨ CreationFailed env w := by
  refine triple_bind _ _ (held_aborted _) fun b => ?_
  split_ifs
  · exact triple_bind _ _ (held_finishAborted chat row p) fun _ => finalises_pure _
  · cases turnError with
    | some failure =>
      exact triple_bind _ _ (held_flush chat row p .error _) fun _ =>
        finalises_bind _ _ (finalises_yield _) fun _ =>
          finalises_bind _ _ (finalises_yield _) fun _ => finalises_pure _
    | none =>
      refine triple_bind _ _ (held_flush chat row p .complete _) fun p => ?_
      have hrecord : Finalises env
          (recordUsage env chat prepared.agent prepared.execution p.reportedUsage) :=
        triple_conseq _ (held_recordUsage _ _ _ _) (fun _ h => h) (fun _ _ h => h) fun _ _ h => .inl h
      exact triple_bind _ _ (held_note none _) fun _ => finalises_bind _ _ hrecord fun _ =>
        finalises_bind _ _ (finalises_yield _) fun _ => finalises_pure _

/-- The adapter is created while the row is pending; what comes of it is noted. -/
theorem finalises_opened (chat : ChatRow) (prepared : PreparedTurn ν) (row : MessageRow) :
    Triple (fun w => Held env (some row.id) w ∧ w.emitted ≠ [])
      (do
        let w ← Gen.read
        note fun w => .creation w.clock prepared.execution.config
        let _ ← Gen.lift (env.create w.clock prepared.execution.config)
        let script := env.stream w.requests.length prepared.execution.config prepared.request
        send prepared.agent.id prepared.request
        let (p, turnError) ← readStream env chat row script.ending script.events
          (.start (env.now w.clock))
        finishTurn env chat prepared row p turnError)
      AtYield (fun _ => Held env none) fun _ w => Held env none w ∨ CreationFailed env w := by
  refine triple_bind_read _ fun w hw => ?_
  refine triple_bind_modify _ _ (fun w' => Held env (some row.id) w' ∧
    Hazard.creation w.clock prepared.execution.config ∈ w'.hazards) ?_ ?_
  · rintro w' rfl
    rw [if_neg hw.2]
    exact ⟨held_keep _ w' _ hw.1 rfl rfl (Nat.le_refl _),
      List.mem_append_right _ (List.mem_singleton.mpr rfl)⟩
  refine triple_bind_lift _ _ (fun _ _ => ?_) fun e he w' hw' => .inr ⟨_, _, e, hw'.2, he⟩
  refine triple_bind _ _ (triple_conseq _ (held_send (some row.id) _ _) (fun _ h => h.1)
    (fun _ _ h => h) fun _ _ h => h) fun _ => ?_
  refine triple_bind _ _ (held_readStream _ _ _ _ _) fun ending => ?_
  exact finalises_finishTurn chat prepared row ending.1 ending.2

theorem finalises_streamMemberTurn (chat : ChatRow) (dto : CreateCompletionDto ν) (turn : Turn) :
    Finalises env (streamMemberTurn env chat dto turn) := by
  refine triple_bind _ _ (held_note none _) fun _ => ?_
  refine finalises_bind _ _ finalises_read fun w =>
    finalises_bind _ _ (finalises_lift _) fun prepared => ?_
  have hcreate : Triple (Held env none) (createPendingMessageRow env chat prepared.agent) AtYield
      (fun row => Held env (some row.id))
      (fun _ w => Held env none w ∨ CreationFailed env w) :=
    triple_conseq _ (held_create chat _) (fun _ h => h) (fun _ _ h => h) fun _ _ h => .inl h
  exact triple_bind _ _ hcreate fun row =>
    triple_bind _ _ (held_yield _ _ (.inr rfl)) fun _ => finalises_opened chat prepared row

theorem finalises_final (totals : Totals) : Finalises env (emitFinalStreamUsageAndDone env totals) :=
  finalises_bind _ _ (finalises_yieldUsage _) fun _ => finalises_yield _

theorem finalises_emitUnlessEnded (totals : Option Totals) :
    Finalises env (emitUnlessEnded env totals) := by
  cases totals with
  | none => exact finalises_pure ()
  | some totals => exact finalises_final totals

variable (chat : ChatRow) (dto : CreateCompletionDto ν)

theorem finalises_streamPipeline (finish : JsString → Bool) (maxSequence : Option ℤ)
    (members : List TeamMember) (totals : Totals) :
    Finalises env (streamPipeline env chat dto finish maxSequence members totals) := by
  induction members generalizing totals with
  | nil => exact finalises_pure _
  | cons member rest ih =>
    refine finalises_bind _ _ finalises_aborted fun b => ?_
    split_ifs
    · exact finalises_pure _
    · refine finalises_bind _ _ (finalises_streamMemberTurn chat dto _) fun res => ?_
      split_ifs
      · exact finalises_pure _
      · exact finalises_pure _
      · exact ih _

theorem finalises_streamHandoffs (team : Option TeamRow) (members : List TeamMember) (left : ℕ)
    (currentMember : TeamMember) (totals : Totals) :
    Finalises env (streamHandoffs env chat dto team members left currentMember totals) := by
  induction left generalizing currentMember totals with
  | zero => exact finalises_pure _
  | succ left ih =>
    refine finalises_bind _ _ finalises_aborted fun b => ?_
    split_ifs
    · exact finalises_pure _
    · refine finalises_bind _ _ (finalises_streamMemberTurn chat dto _) fun res => ?_
      split_ifs
      · exact finalises_pure _
      · exact finalises_pure _
      · dsimp only
        split
        · exact finalises_pure _
        · exact ih _ _

theorem finalises_coordinator (team : Option TeamRow) (first : TeamMember) (rest : List TeamMember)
    (bound : ℕ) :
    Finalises env (streamCoordinatorTeamChat env chat dto team first rest bound) := by
  refine finalises_bind _ _ (finalises_streamMemberTurn chat dto _) fun res => ?_
  split_ifs
  · exact finalises_pure _
  · dsimp only
    split
    · exact finalises_final _
    · refine finalises_bind _ _ (finalises_streamMemberTurn chat dto _) fun spec => ?_
      split_ifs
      · exact finalises_pure _
      · exact finalises_final _
  · exact finalises_final _

theorem finalises_streamTeamChat (teamId : JsString) :
    Finalises env (streamTeamChat env chat dto teamId) := by
  refine finalises_bind _ _ finalises_read fun w => ?_
  dsimp only
  split
  · exact finalises_fail _
  · refine finalises_bind _ _ finalises_aborted fun b => ?_
    split_ifs
    · exact finalises_fail _
    · refine finalises_bind _ _ (finalises_lift _) fun _ => ?_
      split
      · exact finalises_coordinator chat dto _ _ _ _
      · exact finalises_bind _ _ finalises_read fun w =>
          finalises_bind _ _ (finalises_streamPipeline chat dto _ _ _ _) finalises_emitUnlessEnded
      · exact finalises_bind _ _ (finalises_streamHandoffs chat dto _ _ _ _ _) finalises_emitUnlessEnded
      · exact finalises_bind _ _ (finalises_streamPipeline chat dto _ _ _ _) finalises_emitUnlessEnded

theorem finalises_streamAgentChat : Finalises env (streamAgentChat env chat dto) := by
  refine finalises_bind _ _ finalises_read fun w =>
    finalises_bind _ _ (finalises_lift _) fun chain =>
      finalises_bind _ _ finalises_aborted fun b => ?_
  split_ifs
  · exact finalises_fail _
  refine finalises_bind _ _ (finalises_lift _) fun supportsStreaming => ?_
  split_ifs
  · exact finalises_fail _
  refine finalises_bind _ _ (finalises_lift _) fun prompt => ?_
  have hcreate : Triple (Held env none) (createPendingMessageRow env chat chain.1) AtYield
      (fun row => Held env (some row.id))
      (fun _ w => Held env none w ∨ CreationFailed env w) :=
    triple_conseq _ (held_create chat _) (fun _ h => h) (fun _ _ h => h) fun _ _ h => .inl h
  refine triple_bind _ _ hcreate fun row =>
    triple_bind _ _ (held_event _ _ (.inr rfl)) fun _ => triple_bind_read _ fun w hw => ?_
  have hnow : ∀ s, s = w → Held env (some row.id) s := by rintro _ rfl; exact hw
  refine triple_bind _ _ (triple_conseq _ (held_send (some row.id) _ _) hnow (fun _ _ h => h)
    fun _ _ h => h) fun _ => triple_bind _ _ (held_readStream _ _ _ _ _) fun ending => ?_
  obtain ⟨p, failure⟩ := ending
  cases failure with
  | some failure => exact held_onFailure chat row chain.2 p failure
  | none =>
    refine triple_bind _ _ (held_aborted _) fun b => ?_
    split_ifs
    · exact triple_bind _ _ (held_finishAborted chat row p) fun _ => finalises_pure ()
    · refine triple_bind _ _ (held_flush chat row p .complete _) fun p => ?_
      refine finalises_bind _ _ (triple_attempt _ (held_recordUsage _ _ _ _) (fun _ _ h => h)
        fun _ _ h => h) fun recorded => ?_
      cases recorded with
      | error failure =>
        exact triple_conseq _ (held_onFailure chat row chain.2 p failure)
          (held_weaken row.id) (fun _ _ h => h) fun _ _ h => h
      | ok _ =>
        exact finalises_bind _ _ (finalises_yieldUsage _) fun _ =>
          finalises_bind _ _ (finalises_yield _) fun _ => finalises_yield _

theorem finalises_streamChat (chatId : JsString) : Finalises env (streamChat env chatId dto) := by
  refine finalises_bind _ _ finalises_read fun w => ?_
  split
  · exact finalises_fail _
  · split
    · exact finalises_streamTeamChat _ dto _
    · exact finalises_streamAgentChat _ dto

end Rows

variable {ν : Type}

/-- Drained, no adapter is refused once its row is there; left early, no message is under way. -/
def Careful {α : Type} (env : Environment ν) (t : Trace (World ν) SseCompletionEvent Failure α) :
    Option ℕ → Prop
  | none => ∀ moment config, Hazard.creation moment config ∈ t.final.hazards →
      ∃ supportsStreaming, env.create moment config = .ok supportsStreaming
  | some k => ∀ event, (events t)[k]? = some event → underWay event = false

theorem settled_of_finalises {α : Type} (env : Environment ν) (g : Run ν α) (h : Finalises env g)
    (db : Tables ν) (stop : Option ℕ) (hcareful : Careful env (g (.start db)) stop) (w : World ν)
    (hstop : stoppedAt (g (.start db)) stop = some w) : Settled w := by
  obtain ⟨hyields, hend⟩ := h (.start db) ⟨fun _ hid => (nomatch hid), fun _ hid => (nomatch hid)⟩
  cases stop with
  | none =>
    obtain rfl := Option.some.inj hstop
    split at hend
    · exact held_settled _ hend
    · rcases hend with hend | ⟨moment, config, e, hin, he⟩
      · exact held_settled _ hend
      · obtain ⟨supportsStreaming, hok⟩ := hcareful moment config hin
        rw [hok] at he
        cases he
  | some k =>
    obtain ⟨⟨event, _⟩, hk, rfl⟩ := Option.map_eq_some_iff.mp hstop
    refine hyields _ (List.mem_of_getElem? hk) (hcareful event ?_)
    unfold events
    rw [List.getElem?_map, hk]
    rfl

inductive Generator (ν : Type) where
  | streamChat (chatId : JsString) (dto : CreateCompletionDto ν)
  | streamMemberTurn (chat : ChatRow) (dto : CreateCompletionDto ν) (turn : Turn)

def Generator.run (env : Environment ν) : Generator ν → Run ν Unit
  | .streamChat chatId dto => Completions.streamChat env chatId dto
  | .streamMemberTurn chat dto turn => do
    let _ ← MemberTurns.streamMemberTurn env chat dto turn

/-- However a generator ends, the rows it has created are complete or in error. -/
theorem rows_finalised (env : Environment ν) (generator : Generator ν) (db : Tables ν)
    (stop : Option ℕ) (hcareful : Careful env (generator.run env (.start db)) stop) (w : World ν)
    (hstop : stoppedAt (generator.run env (.start db)) stop = some w) : Settled w := by
  refine settled_of_finalises env _ ?_ db stop hcareful w hstop
  cases generator with
  | streamChat chatId dto => exact finalises_streamChat dto chatId
  | streamMemberTurn chat dto turn =>
    exact finalises_bind _ _ (finalises_streamMemberTurn chat dto turn) fun _ => finalises_pure ()

theorem rows_finalised_drained :
    Settled (streamChat (sampleEnvironment (fun _ => js "hello") none) (js "d") plainDto
      (.start (sampleTables .sequential))).final :=
  rows_finalised (sampleEnvironment (fun _ => js "hello") none) (.streamChat (js "d") plainDto)
    (sampleTables .sequential) none (fun _ _ _ => ⟨true, rfl⟩) _ rfl

instance (w : World ν) : Decidable (Settled w) :=
  inferInstanceAs (Decidable (∀ id ∈ w.opened, ∀ row ∈ w.db.messages, row.id = id →
    row.status.inFlight = false))

/-- The consumer breaks off at the first event, and the row stays pending. -/
theorem first_event_left_pending :
    ¬∀ w, stoppedAt ((Generator.streamChat (js "c") plainDto).run
      (sampleEnvironment (fun _ => js "hello") none) (.start (sampleTables .sequential))) (some 0) =
        some w → Settled w := by
  intro h
  have hopen : ((stoppedAt ((Generator.streamChat (js "c") plainDto).run
      (sampleEnvironment (fun _ => js "hello") none) (.start (sampleTables .sequential)))
        (some 0)).any fun w => decide ¬Settled w) = true := by decide +kernel
  obtain ⟨w, hw, hnot⟩ := (Option.any_eq_true _ _).mp hopen
  exact of_decide_eq_true hnot (h w hw)

end Glassbeetle.StreamFinalisation
