import Glassbeetle.StreamRecord

set_option autoImplicit false

namespace Glassbeetle.StreamProtocol
open JsText JsValue AdapterTypes Database ExecutionChain AsyncGenerator Inference SingleAgentChat
  MemberTurns TeamChat Completions StreamRecord

section Grammar

def Delta (id : JsString) : SseCompletionEvent → Prop
  | .token messageId _ => messageId = id
  | .thought messageId _ => messageId = id
  | _ => False

/-- `message_start (token|thought)*` -/
inductive Opened (id : JsString) : List SseCompletionEvent → Prop
  | start (chatId : JsString) (sequence : ℤ) (agentId agentName : JsString) :
      Opened id [.messageStart id chatId sequence agentId agentName]
  | delta (events : List SseCompletionEvent) (event : SseCompletionEvent) (h : Opened id events)
      (hdelta : Delta id event) : Opened id (events ++ [event])

/-- `message_start (token|thought)* [usage] message_complete` -/
inductive Block : List SseCompletionEvent → Prop
  | plain (id : JsString) (opened : List SseCompletionEvent) (tokenCount : Option ℤ)
      (usage : Option (TokenUsage ℤ)) (h : Opened id opened) :
      Block (opened ++ [.messageComplete id tokenCount usage])
  | withUsage (id : JsString) (opened : List SseCompletionEvent) (total : TokenUsage ℤ)
      (tokenCount : Option ℤ) (usage : Option (TokenUsage ℤ)) (h : Opened id opened) :
      Block (opened ++ [.usage total] ++ [.messageComplete id tokenCount usage])

inductive Blocks : List SseCompletionEvent → Prop
  | none : Blocks []
  | more (before block : List SseCompletionEvent) (h : Blocks before) (hblock : Block block) :
      Blocks (before ++ block)

inductive Conforms : List SseCompletionEvent → Prop
  | plain (blocks : List SseCompletionEvent) (h : Blocks blocks) (hne : blocks ≠ []) :
      Conforms (blocks ++ [.done])
  | withUsage (blocks : List SseCompletionEvent) (total : TokenUsage ℤ) (h : Blocks blocks)
      (hne : blocks ≠ []) : Conforms (blocks ++ [.usage total] ++ [.done])
  | failed (blocks opened : List SseCompletionEvent) (id : JsString) (payload : StreamErrorPayload)
      (h : Blocks blocks) (hopened : Opened id opened) :
      Conforms (blocks ++ opened ++ [.error payload] ++ [.done])

def Within (id : JsString) (events : List SseCompletionEvent) : Prop :=
  ∃ before opened, Blocks before ∧ Opened id opened ∧ events = before ++ opened

theorem opened_last (id : JsString) (events : List SseCompletionEvent) (h : Opened id events) :
    ∃ start event, events = start ++ [event] ∧ event ≠ .done := by
  cases h with
  | start chatId sequence agentId agentName => exact ⟨[], _, rfl, by simp⟩
  | delta events event h hdelta =>
    refine ⟨events, event, rfl, ?_⟩
    rintro rfl
    exact hdelta

theorem conforms_last (events : List SseCompletionEvent) (h : Conforms events) :
    ∃ start, events = start ++ [.done] := by
  cases h with
  | plain blocks => exact ⟨blocks, rfl⟩
  | withUsage blocks total => exact ⟨_, rfl⟩
  | failed blocks opened id payload => exact ⟨_, rfl⟩

theorem within_not_conforms (id : JsString) (events : List SseCompletionEvent)
    (h : Within id events) : ¬Conforms events := by
  intro hconforms
  obtain ⟨before, opened, -, hopened, rfl⟩ := h
  obtain ⟨start, event, rfl, hne⟩ := opened_last id opened hopened
  obtain ⟨other, heq⟩ := conforms_last _ hconforms
  rw [← List.append_assoc] at heq
  exact hne (List.append_inj_right' heq rfl |> List.singleton_inj.mp)

theorem within_ne_nil (id : JsString) (events : List SseCompletionEvent) (h : Within id events) :
    events ≠ [] := by
  obtain ⟨before, opened, -, hopened, rfl⟩ := h
  obtain ⟨start, event, rfl, -⟩ := opened_last id opened hopened
  simp

theorem within_start (id chatId : JsString) (sequence : ℤ) (agentId agentName : JsString)
    (events : List SseCompletionEvent) (h : Blocks events) :
    Within id (events ++ [.messageStart id chatId sequence agentId agentName]) :=
  ⟨events, _, h, .start chatId sequence agentId agentName, rfl⟩

theorem within_delta (id : JsString) (event : SseCompletionEvent) (hdelta : Delta id event)
    (events : List SseCompletionEvent) (h : Within id events) : Within id (events ++ [event]) := by
  obtain ⟨before, opened, hbefore, hopened, rfl⟩ := h
  exact ⟨before, opened ++ [event], hbefore, .delta opened event hopened hdelta,
    List.append_assoc before opened [event]⟩

theorem within_complete (id : JsString) (tokenCount : Option ℤ) (usage : Option (TokenUsage ℤ))
    (events : List SseCompletionEvent) (h : Within id events) :
    Blocks (events ++ [.messageComplete id tokenCount usage]) := by
  obtain ⟨before, opened, hbefore, hopened, rfl⟩ := h
  rw [List.append_assoc]
  exact .more before _ hbefore (.plain id opened tokenCount usage hopened)

theorem within_usage (id : JsString) (total : TokenUsage ℤ) (tokenCount : Option ℤ)
    (usage : Option (TokenUsage ℤ)) (events : List SseCompletionEvent) (h : Within id events) :
    Blocks (events ++ [.usage total] ++ [.messageComplete id tokenCount usage]) := by
  obtain ⟨before, opened, hbefore, hopened, rfl⟩ := h
  rw [List.append_assoc before, List.append_assoc before]
  exact .more before _ hbefore (.withUsage id opened total tokenCount usage hopened)

theorem within_failed (id : JsString) (payload : StreamErrorPayload)
    (events : List SseCompletionEvent) (h : Within id events) :
    Conforms (events ++ [.error payload] ++ [.done]) := by
  obtain ⟨before, opened, hbefore, hopened, rfl⟩ := h
  exact .failed before opened id payload hbefore hopened

end Grammar

section Steps

variable {ν : Type} (env : Environment ν) (dto : CreateCompletionDto ν)

/-- Whether a step that can go wrong does not. -/
def Sound : Hazard ν → Prop
  | .turn moment db chat turn =>
    (∃ prepared, prepareTurn env.toRuntime db chat dto turn = .ok prepared) ∧
      env.storageFails moment = false ∧ (db.chat chat.id).isSome
  | .creation moment config => ∃ supportsStreaming, env.create moment config = .ok supportsStreaming
  | .usageRow db agentId chatId execution =>
    (db.agent agentId).isSome ∧ (db.provider execution.provider.id).isSome ∧
      (db.model execution.model.id).isSome ∧ (db.chat chatId).isSome
  | .provider failure => abortLike env.toLowerCase failure = false

def AllSound (w : World ν) : Prop := ∀ hazard ∈ w.hazards, Sound env dto hazard

def At (M : List SseCompletionEvent → Prop) (w : World ν) : Prop :=
  M w.emitted ∧ AllSound env dto w

structure Awaiting (hazard : Hazard ν) (w : World ν) : Prop where
  early : w.emitted = [] → AllSound env dto w
  noted : w.emitted ≠ [] → hazard ∈ w.hazards
  resolved : Sound env dto hazard → AllSound env dto w

/-- An exception is for the first event not to come, or for a step to have gone wrong. -/
def Thrown (_ : Failure) (w : World ν) : Prop := w.emitted = [] ↔ AllSound env dto w

variable {env dto} {M M' : List SseCompletionEvent → Prop}
  {Y : SseCompletionEvent → World ν → Prop} {E : Failure → World ν → Prop}

theorem awaiting_unsound (hazard : Hazard ν) (failure : Failure) (w : World ν)
    (h : Awaiting env dto hazard w) (hunsound : ¬Sound env dto hazard) :
    Thrown env dto failure w := by
  refine ⟨h.early, fun hall => ?_⟩
  by_contra hne
  exact hunsound (hall hazard (h.noted hne))

theorem allSound_congr (w w' : World ν) (hhazards : w'.hazards = w.hazards) :
    AllSound env dto w' ↔ AllSound env dto w := by
  unfold AllSound
  rw [hhazards]

theorem at_congr (w w' : World ν) (h : M w.emitted) (hall : AllSound env dto w)
    (hemitted : w'.emitted = w.emitted) (hhazards : w'.hazards = w.hazards) :
    At env dto M w' :=
  ⟨hemitted ▸ h, (allSound_congr w w' hhazards).mpr hall⟩

theorem thrown_congr (failure : Failure) (w w' : World ν) (h : Thrown env dto failure w)
    (hemitted : w'.emitted = w.emitted) (hhazards : w'.hazards = w.hazards) :
    Thrown env dto failure w' := by
  unfold Thrown
  rw [hemitted, allSound_congr w w' hhazards]
  exact h

theorem at_modify (f : World ν → World ν) (hemitted : ∀ w, (f w).emitted = w.emitted)
    (hhazards : ∀ w, (f w).hazards = w.hazards) :
    Triple (At env dto M) (Gen.modify f) Y (fun _ => At env dto M) E :=
  triple_modify f fun w hw => at_congr w _ hw.1 hw.2 (hemitted w) (hhazards w)

theorem awaiting_note (hazard : World ν → Hazard ν) (s : World ν) (hs : At env dto M s) :
    Triple (· = s) (note hazard) Y
      (fun _ w => (M w.emitted ∧ Awaiting env dto (hazard s) w) ∧ w.db = s.db ∧ w.clock = s.clock)
      E := by
  refine triple_modify _ ?_
  rintro w rfl
  split_ifs with hnil
  · exact ⟨⟨hs.1, fun _ => hs.2, fun hne => absurd hnil hne, fun _ => hs.2⟩, rfl, rfl⟩
  · refine ⟨⟨hs.1, fun h => absurd h hnil,
      fun _ => List.mem_append_right _ (List.mem_singleton_self _), fun hsound hz hin => ?_⟩,
      rfl, rfl⟩
    rcases List.mem_append.mp hin with hin | hin
    · exact hs.2 hz hin
    · rw [List.mem_singleton.mp hin]
      exact hsound

theorem awaiting_next (hazard : World ν → Hazard ν)
    (hkeep : ∀ w w', w'.db = w.db → w'.clock = w.clock → hazard w' = hazard w) :
    Triple (At env dto M) (note hazard) Y
      (fun _ w => M w.emitted ∧ Awaiting env dto (hazard w) w) E :=
  triple_given fun s hs => triple_conseq _ (awaiting_note hazard s hs) (fun _ h => h)
    (fun _ w h => ⟨h.1.1, hkeep s w h.2.1 h.2.2 ▸ h.1.2⟩) fun _ _ h => h

theorem at_read :
    Triple (At env dto M) (Gen.read : Run ν (World ν)) Y (fun _ => At env dto M) E :=
  triple_read fun _ h => h

theorem at_suspend : Triple (At env dto M) (suspend env) Y (fun _ => At env dto M) E :=
  at_modify _ (fun _ => rfl) fun _ => rfl

theorem at_send (agentId : JsString) (request : CompletionRequest ν) :
    Triple (At env dto M) (send agentId request) Y (fun _ => At env dto M) E :=
  at_modify _ (fun _ => rfl) fun _ => rfl

theorem at_yield (event : SseCompletionEvent) (h : ∀ events, M events → M' (events ++ [event])) :
    Triple (At env dto M) (yieldEvent env event) (fun _ _ => True) (fun _ => At env dto M') E :=
  triple_bind_modify _ _ (At env dto M') (fun _ hw => ⟨h _ hw.1, hw.2⟩)
    (triple_bind_emit event _ (fun _ _ => trivial) at_suspend)

variable (chat : ChatRow) (row : MessageRow)

theorem at_flush (p : Progress) (status : MessageStatus) (tokenCount : Option ℤ) :
    Triple (At env dto M) (flushPartial env chat row p status tokenCount) Y
      (fun _ => At env dto M) E := by
  refine triple_bind_read _ fun s hs => triple_bind_modify _ _ (At env dto M) ?_
    (triple_pure _ fun _ h => h)
  rintro w rfl
  exact hs

theorem at_delta (p : Progress) (delta : JsString) :
    Triple (At env dto M) (onTextDelta env chat row p delta) Y (fun _ => At env dto M) E := by
  unfold onTextDelta
  dsimp only
  split_ifs
  · exact at_flush chat row _ _ _
  · refine triple_bind_read _ fun s hs => ?_
    have hnow : ∀ w, w = s → At env dto M w := by rintro w rfl; exact hs
    split_ifs
    · exact triple_conseq _ (at_flush chat row _ _ _) hnow (fun _ _ h => h) fun _ _ h => h
    · exact triple_pure _ hnow

def Insertable (env : Environment ν) (chat : ChatRow) (agent : AgentRow ν) (s : World ν) : Prop :=
  env.storageFails s.clock = false ∧ (s.db.chat chat.id).isSome ∧ (s.db.agent agent.id).isSome

theorem create_triple (agent : AgentRow ν) (s : World ν) :
    Triple (· = s) (createPendingMessageRow env chat agent) Y
      (fun _ w => (w.emitted = s.emitted ∧ w.hazards = s.hazards) ∧ Insertable env chat agent s)
      (fun _ w => (w.emitted = s.emitted ∧ w.hazards = s.hazards) ∧
        ¬Insertable env chat agent s) := by
  have hid : Triple (· = s) (newId env) Y
      (fun _ w => (w.emitted = s.emitted ∧ w.hazards = s.hazards) ∧ w.clock = s.clock ∧ w.db = s.db)
      (fun _ w => (w.emitted = s.emitted ∧ w.hazards = s.hazards) ∧
        ¬Insertable env chat agent s) := by
    refine triple_bind_read _ ?_
    rintro w rfl
    refine triple_bind_modify _ _ _ ?_ (triple_pure _ fun _ h => h)
    rintro w rfl
    exact ⟨⟨rfl, rfl⟩, rfl, rfl⟩
  refine triple_bind _ _ hid fun id => triple_bind_read _ fun w hw => ?_
  obtain ⟨hsame, hclock, hdb⟩ := hw
  unfold Insertable
  rw [← hclock, ← hdb]
  dsimp only
  split_ifs with hfails
  · exact triple_fail _ (by rintro w rfl; exact ⟨hsame, fun h => by simp [hfails] at h⟩)
  · split
    · rename_i hnone
      refine triple_fail _ ?_
      rintro w rfl
      exact ⟨hsame, fun h => insertMessage_none _ _ _ _ _ _ _ _ hnone h.2⟩
    · rename_i row db hsome
      refine triple_bind_modify _ _ _ ?_ (triple_pure _ fun _ h => h)
      rintro w rfl
      refine ⟨hsame, by simpa using hfails, ?_⟩
      by_contra hnot
      simp [Tables.insertMessage, hnot] at hsome

def Recordable (agentId chatId : JsString) (execution : Execution ν) (db : Tables ν) : Prop :=
  (db.agent agentId).isSome ∧ (db.provider execution.provider.id).isSome ∧
    (db.model execution.model.id).isSome ∧ (db.chat chatId).isSome

theorem record_triple (agent : AgentRow ν) (execution : Execution ν)
    (usage : Option (TokenUsage ℤ)) (s : World ν) :
    Triple (· = s) (recordUsage env chat agent execution usage) Y
      (fun _ w => (w.emitted = s.emitted ∧ w.hazards = s.hazards) ∧
        Recordable agent.id chat.id execution s.db)
      (fun _ w => (w.emitted = s.emitted ∧ w.hazards = s.hazards) ∧
        ¬Recordable agent.id chat.id execution s.db) := by
  have hid : Triple (· = s) (newId env) Y
      (fun _ w => (w.emitted = s.emitted ∧ w.hazards = s.hazards) ∧ w.db = s.db)
      (fun _ w => (w.emitted = s.emitted ∧ w.hazards = s.hazards) ∧
        ¬Recordable agent.id chat.id execution s.db) := by
    refine triple_bind_read _ ?_
    rintro w rfl
    refine triple_bind_modify _ _ _ ?_ (triple_pure _ fun _ h => h)
    rintro w rfl
    exact ⟨⟨rfl, rfl⟩, rfl⟩
  refine triple_bind _ _ hid fun id => triple_bind_read _ fun w hw => ?_
  obtain ⟨hsame, hdb⟩ := hw
  have hiff : (w.db.insertUsageEvent (usageEvent id (env.nowIso w.clock) agent.id chat.id
      execution usage)).isSome ↔ Recordable agent.id chat.id execution s.db := by
    rw [← hdb]
    exact insertUsageEvent_isSome _ _
  split
  · rename_i hnone
    rw [hnone] at hiff
    refine triple_fail _ ?_
    rintro w rfl
    exact ⟨hsame, fun h => absurd (hiff.mpr h) (by simp)⟩
  · rename_i db hsome
    rw [hsome] at hiff
    refine triple_modify _ ?_
    rintro w rfl
    exact ⟨hsame, hiff.mp rfl⟩

variable (hpresent : ∀ moment, env.aborted moment = false)
include hpresent

theorem at_aborted :
    Triple (At env dto M) (isAborted env) Y (fun b w => b = false ∧ At env dto M w) E :=
  triple_bind_read _ fun s hs => triple_pure _ (by rintro w rfl; exact ⟨hpresent _, hs⟩)

theorem at_present {α : Type} (f : Bool → Run ν α) {Q : α → World ν → Prop}
    (h : Triple (At env dto M) (f false) Y Q E) :
    Triple (At env dto M) (isAborted env >>= f) Y Q E := by
  refine triple_bind _ _ (at_aborted hpresent) fun b => triple_intro _ fun hb => ?_
  rw [hb]
  exact h

theorem at_readStream (ending : Option Failure) (script : List (StreamEvent JsString ℤ))
    (p : Progress) :
    Triple (At env dto (Within row.id)) (readStream env chat row ending script p) (fun _ _ => True)
      (fun _ => At env dto (Within row.id)) E := by
  induction script generalizing p with
  | nil => exact triple_bind _ _ at_suspend fun _ => triple_pure _ fun _ h => h
  | cons event rest ih =>
    refine triple_bind _ _ at_suspend fun _ => at_present hpresent _ ?_
    cases event with
    | textDelta delta =>
      exact triple_bind _ _ (at_delta chat row p delta) fun _ =>
        triple_bind _ _ (at_yield _ (within_delta row.id _ rfl)) fun _ => ih _
    | thoughtDelta thought =>
      exact triple_bind _ _ (at_yield _ (within_delta row.id _ rfl)) fun _ => ih _
    | usage usage => exact ih _
    | complete reason usage content => exact ih _
    | error error => exact triple_pure _ fun _ h => h

def TurnEnds (res : TurnResult) (events : List SseCompletionEvent) : Prop :=
  match res.error with
  | some _ => Conforms events
  | none => Blocks events ∧ events ≠ []

theorem finishTurn_protocol (prepared : PreparedTurn ν) (p : Progress)
    (turnError : Option Failure) :
    Triple (At env dto (Within row.id)) (finishTurn env chat prepared row p turnError)
      (fun _ _ => True) (fun res => At env dto (TurnEnds res)) (Thrown env dto) := by
  refine at_present hpresent _ ?_
  cases turnError with
  | some failure =>
    have herror (p : Progress) : Triple (At env dto (Within row.id))
        (yieldEvent env (.error (env.errorPayload prepared.execution failure))) (fun _ _ => True)
        (fun _ => At env dto fun events => Conforms (events ++ [.done])) (Thrown env dto) :=
      at_yield _ fun events h => within_failed row.id _ events h
    exact triple_bind _ _ (at_flush chat row p .error _) fun p =>
      triple_bind _ _ (herror p) fun _ =>
        triple_bind _ _ (at_yield _ fun _ h => h) fun _ => triple_pure _ fun _ h => h
  | none =>
    refine triple_bind _ _ (at_flush chat row p .complete _) fun p =>
      triple_bind _ _ (awaiting_next _ fun w w' hdb _ => by rw [hdb]) fun _ => ?_
    have hrecord : Triple (fun w => Within row.id w.emitted ∧
        Awaiting env dto (.usageRow w.db prepared.agent.id chat.id prepared.execution) w)
        (recordUsage env chat prepared.agent prepared.execution p.reportedUsage) (fun _ _ => True)
        (fun _ => At env dto (Within row.id)) (Thrown env dto) :=
      triple_given fun s hs => triple_conseq _ (record_triple chat _ _ _ s) (fun _ h => h)
        (fun _ w h => at_congr s w hs.1 (hs.2.resolved h.2) h.1.1 h.1.2)
        fun failure w h => thrown_congr failure s w (awaiting_unsound _ failure s hs.2 h.2) h.1.1 h.1.2
    have hcomplete : Triple (At env dto (Within row.id))
        (yieldEvent env (.messageComplete row.id p.outputTokens p.reportedUsage)) (fun _ _ => True)
        (fun _ => At env dto fun events => Blocks events ∧ events ≠ []) (Thrown env dto) :=
      at_yield _ fun events h => ⟨within_complete row.id _ _ events h, by simp⟩
    exact triple_bind _ _ hrecord fun _ => triple_bind _ _ hcomplete fun _ =>
      triple_pure _ fun _ h => h

/-- From the yield of `message_start` on, a turn goes wrong only where a step does. -/
theorem opened_protocol (prepared : PreparedTurn ν) :
    Triple (At env dto (Within row.id))
      (do
        let w ← Gen.read
        note fun w => .creation w.clock prepared.execution.config
        let _ ← Gen.lift (env.create w.clock prepared.execution.config)
        let script := env.stream w.requests.length prepared.execution.config prepared.request
        send prepared.agent.id prepared.request
        let (p, turnError) ← readStream env chat row script.ending script.events
          (.start (env.now w.clock))
        finishTurn env chat prepared row p turnError)
      (fun _ _ => True) (fun res => At env dto (TurnEnds res)) (Thrown env dto) := by
  refine triple_bind_read _ fun s hs => ?_
  have hnote : Triple (· = s) (note fun w => .creation w.clock prepared.execution.config)
      (fun _ _ => True)
      (fun _ w => Within row.id w.emitted ∧
        Awaiting env dto (.creation s.clock prepared.execution.config) w) (Thrown env dto) :=
    triple_conseq _ (awaiting_note _ s hs) (fun _ h => h) (fun _ _ h => h.1) fun _ _ h => h
  refine triple_bind _ _ hnote fun _ => triple_bind_lift _ _ (fun supportsStreaming hok => ?_) ?_
  · have hsend : Triple (fun w => Within row.id w.emitted ∧
        Awaiting env dto (.creation s.clock prepared.execution.config) w)
        (send prepared.agent.id prepared.request) (fun _ _ => True)
        (fun _ => At env dto (Within row.id)) (Thrown env dto) :=
      triple_conseq _ (at_send _ _) (fun w h => ⟨h.1, h.2.resolved ⟨supportsStreaming, hok⟩⟩)
        (fun _ _ h => h) fun _ _ h => h
    exact triple_bind _ _ hsend fun _ =>
      triple_bind _ _ (at_readStream chat row hpresent _ _ _) fun ending =>
        finishTurn_protocol chat row hpresent prepared ending.1 ending.2
  · intro failure hfailed w h
    refine awaiting_unsound _ failure w h.2 fun hsound => ?_
    obtain ⟨supportsStreaming, hok⟩ := hsound
    rw [hfailed] at hok
    cases hok

theorem turn_protocol (turn : Turn) :
    Triple (At env dto Blocks) (streamMemberTurn env chat dto turn) (fun _ _ => True)
      (fun res => At env dto (TurnEnds res)) (Thrown env dto) := by
  refine triple_bind _ _ (awaiting_next _ fun w w' hdb hclock => by rw [hdb, hclock]) fun _ =>
    triple_bind_read _ fun s hs => ?_
  refine triple_bind_lift _ _ (fun prepared hok => ?_) fun failure hfailed w hw => ?_
  · have hagent := prepareTurn_agent env.toRuntime s.db chat dto turn prepared hok
    have hcreate : Triple (· = s) (createPendingMessageRow env chat prepared.agent) (fun _ _ => True)
        (fun _ => At env dto Blocks) (Thrown env dto) := by
      refine triple_conseq _ (create_triple chat prepared.agent s) (fun _ h => h)
        (fun _ w h => ?_) fun failure w h => ?_
      · exact at_congr s w hs.1 (hs.2.resolved ⟨⟨prepared, hok⟩, h.2.1, h.2.2.1⟩) h.1.1 h.1.2
      · refine thrown_congr failure s w (awaiting_unsound _ failure s hs.2 fun hsound => ?_)
          h.1.1 h.1.2
        exact h.2 ⟨hsound.2.1, hsound.2.2, by rw [hagent]; rfl⟩
    exact triple_bind _ _ hcreate fun row =>
      triple_bind _ _ (at_yield _ fun events h => within_start row.id _ _ _ _ events h) fun _ =>
        opened_protocol chat row hpresent prepared
  · obtain rfl := hw
    refine awaiting_unsound _ failure w hs.2 fun hsound => ?_
    obtain ⟨prepared, hok⟩ := hsound.1
    rw [hfailed] at hok
    cases hok

omit hpresent in
theorem final_protocol (totals : Totals) :
    Triple (At env dto fun events => Blocks events ∧ events ≠ [])
      (emitFinalStreamUsageAndDone env totals) (fun _ _ => True) (fun _ => At env dto Conforms)
      (Thrown env dto) := by
  have husage : Triple (At env dto fun events => Blocks events ∧ events ≠ [])
      (yieldUsage env totals.usage) (fun _ _ => True)
      (fun _ => At env dto fun events => Conforms (events ++ [.done])) (Thrown env dto) := by
    cases totals.usage with
    | none => exact triple_pure _ fun w h => ⟨.plain w.emitted h.1.1 h.1.2, h.2⟩
    | some usage => exact at_yield _ fun events h => .withUsage events usage h.1 h.2
  exact triple_bind _ _ husage fun _ => at_yield _ fun _ h => h

def LoopEnds (totals : Option Totals) (events : List SseCompletionEvent) : Prop :=
  match totals with
  | none => Conforms events
  | some _ => Blocks events ∧ events ≠ []

omit hpresent in
theorem emitUnlessEnded_protocol (totals : Option Totals) :
    Triple (At env dto (LoopEnds totals)) (emitUnlessEnded env totals) (fun _ _ => True)
      (fun _ => At env dto Conforms) (Thrown env dto) := by
  cases totals with
  | none => exact triple_pure _ fun _ h => h
  | some totals => exact final_protocol totals

theorem turn_then {α : Type} (turn : Turn) (f : TurnResult → Run ν α)
    {Q : α → World ν → Prop}
    (hfailed : ∀ res, res.error.isSome = true →
      Triple (At env dto Conforms) (f res) (fun _ _ => True) Q (Thrown env dto))
    (hdone : ∀ res, res.error.isSome = false →
      Triple (At env dto fun events => Blocks events ∧ events ≠ []) (f res) (fun _ _ => True) Q
        (Thrown env dto)) :
    Triple (At env dto Blocks) (streamMemberTurn env chat dto turn >>= f) (fun _ _ => True) Q
      (Thrown env dto) := by
  refine triple_bind _ _ (turn_protocol chat hpresent turn) fun res => ?_
  obtain ⟨content, usage, error⟩ := res
  cases error with
  | none => exact hdone _ rfl
  | some failure => exact hfailed _ rfl

theorem pipeline_protocol (finish : JsString → Bool) (maxSequence : Option ℤ)
    (members : List TeamMember) (totals : Totals) :
    Triple (At env dto fun events => Blocks events ∧ (members ≠ [] ∨ events ≠ []))
      (streamPipeline env chat dto finish maxSequence members totals) (fun _ _ => True)
      (fun totals => At env dto (LoopEnds totals)) (Thrown env dto) := by
  induction members generalizing totals with
  | nil => exact triple_pure _ fun w h => ⟨⟨h.1.1, h.1.2.resolve_left fun hne => hne rfl⟩, h.2⟩
  | cons member rest ih =>
    refine at_present hpresent _ (triple_conseq _ (turn_then chat hpresent _ _ (fun res h => ?_)
      fun res h => ?_) (fun w hw => ⟨hw.1.1, hw.2⟩) (fun _ _ h => h) fun _ _ h => h)
    · rw [if_pos h]
      exact triple_pure _ fun _ h => h
    · rw [if_neg (by simp [h])]
      split_ifs
      · exact triple_pure _ fun _ h => h
      · exact triple_conseq _ (ih _) (fun w hw => ⟨⟨hw.1.1, .inr hw.1.2⟩, hw.2⟩)
          (fun _ _ h => h) fun _ _ h => h

theorem handoffs_protocol (team : Option TeamRow) (members : List TeamMember) (left : ℕ)
    (currentMember : TeamMember) (totals : Totals) :
    Triple (At env dto fun events => Blocks events ∧ (left ≠ 0 ∨ events ≠ []))
      (streamHandoffs env chat dto team members left currentMember totals) (fun _ _ => True)
      (fun totals => At env dto (LoopEnds totals)) (Thrown env dto) := by
  induction left generalizing currentMember totals with
  | zero => exact triple_pure _ fun w h => ⟨⟨h.1.1, h.1.2.resolve_left fun hne => hne rfl⟩, h.2⟩
  | succ left ih =>
    refine at_present hpresent _ (triple_conseq _ (turn_then chat hpresent _ _ (fun res h => ?_)
      fun res h => ?_) (fun w hw => ⟨hw.1.1, hw.2⟩) (fun _ _ h => h) fun _ _ h => h)
    · rw [if_pos h]
      exact triple_pure _ fun _ h => h
    · rw [if_neg (by simp [h])]
      dsimp only
      split_ifs
      · exact triple_pure _ fun _ h => h
      · split
        · exact triple_pure _ fun _ h => h
        · exact triple_conseq _ (ih _ _) (fun w hw => ⟨⟨hw.1.1, .inr hw.1.2⟩, hw.2⟩)
            (fun _ _ h => h) fun _ _ h => h

theorem coordinator_protocol (team : Option TeamRow) (first : TeamMember)
    (rest : List TeamMember) (bound : ℕ) :
    Triple (At env dto Blocks) (streamCoordinatorTeamChat env chat dto team first rest bound)
      (fun _ _ => True) (fun _ => At env dto Conforms) (Thrown env dto) := by
  refine turn_then chat hpresent _ _ (fun res h => ?_) fun res h => ?_
  · rw [if_pos h]
    exact triple_pure _ fun _ h => h
  · rw [if_neg (by simp [h])]
    dsimp only
    split_ifs
    · split
      · exact final_protocol _
      · refine triple_conseq _ (turn_then chat hpresent _ _ (fun res h => ?_) fun res h => ?_)
          (fun w hw => ⟨hw.1.1, hw.2⟩) (fun _ _ h => h) fun _ _ h => h
        · rw [if_pos h]
          exact triple_pure _ fun _ h => h
        · rw [if_neg (by simp [h])]
          exact final_protocol _
    · exact final_protocol _

omit hpresent in
theorem refused (failure : Failure) (w : World ν) (h : At env dto (· = []) w) :
    Thrown env dto failure w := iff_of_true h.1 h.2

omit hpresent in
theorem blocks_early (events : List SseCompletionEvent) (h : events = []) : Blocks events :=
  h ▸ .none

theorem teamChat_protocol (teamId : JsString) :
    Triple (At env dto (· = [])) (streamTeamChat env chat dto teamId) (fun _ _ => True)
      (fun _ => At env dto Conforms) (Thrown env dto) := by
  refine triple_bind _ _ at_read fun w => ?_
  dsimp only
  split
  · exact triple_fail _ fun w h => refused _ w h
  · rename_i first rest _
    refine at_present hpresent _ (triple_bind_lift _ _ (fun _ _ => ?_)
      fun failure _ w h => refused failure w h)
    have hpos := boundedMaxTurns_pos dto (w.db.team teamId)
    have hmembers : (first :: rest).take (boundedMaxTurns dto (w.db.team teamId)) ≠ [] := by
      simp only [ne_eq, List.take_eq_nil_iff, reduceCtorEq, or_false]
      omega
    have hpipeline (finish : JsString → Bool) (maxSequence : Option ℤ) :
        Triple (At env dto (· = []))
          (streamPipeline env chat dto finish maxSequence
            ((first :: rest).take (boundedMaxTurns dto (w.db.team teamId))) .zero)
          (fun _ _ => True) (fun totals => At env dto (LoopEnds totals)) (Thrown env dto) :=
      triple_conseq _ (pipeline_protocol chat hpresent finish maxSequence _ _)
        (fun w h => ⟨⟨blocks_early _ h.1, .inl hmembers⟩, h.2⟩) (fun _ _ h => h) fun _ _ h => h
    split
    · exact triple_conseq _ (coordinator_protocol chat hpresent _ _ _ _)
        (fun w h => ⟨blocks_early _ h.1, h.2⟩) (fun _ _ h => h) fun _ _ h => h
    · exact triple_bind _ _ at_read fun _ =>
        triple_bind _ _ (hpipeline _ _) emitUnlessEnded_protocol
    · refine triple_bind _ _ (triple_conseq _ (handoffs_protocol chat hpresent _ _ _ _ _)
        (fun w h => ⟨⟨blocks_early _ h.1, .inl (by omega)⟩, h.2⟩) (fun _ _ h => h)
        fun _ _ h => h) emitUnlessEnded_protocol
    · exact triple_bind _ _ (hpipeline _ _) emitUnlessEnded_protocol

def Lost (env : Environment ν) (dto : CreateCompletionDto ν) (w : World ν) : Prop :=
  ¬AllSound env dto w ∧ ∃ id, Within id w.emitted

def Ended (env : Environment ν) (dto : CreateCompletionDto ν) (w : World ν) : Prop :=
  At env dto Conforms w ∨ Lost env dto w

omit hpresent in
theorem lost_silent {α : Type} (g : Run ν α) (hg : Silent g) :
    Triple (Lost env dto) g (fun _ _ => True) (fun _ => Lost env dto) (Thrown env dto) := by
  intro w hw
  have hlost : Lost env dto (g w).final := by
    refine ⟨fun h => hw.1 ((allSound_congr w _ (hg.hazards w)).mp h), ?_⟩
    rw [hg.emitted]
    exact hw.2
  refine ⟨fun _ _ => trivial, ?_⟩
  split
  · exact hlost
  · obtain ⟨id, hid⟩ := hlost.2
    exact iff_of_false (within_ne_nil id _ hid) hlost.1

theorem onFailure_protocol (execution : Execution ν) (p : Progress) (failure : Failure) :
    Triple (At env dto (Within row.id)) (onFailure env chat row execution p failure)
      (fun _ _ => True) (fun _ => Ended env dto) (Thrown env dto) := by
  refine triple_bind _ _ (awaiting_next _ fun _ _ _ _ => rfl) fun _ => ?_
  by_cases habort : abortLike env.toLowerCase failure = true
  · have hbranch (b : Bool) : b = true ∨ abortLike env.toLowerCase failure = true := .inr habort
    simp only [if_pos (hbranch _)]
    refine triple_conseq _ (triple_bind _ _ (lost_silent _ silent_aborted) fun _ =>
      triple_bind _ _ (lost_silent _ (silent_finishAborted chat row p)) fun _ =>
        triple_pure _ fun _ h => h) (fun w hw => ?_) (fun _ _ h => .inr h) fun _ _ h => h
    refine ⟨fun hall => ?_, row.id, hw.1⟩
    have hsound : abortLike env.toLowerCase failure = false :=
      hall _ (hw.2.noted (within_ne_nil _ _ hw.1))
    rw [habort] at hsound
    cases hsound
  · have hsound : Sound env dto (.provider failure) := by simpa [Sound] using habort
    have herror : Triple (At env dto (Within row.id))
        (yieldEvent env (.error (env.errorPayload execution failure))) (fun _ _ => True)
        (fun _ => At env dto fun events => Conforms (events ++ [.done])) (Thrown env dto) :=
      at_yield _ fun events h => within_failed row.id _ events h
    have hdone : Triple (At env dto fun events => Conforms (events ++ [.done]))
        (yieldEvent env .done) (fun _ _ => True) (fun _ => At env dto Conforms)
        (Thrown env dto) := at_yield _ fun _ h => h
    refine triple_conseq _ (at_present hpresent _ ?_)
      (fun w hw => ⟨hw.1, hw.2.resolved hsound⟩) (fun _ _ h => .inl h) fun _ _ h => h
    rw [if_neg (by simpa using habort)]
    exact triple_bind _ _ (at_flush chat row p .error _) fun _ =>
      triple_bind _ _ herror fun _ => hdone

theorem agentChat_protocol :
    Triple (At env dto (· = [])) (streamAgentChat env chat dto) (fun _ _ => True)
      (fun _ => Ended env dto) (Thrown env dto) := by
  refine triple_bind _ _ at_read fun w => triple_bind_lift _ _ (fun chain _ => ?_)
    fun failure _ w h => refused failure w h
  refine at_present hpresent _ (triple_bind_lift _ _ (fun supportsStreaming _ => ?_)
    fun failure _ w h => refused failure w h)
  split_ifs
  · exact triple_fail _ fun w h => refused _ w h
  refine triple_bind_lift _ _ (fun prompt _ => ?_) fun failure _ w h => refused failure w h
  have hcreate : Triple (At env dto (· = [])) (createPendingMessageRow env chat chain.1)
      (fun _ _ => True) (fun _ => At env dto Blocks) (Thrown env dto) :=
    triple_given fun s hs => triple_conseq _ (create_triple chat chain.1 s) (fun _ h => h)
      (fun _ w h => at_congr s w (blocks_early _ hs.1) hs.2 h.1.1 h.1.2)
      fun failure w h => thrown_congr failure s w (refused failure s hs) h.1.1 h.1.2
  refine triple_bind _ _ hcreate fun row =>
    triple_bind _ _ (at_yield _ fun events h => within_start row.id _ _ _ _ events h) fun _ =>
      triple_bind _ _ at_read fun w => triple_bind _ _ (at_send _ _) fun _ =>
        triple_bind _ _ (at_readStream chat row hpresent _ _ _) fun ending => ?_
  obtain ⟨p, failure⟩ := ending
  cases failure with
  | some failure => exact onFailure_protocol chat row hpresent _ _ _
  | none =>
    refine at_present hpresent _ (triple_bind _ _ (at_flush chat row p .complete _) fun p => ?_)
    have hrecord : Triple (At env dto (Within row.id))
        (Gen.attempt (recordUsage env chat chain.1 chain.2 p.reportedUsage)) (fun _ _ => True)
        (fun _ => At env dto (Within row.id)) (Thrown env dto) :=
      triple_given fun s hs => triple_attempt _ (record_triple chat _ _ _ s)
        (fun _ w h => at_congr s w hs.1 hs.2 h.1.1 h.1.2)
        fun _ w h => at_congr s w hs.1 hs.2 h.1.1 h.1.2
    refine triple_bind _ _ hrecord fun recorded => ?_
    cases recorded with
    | error failure => exact onFailure_protocol chat row hpresent _ _ _
    | ok _ =>
      have husage : Triple (At env dto (Within row.id)) (yieldUsage env p.reportedUsage)
          (fun _ _ => True)
          (fun _ => At env dto fun events =>
            Blocks (events ++ [.messageComplete row.id p.outputTokens p.reportedUsage]))
          (Thrown env dto) := by
        cases p.reportedUsage with
        | none => exact triple_pure _ fun w h => ⟨within_complete row.id _ _ _ h.1, h.2⟩
        | some usage => exact at_yield _ fun events h => within_usage row.id usage _ _ events h
      have hcomplete : Triple (At env dto fun events =>
            Blocks (events ++ [.messageComplete row.id p.outputTokens p.reportedUsage]))
          (yieldEvent env (.messageComplete row.id p.outputTokens p.reportedUsage))
          (fun _ _ => True) (fun _ => At env dto fun events => Blocks events ∧ events ≠ [])
          (Thrown env dto) :=
        at_yield _ fun events h => ⟨h, by simp⟩
      have hdone : Triple (At env dto fun events => Blocks events ∧ events ≠ [])
          (yieldEvent env .done) (fun _ _ => True) (fun _ => At env dto Conforms)
          (Thrown env dto) :=
        at_yield _ fun events h => .plain events h.1 h.2
      exact triple_bind _ _ husage fun _ => triple_bind _ _ hcomplete fun _ =>
        triple_conseq _ hdone (fun _ h => h) (fun _ _ h => .inl h) fun _ _ h => h

theorem streamChat_protocol (chatId : JsString) :
    Triple (At env dto (· = [])) (streamChat env chatId dto) (fun _ _ => True)
      (fun _ => Ended env dto) (Thrown env dto) := by
  refine triple_bind _ _ at_read fun w => ?_
  split
  · exact triple_fail _ fun w h => refused _ w h
  · split
    · exact triple_conseq _ (teamChat_protocol _ hpresent _) (fun _ h => h) (fun _ _ h => .inl h)
        fun _ _ h => h
    · exact agentChat_protocol _ hpresent

end Steps

def drained {ν : Type} (env : Environment ν) (db : Tables ν) (chatId : JsString)
    (dto : CreateCompletionDto ν) : Trace (World ν) SseCompletionEvent Failure Unit :=
  streamChat env chatId dto (.start db)

/-- What a client that stays is promised. -/
def Promised {ν : Type} (t : Trace (World ν) SseCompletionEvent Failure Unit) : Prop :=
  events t ≠ [] → t.result = .ok () ∧ Conforms (events t)

/-- The promise is kept exactly when, from the first event on, no turn fails before its adapter is
there, every usage row can be written and no failure looks like an abort. -/
theorem protocol_conforms {ν : Type} (env : Environment ν)
    (hpresent : ∀ moment, env.aborted moment = false) (db : Tables ν) (chatId : JsString)
    (dto : CreateCompletionDto ν) :
    Promised (drained env db chatId dto) ↔
      ∀ hazard ∈ (drained env db chatId dto).final.hazards, Sound env dto hazard := by
  have hevents : (streamChat env chatId dto (.start db)).final.emitted =
      events (streamChat env chatId dto (.start db)) :=
    (logs_streamChat dto chatId).emitted (.start db)
  have hstart : At env dto (· = []) (.start db) := ⟨rfl, fun _ h => (nomatch h)⟩
  obtain ⟨-, hend⟩ := streamChat_protocol hpresent chatId (.start db) hstart
  change _ ↔ AllSound env dto (drained env db chatId dto).final
  unfold Promised drained
  rw [← hevents]
  cases hr : (streamChat env chatId dto (.start db)).result with
  | error failure =>
    rw [hr] at hend
    have hiff : (streamChat env chatId dto (.start db)).final.emitted = [] ↔
        AllSound env dto (streamChat env chatId dto (.start db)).final := hend
    rw [← hiff]
    simp
  | ok u =>
    rw [hr] at hend
    rcases hend with h | ⟨hunsound, id, hid⟩
    · exact iff_of_true (fun _ => ⟨rfl, h.1⟩) h.2
    · exact iff_of_false (fun h => within_not_conforms id _ hid (h (within_ne_nil id _ hid)).2)
        hunsound

theorem protocol_conforms_ann :
    Promised (drained (sampleEnvironment (fun _ => js "hello") none) (sampleTables .broadcast)
      (js "c") plainDto) := by
  refine (protocol_conforms (sampleEnvironment (fun _ => js "hello") none) (fun _ => rfl)
    (sampleTables .broadcast) (js "c") plainDto).mpr fun hazard hin => ?_
  have hnone : (drained (sampleEnvironment (fun _ => js "hello") none) (sampleTables .broadcast)
      (js "c") plainDto).final.hazards.isEmpty = true := by decide +kernel
  rw [List.isEmpty_iff.mp hnone] at hin
  exact (nomatch hin)

def narrowTables : Tables ℤ :=
  { sampleTables .sequential with
    models := [⟨js "m", js "p", js "llama", js "Llama", some 20, none, none, true⟩] }

/-- Ann's reply does not fit into the context of Bob's turn, and the stream throws. -/
theorem second_turn_throws :
    ¬Promised (drained (sampleEnvironment (fun _ => List.replicate 100 0x61) none) narrowTables
      (js "d") plainDto) := by
  intro h
  have hevents : events (drained (sampleEnvironment (fun _ => List.replicate 100 0x61) none)
      narrowTables (js "d") plainDto) ≠ [] := by decide +kernel
  have hthrown : ¬(drained (sampleEnvironment (fun _ => List.replicate 100 0x61) none)
      narrowTables (js "d") plainDto).result = .ok () := by decide +kernel
  exact hthrown (h hevents).1

end Glassbeetle.StreamProtocol
