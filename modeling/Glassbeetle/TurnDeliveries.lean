import Glassbeetle.QuietTurns
import Glassbeetle.StreamRecord

set_option autoImplicit false

/-!
# What the provider tells the turns of a team

Each turn sends one request. What a turn without streaming returns is the answer
to it, and a streaming turn ends as its stream did.
-/
namespace Glassbeetle.TurnDeliveries
open JsText Utf8Text AdapterTypes Database ExecutionChain AsyncGenerator Inference MemberTurns
  TeamChat TeamSchedules Schedules StreamRecord
open QuietRuns (Leads Delivery deliver delivery)

variable {ν : Type}

def Calm (events : List SseCompletionEvent) : Prop :=
  ∀ payload, SseCompletionEvent.error payload ∉ events

structure Asked (asked : List (JsString × CompletionRequest ν)) (w : World ν) : Prop where
  requests : w.requests = asked
  calm : Calm w.emitted

inductive Spoken (env : Environment ν) (chat : ChatRow) (dto : CreateCompletionDto ν)
    (hears : ℕ → PreparedTurn ν → JsString → Prop) :
    List (Turn × JsString) → List (JsString × CompletionRequest ν) → Prop where
  | start : Spoken env chat dto hears [] []
  | snoc {turns : List (Turn × JsString)} {requests : List (JsString × CompletionRequest ν)}
      {db : Tables ν} {turn : Turn} {prepared : PreparedTurn ν} {content : JsString}
      (earlier : Spoken env chat dto hears turns requests)
      (hprepared : prepareTurn env.toRuntime db chat dto turn = .ok prepared)
      (hheard : hears requests.length prepared content) :
      Spoken env chat dto hears (turns ++ [(turn, content)])
        (requests ++ [(prepared.agent.id, prepared.request)])

section Steps

variable {env : Environment ν} {asked : List (JsString × CompletionRequest ν)}
  {E : Failure → World ν → Prop}

theorem asked_silent {α : Type} (g : Run ν α) (hg : Silent g) :
    Leads (Asked asked) g (fun _ => Asked asked) fun _ => Asked asked := by
  intro w hw
  have hkept : Asked asked (g w).final :=
    ⟨(hg.requests w).trans hw.requests, (hg.emitted w) ▸ hw.calm⟩
  refine ⟨fun _ _ => trivial, ?_⟩
  split
  · exact hkept
  · exact hkept

theorem asked_note (hazard : World ν → Hazard ν) :
    Leads (Asked asked) (note hazard) (fun _ => Asked asked) E := by
  refine triple_modify _ fun w hw => ?_
  split_ifs
  · exact hw
  · exact ⟨hw.requests, hw.calm⟩

theorem asked_suspend : Leads (Asked asked) (suspend env) (fun _ => Asked asked) E :=
  triple_modify _ fun _ hw => ⟨hw.requests, hw.calm⟩

theorem asked_send (agentId : JsString) (request : CompletionRequest ν) :
    Leads (Asked asked) (send agentId request) (fun _ => Asked (asked ++ [(agentId, request)])) E :=
  triple_modify _ fun _ hw => ⟨congrArg (· ++ _) hw.requests, hw.calm⟩

theorem asked_yield (event : SseCompletionEvent) (hevent : ∀ payload, event ≠ .error payload) :
    Leads (Asked asked) (yieldEvent env event) (fun _ => Asked asked) E := by
  refine triple_bind_modify _ _ (Asked asked) (fun w hw => ⟨hw.requests, fun payload hin => ?_⟩)
    (triple_bind_emit event _ (fun _ _ => trivial) asked_suspend)
  rcases List.mem_append.mp hin with hin | hin
  · exact hw.calm payload hin
  · exact hevent payload (List.mem_singleton.mp hin).symm

variable (chat : ChatRow)

theorem asked_flush (row : MessageRow) (p : Progress) (status : MessageStatus)
    (tokenCount : Option ℤ) :
    Leads (Asked asked) (flushPartial env chat row p status tokenCount)
      (fun p' w => p'.accumulatedContent = p.accumulatedContent ∧
        p'.reportedUsage = p.reportedUsage ∧ Asked asked w) E :=
  triple_bind_read _ fun _ hs => triple_bind_modify _ _ (Asked asked)
    (fun _ hw => hw ▸ ⟨hs.requests, hs.calm⟩) (triple_pure _ fun _ hw => ⟨rfl, rfl, hw⟩)

theorem asked_delta (row : MessageRow) (p : Progress) (delta : JsString) :
    Leads (Asked asked) (onTextDelta env chat row p delta)
      (fun p' w => p'.accumulatedContent = p.accumulatedContent ++ delta ∧
        p'.reportedUsage = p.reportedUsage ∧ Asked asked w) E := by
  unfold onTextDelta
  dsimp only
  split_ifs
  · exact asked_flush chat row _ _ _
  · refine triple_bind_read _ fun s hs => ?_
    split_ifs
    · exact triple_conseq _ (asked_flush chat row _ _ _) (fun w hw => hw ▸ hs) (fun _ _ h => h)
        fun _ _ h => h
    · exact triple_pure _ fun w hw => ⟨rfl, rfl, hw ▸ hs⟩

end Steps

section Streams

variable {env : Environment ν} (present : ∀ moment, env.aborted moment = false) (chat : ChatRow)
  (row : MessageRow) {asked : List (JsString × CompletionRequest ν)}
  {E : Failure → World ν → Prop}

include present

theorem asked_readStream (ending : Option Failure) (script : List (StreamEvent JsString ℤ))
    (p : Progress) :
    Leads (Asked asked) (readStream env chat row ending script p)
      (fun out w => deliver ending script p.accumulatedContent p.reportedUsage =
          ⟨out.1.accumulatedContent, out.1.reportedUsage, out.2⟩ ∧ Asked asked w) E := by
  induction script generalizing p with
  | nil => exact triple_bind _ _ asked_suspend fun _ => triple_pure _ fun _ hw => ⟨rfl, hw⟩
  | cons event rest ih =>
    refine triple_bind _ _ asked_suspend fun _ => ?_
    rw [isAborted_eq env present, Gen.pure_bind, if_neg Bool.false_ne_true]
    cases event with
    | textDelta delta =>
      refine triple_bind _ _ (asked_delta chat row p delta) fun p' => triple_intro _ fun hcontent =>
        triple_intro _ fun husage => triple_bind _ _ (asked_yield _ fun _ h => nomatch h) fun _ => ?_
      have hrest := ih p'
      rw [hcontent, husage] at hrest
      exact hrest
    | thoughtDelta thought =>
      exact triple_bind _ _ (asked_yield _ fun _ h => nomatch h) fun _ => ih p
    | usage usage => exact ih { p with reportedUsage := some usage }
    | complete reason usage data => exact ih { p with reportedUsage := usage.or p.reportedUsage }
    | error error => exact triple_pure _ fun _ hw => ⟨rfl, hw⟩

def Concluded (env : Environment ν) (execution : Execution ν) (failure : Option Failure)
    (events : List SseCompletionEvent) : Prop :=
  match failure with
  | none => Calm events
  | some failure => ∃ before, Calm before ∧
      events = before ++ [.error (env.errorPayload execution failure), .done]

theorem asked_finish (prepared : PreparedTurn ν) (p : Progress) (turnError : Option Failure) :
    Leads (Asked asked) (finishTurn env chat prepared row p turnError)
      (fun res w => res = ⟨p.accumulatedContent, p.reportedUsage, turnError⟩ ∧
        w.requests = asked ∧ Concluded env prepared.execution turnError w.emitted)
      fun _ w => turnError = none ∧ Asked asked w := by
  unfold finishTurn
  rw [isAborted_eq env present, Gen.pure_bind, if_neg Bool.false_ne_true]
  cases turnError with
  | some failure =>
    refine triple_bind _ _ (asked_flush chat row p _ _) fun p' => triple_intro _ fun hcontent =>
      triple_intro _ fun husage => ?_
    have hyield : ∀ event before, Leads (fun w => w.requests = asked ∧ w.emitted = before)
        (yieldEvent env event) (fun _ w => w.requests = asked ∧ w.emitted = before ++ [event])
        fun _ w => some failure = none ∧ Asked asked w := fun event before =>
      triple_bind_modify _ _ (fun w => w.requests = asked ∧ w.emitted = before ++ [event])
        (fun w hw => ⟨hw.1, congrArg (· ++ [event]) hw.2⟩)
        (triple_bind_emit event _ (fun _ _ => trivial) (triple_modify _ fun _ hw => hw))
    refine triple_given fun s hs => triple_bind _ _ (triple_conseq _ (hyield
      (.error (env.errorPayload prepared.execution failure)) s.emitted)
      (fun w hw => ⟨by rw [hw, hs.requests], by rw [hw]⟩) (fun _ _ h => h) fun _ _ h => h) fun _ =>
        triple_bind _ _ (hyield .done _) fun _ => triple_pure _ fun w hw => ?_
    refine ⟨by rw [hcontent, husage], hw.1, s.emitted, hs.calm, ?_⟩
    rw [hw.2, List.append_assoc]
    rfl
  | none =>
    refine triple_bind _ _ (asked_flush chat row p _ _) fun p' => triple_intro _ fun hcontent =>
      triple_intro _ fun husage => triple_bind _ _ (asked_note _) fun _ => ?_
    refine triple_bind _ _ (triple_conseq _ (asked_silent _ (silent_recordUsage chat prepared.agent
      prepared.execution p'.reportedUsage)) (fun _ h => h) (fun _ _ h => h) fun _ _ h => ⟨rfl, h⟩)
      fun _ => triple_bind _ _ (asked_yield _ fun _ h => nomatch h) fun _ => triple_pure _ fun w hw => ?_
    exact ⟨by rw [hcontent, husage], hw.requests, hw.calm⟩

variable (dto : CreateCompletionDto ν) (turn : Turn)

/-- A streaming turn that has been told `d`. -/
structure Told (env : Environment ν) (chat : ChatRow) (dto : CreateCompletionDto ν) (turn : Turn)
    (asked : List (JsString × CompletionRequest ν)) (prepared : PreparedTurn ν) (d : Delivery)
    (w : World ν) : Prop where
  ready : ∃ db, prepareTurn env.toRuntime db chat dto turn = .ok prepared
  delivered : delivery (env.stream asked.length prepared.execution.config prepared.request) = d
  requests : w.requests = asked ++ [(prepared.agent.id, prepared.request)]
  concluded : Concluded env prepared.execution d.failure w.emitted

def Delivers (env : Environment ν) (n : ℕ) (prepared : PreparedTurn ν) (content : JsString) : Prop :=
  ∃ usage, delivery (env.stream n prepared.execution.config prepared.request) = ⟨content, usage, none⟩

def TurnThrown (env : Environment ν) (chat : ChatRow) (dto : CreateCompletionDto ν) (turn : Turn)
    (asked : List (JsString × CompletionRequest ν)) (w : World ν) : Prop :=
  Asked asked w ∨ ∃ db prepared content,
    prepareTurn env.toRuntime db chat dto turn = .ok prepared ∧
      Delivers env asked.length prepared content ∧
      Asked (asked ++ [(prepared.agent.id, prepared.request)]) w

variable (asked) in
theorem memberTurn_told :
    Leads (Asked asked) (streamMemberTurn env chat dto turn)
      (fun res w => ∃ prepared,
        Told env chat dto turn asked prepared ⟨res.content, res.usage, res.error⟩ w)
      fun _ => TurnThrown env chat dto turn asked := by
  refine triple_bind _ _ (asked_note _) fun _ => triple_bind_read _ fun s hs =>
    triple_bind_lift _ _ (fun prepared hprepared => ?_) fun _ _ w hw => .inl (hw ▸ hs)
  refine triple_bind _ _ (triple_conseq _ (asked_silent _ (silent_create chat prepared.agent))
    (fun _ hw => hw ▸ hs) (fun _ _ h => h) fun _ _ h => .inl h) fun row => ?_
  refine triple_bind _ _ (asked_yield _ fun _ h => nomatch h) fun _ => triple_bind_read _ fun s' hs' => ?_
  refine triple_bind _ _ (triple_conseq _ (asked_note _) (fun _ hw => hw ▸ hs') (fun _ _ h => h)
    fun _ _ h => h) fun _ => triple_bind_lift _ _ (fun _ _ => ?_) fun _ _ _ hw => .inl hw
  dsimp only
  rw [hs'.requests]
  refine triple_bind _ _ (asked_send _ _) fun _ => triple_bind _ _ (asked_readStream present chat row
    _ _ _) fun out => triple_intro _ fun hout => ?_
  refine triple_conseq _ (asked_finish present chat row prepared out.1 out.2) (fun _ h => h) ?_ ?_
  · rintro res w ⟨rfl, hrequests, hconcluded⟩
    exact ⟨prepared, ⟨s.db, hprepared⟩, hout, hrequests, hconcluded⟩
  · rintro failure w ⟨hnone, hasked⟩
    exact .inr ⟨s.db, prepared, _, hprepared, ⟨_, hnone ▸ hout⟩, hasked⟩

end Streams

section Answers

variable {env : Environment ν} (chat : ChatRow) {asked : List (JsString × CompletionRequest ν)}

theorem asked_persist (agent : AgentRow ν) (execution : Execution ν)
    (response : CompletionResponse) :
    Leads (Asked asked) (persistAssistantReply env chat agent execution response)
      (fun reply w => reply.content = stored response.content ∧ Asked asked w)
      fun _ => Asked asked := by
  refine triple_bind _ _ (asked_silent _ silent_newId) fun messageId =>
    triple_bind _ _ (asked_silent _ silent_newId) fun usageId => triple_bind_read _ fun s hs => ?_
  dsimp only
  split_ifs
  · exact triple_fail _ fun w hw => hw ▸ hs
  cases hinsert : s.db.insertMessage messageId chat.id agent.id response.content .complete
      (storedTokenCount response.usage) (env.nowIso s.clock) with
  | none => exact triple_fail _ fun w hw => hw ▸ hs
  | some inserted =>
    dsimp only [bind, Option.bind]
    cases (inserted.2.touchChat chat.id (env.nowIso s.clock)).insertUsageEvent
        (usageEvent usageId (env.nowIso s.clock) agent.id chat.id execution response.usage) with
    | none => exact triple_fail _ fun w hw => hw ▸ hs
    | some after =>
      refine triple_bind_modify _ _ (Asked asked) (fun w hw => hw ▸ ⟨hs.requests, hs.calm⟩)
        (triple_pure _ fun w hw => ⟨?_, hw⟩)
      obtain ⟨hrow, -⟩ := insertMessage_some _ _ _ _ _ _ _ _ _ _ hinsert
      rw [hrow]

def Answers (env : Environment ν) (n : ℕ) (prepared : PreparedTurn ν) (content : JsString) : Prop :=
  ∃ response, env.complete n prepared.execution.config prepared.request = .ok response ∧
    content = stored response.content

def TurnAnswered (env : Environment ν) (chat : ChatRow) (dto : CreateCompletionDto ν) (turn : Turn)
    (asked : List (JsString × CompletionRequest ν)) (content : JsString) (w : World ν) : Prop :=
  ∃ prepared, (∃ db, prepareTurn env.toRuntime db chat dto turn = .ok prepared) ∧
    Answers env asked.length prepared content ∧
    Asked (asked ++ [(prepared.agent.id, prepared.request)]) w

variable (dto : CreateCompletionDto ν) (turn : Turn)

theorem executeMemberTurn_answered :
    Leads (Asked asked) (executeMemberTurn env chat dto turn)
      (fun reply => TurnAnswered env chat dto turn asked reply.content)
      fun _ w => ∃ more, Asked (asked ++ more) w := by
  have hnone : ∀ w, Asked asked w → ∃ more, Asked (asked ++ more) w := fun w hw =>
    ⟨[], (List.append_nil asked).symm ▸ hw⟩
  refine triple_bind_read _ fun s hs => triple_bind_lift _ _ (fun prepared hprepared => ?_)
    fun _ _ w hw => hnone w (hw ▸ hs)
  refine triple_bind_lift _ _ (fun _ _ => ?_) fun _ _ w hw => hnone w (hw ▸ hs)
  have hcall : Leads (Asked asked) (callComplete env prepared.agent.id prepared.execution
      prepared.request) (fun response w =>
        env.complete asked.length prepared.execution.config prepared.request = .ok response ∧
          Asked (asked ++ [(prepared.agent.id, prepared.request)]) w)
      fun _ w => ∃ more, Asked (asked ++ more) w := by
    refine triple_bind_read _ fun s' hs' => triple_bind _ _ (triple_conseq _ (asked_send _ _)
      (fun _ hw => hw ▸ hs') (fun _ _ h => h) fun _ _ h => h) fun _ =>
        triple_bind _ _ asked_suspend fun _ => triple_lift _ (fun _ hok _ hw => ⟨?_, hw⟩)
          fun _ _ _ hw => ⟨_, hw⟩
    rw [← hs'.requests]
    exact hok
  refine triple_bind _ _ (triple_conseq _ hcall (fun _ hw => hw ▸ hs) (fun _ _ h => h)
    fun _ _ h => h) fun response => triple_intro _ fun hresponse => ?_
  refine triple_conseq _ (asked_persist chat prepared.agent prepared.execution response)
    (fun _ h => h) (fun reply w h => ?_) fun _ _ h => ⟨_, h⟩
  exact ⟨prepared, ⟨s.db, hprepared⟩, ⟨response, hresponse, h.1⟩, h.2⟩

variable (asked) in
theorem guardedTurn_answered (completed : List CompletionResponseDto) :
    Leads (Asked asked) (guardedTurn env chat dto turn completed)
      (fun reply => TurnAnswered env chat dto turn asked reply.content)
      fun _ w => ∃ more, Asked (asked ++ more) w := by
  have hattempt : ∀ E, Leads (Asked asked) (Gen.attempt (executeMemberTurn env chat dto turn))
      (outcome (fun reply => TurnAnswered env chat dto turn asked reply.content)
        fun _ w => ∃ more, Asked (asked ++ more) w) E := fun E =>
    triple_attempt _ (executeMemberTurn_answered chat dto turn) (fun _ _ h => h) fun _ _ h => h
  refine triple_bind _ _ (hattempt _) fun outcome => ?_
  cases outcome with
  | ok reply => exact triple_pure _ fun _ h => h
  | error failure =>
    dsimp only
    split_ifs
    · refine triple_exists _ fun more => triple_bind _ _ (triple_conseq _ (asked_silent _
        (silent_errorRow chat turn.member.agentId)) (fun _ h => h) (fun _ _ h => h)
        fun _ _ h => ⟨more, h⟩) fun _ => triple_fail _ fun _ hw => ⟨more, hw⟩
    · exact triple_fail _ fun _ hw => hw

end Answers

end Glassbeetle.TurnDeliveries
