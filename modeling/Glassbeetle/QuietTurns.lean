import Glassbeetle.QuietRuns
import Glassbeetle.TeamSchedules

set_option autoImplicit false

namespace Glassbeetle.QuietTurns
open JsText Utf8Text AdapterTypes Database ExecutionChain AsyncGenerator Inference MemberTurns
  TeamChat Transcripts QuietRuns

variable {ν : Type}

def ready (env : Environment ν) (db : Tables ν) (chat : ChatRow) (dto : CreateCompletionDto ν)
    (turn : Turn) : Except Failure (PreparedTurn ν) := do
  let prepared ← prepareTurn env.toRuntime db chat dto turn
  let _ ← env.create 0 prepared.execution.config
  return prepared

section Ready

variable (env : Environment ν) (db : Tables ν) (chat : ChatRow) (dto : CreateCompletionDto ν)
  (turn : Turn)

theorem ready_bind (prepared : PreparedTurn ν)
    (hprepared : prepareTurn env.toRuntime db chat dto turn = .ok prepared) :
    ready env db chat dto turn =
      (env.create 0 prepared.execution.config).map fun _ => prepared := by
  unfold ready
  rw [hprepared]
  change (do let _ ← env.create 0 prepared.execution.config; return prepared :
    Except Failure (PreparedTurn ν)) = _
  cases env.create 0 prepared.execution.config with
  | error failure => rfl
  | ok streaming => rfl

theorem ready_unprepared (failure : Failure)
    (hfailure : prepareTurn env.toRuntime db chat dto turn = .error failure) :
    ready env db chat dto turn = .error failure := by
  unfold ready
  rw [hfailure]
  rfl

theorem ready_speaker (prepared : PreparedTurn ν)
    (h : ready env db chat dto turn = .ok prepared) : prepared.agent.id = turn.member.agentId := by
  obtain ⟨found, hprepared, h⟩ := ok_of_bind _ _ _ h
  obtain ⟨_, -, h⟩ := ok_of_bind _ _ _ h
  cases h
  exact agent_id db _ _ (prepareTurn_ok _ _ _ _ _ _ hprepared).1

end Ready

theorem resolveModel_referable (db : Tables ν) (id : JsString) (execution : Execution ν)
    (h : resolveModel db id = .ok execution) :
    (db.model execution.model.id).isSome ∧ (db.provider execution.provider.id).isSome := by
  obtain ⟨hmodel, hprovider⟩ := resolveModel_found db id execution h
  have hid := List.find?_some hmodel
  have hproviderId := List.find?_some hprovider
  constructor
  · rw [of_decide_eq_true hid, hmodel]
    rfl
  · rw [of_decide_eq_true hproviderId, hprovider]
    rfl

theorem resolveAgentExecution_referable (db : Tables ν) (chat : ChatRow) (agent : AgentRow ν)
    (execution : Execution ν) (overrideModelId : Option JsString)
    (hchat : (db.chat chat.id).isSome) (hagent : (db.agent agent.id).isSome)
    (h : resolveAgentExecution db agent overrideModelId = .ok execution) :
    Referable db chat agent execution := by
  unfold resolveAgentExecution at h
  split at h
  · cases h
  · obtain ⟨hmodel, hprovider⟩ := resolveModel_referable db _ execution h
    exact ⟨hchat, hagent, hmodel, hprovider⟩

theorem prepareTurn_referable (runtime : JsValue.Runtime ν) (db : Tables ν) (chat : ChatRow)
    (dto : CreateCompletionDto ν) (turn : Turn) (prepared : PreparedTurn ν)
    (hchat : (db.chat chat.id).isSome)
    (h : prepareTurn runtime db chat dto turn = .ok prepared) :
    Referable db chat prepared.agent prepared.execution := by
  have hagent := prepareTurn_agent runtime db chat dto turn prepared h
  obtain ⟨-, hexecution, -⟩ := prepareTurn_ok runtime db chat dto turn prepared h
  exact resolveAgentExecution_referable db chat _ _ _ hchat (by rw [hagent]; rfl) hexecution

section Whole

variable {env : Environment ν} (hq : Quiet env) (chat : ChatRow) (dto : CreateCompletionDto ν)
  (turn : Turn) (w : World ν) (hchat : (w.db.chat chat.id).isSome)

def Replied (env : Environment ν) (prepared : PreparedTurn ν) (response : CompletionResponse)
    (w' : World ν) : Prop :=
  ready env w.db chat dto turn = .ok prepared ∧
    env.complete w.requests.length prepared.execution.config prepared.request = .ok response ∧
    ∃ now, Stage w w' [replyRow w.db chat (env.newId w.issued) prepared.agent.id response.content
        .complete (storedTokenCount response.usage) now]
      [usageEvent (env.newId (w.issued + 1)) now prepared.agent.id chat.id prepared.execution
        response.usage] [(prepared.agent.id, prepared.request)] 2

def Unanswered (env : Environment ν) (prepared : PreparedTurn ν) (failure : Failure)
    (w' : World ν) : Prop :=
  ready env w.db chat dto turn = .ok prepared ∧
    env.complete w.requests.length prepared.execution.config prepared.request = .error failure ∧
    Stage w w' [] [] [(prepared.agent.id, prepared.request)] 0

include hq hchat

theorem executeMemberTurn_quiet :
    Leads (· = w) (executeMemberTurn env chat dto turn)
      (fun reply w' => ∃ prepared response, reply.content = stored response.content ∧
        Replied chat dto turn w env prepared response w')
      fun failure w' => ready env w.db chat dto turn = .error failure ∧ w' = w ∨
        ∃ prepared, Unanswered chat dto turn w env prepared failure w' := by
  refine triple_bind_read _ fun s hs => ?_
  obtain rfl := hs
  refine triple_bind_lift _ _ (fun prepared hprepared => ?_) fun failure hfailure s' hs' => ?_
  · refine triple_bind_lift _ _ (fun streaming hcreate => ?_) fun failure hfailure s' hs' => ?_
    · rw [hq.steady] at hcreate
      have hready : ready env s.db chat dto turn = .ok prepared := by
        rw [ready_bind env s.db chat dto turn prepared hprepared, hcreate]
        rfl
      have href := prepareTurn_referable _ _ _ _ _ _ hchat hprepared
      refine triple_bind _ _ (triple_conseq _ (stage_call hq s prepared.agent prepared.execution 0
        prepared.request) (fun w' hw' => hw' ▸ stage_refl s) (fun _ _ h => h)
        fun failure w' h => .inr ⟨prepared, hready, h.1, h.2⟩) fun response =>
          triple_intro _ fun hresponse => ?_
      refine triple_conseq _ (stage_persist hq s chat prepared.agent prepared.execution
        [(prepared.agent.id, prepared.request)] 0 response href) (fun _ h => h) ?_ fun _ _ h => h
      rintro reply w' ⟨hcontent, now, hstage⟩
      exact ⟨prepared, response, hcontent, hready, hresponse, now, hstage⟩
    · rw [hq.steady] at hfailure
      refine .inl ⟨?_, hs'⟩
      rw [ready_bind env s.db chat dto turn prepared hprepared, hfailure]
      rfl
  · exact .inl ⟨ready_unprepared env s.db chat dto turn failure hfailure, hs'⟩

omit hq hchat in
theorem recordTurnErrorRow_requests (agentId : JsString)
    (requests : List (JsString × CompletionRequest ν)) {E : Failure → World ν → Prop} :
    Leads (fun w => w.requests = requests) (recordTurnErrorRow env chat agentId)
      (fun _ w => w.requests = requests) E := by
  have hid : Leads (fun w => w.requests = requests) (newId env)
      (fun _ w => w.requests = requests) E :=
    triple_bind_read _ fun s hs => triple_bind_modify _ _ (fun w => w.requests = requests)
      (fun w hw => hw ▸ hs) (triple_pure _ fun _ h => h)
  refine triple_bind _ _ hid fun id => triple_bind_read _ fun s hs => ?_
  dsimp only
  split_ifs
  · exact triple_pure _ fun w hw => hw ▸ hs
  · split
    · exact triple_pure _ fun w hw => hw ▸ hs
    · exact triple_modify _ fun w hw => hw ▸ hs

theorem guardedTurn_quiet (completed : List CompletionResponseDto) :
    Leads (· = w) (guardedTurn env chat dto turn completed)
      (fun reply w' => ∃ prepared response, reply.content = stored response.content ∧
        Replied chat dto turn w env prepared response w')
      fun failure w' => ready env w.db chat dto turn = .error failure ∧ w'.requests = w.requests ∨
        ∃ prepared, ready env w.db chat dto turn = .ok prepared ∧
          env.complete w.requests.length prepared.execution.config prepared.request =
            .error failure ∧
          w'.requests = w.requests ++ [(prepared.agent.id, prepared.request)] := by
  have hattempt : ∀ E, Leads (· = w) (Gen.attempt (executeMemberTurn env chat dto turn))
      (outcome (fun reply w' => ∃ prepared response, reply.content = stored response.content ∧
          Replied chat dto turn w env prepared response w')
        fun failure w' => ready env w.db chat dto turn = .error failure ∧ w' = w ∨
          ∃ prepared, Unanswered chat dto turn w env prepared failure w') E := fun E =>
    triple_attempt _ (executeMemberTurn_quiet hq chat dto turn w hchat) (fun _ _ h => h)
      fun _ _ h => h
  refine triple_bind _ _ (hattempt _) fun outcome => ?_
  cases outcome with
  | ok reply => exact triple_pure _ fun _ h => h
  | error failure =>
    refine triple_given fun s hs => ?_
    have hend : ∀ w' : World ν, w'.requests = s.requests →
        ready env w.db chat dto turn = .error failure ∧ w'.requests = w.requests ∨
          ∃ prepared, ready env w.db chat dto turn = .ok prepared ∧
            env.complete w.requests.length prepared.execution.config prepared.request =
              .error failure ∧
            w'.requests = w.requests ++ [(prepared.agent.id, prepared.request)] := by
      rintro w' hw'
      rcases hs with ⟨hready, rfl⟩ | ⟨prepared, hready, hfailed, hstage⟩
      · exact .inl ⟨hready, hw'⟩
      · exact .inr ⟨prepared, hready, hfailed, hw'.trans hstage.requests⟩
    dsimp only
    split_ifs
    · refine triple_bind _ _ (triple_conseq _ (recordTurnErrorRow_requests chat _ s.requests)
        (fun w' hw' => by rw [hw']) (fun _ _ h => h) fun _ _ h => h) fun _ =>
          triple_fail _ fun w' hw' => hend w' hw'
    · exact triple_fail _ fun w' hw' => hend w' (by rw [hw'])

end Whole

section Streamed

variable {env : Environment ν} (hq : Quiet env) (chat : ChatRow) (dto : CreateCompletionDto ν)
  (turn : Turn) (w : World ν) (hchat : (w.db.chat chat.id).isSome)
  (hfresh : ∀ row ∈ w.db.messages, row.id ≠ env.newId w.issued)

def Streamed (env : Environment ν) (prepared : PreparedTurn ν) (content : JsString)
    (usage : Option (TokenUsage ℤ)) (w' : World ν) : Prop :=
  ∃ now occurredAt, Stage w w' [replyRow w.db chat (env.newId w.issued) prepared.agent.id content
      .complete (usage.map (·.outputTokens)) now]
    [usageEvent (env.newId (w.issued + 1)) occurredAt prepared.agent.id chat.id prepared.execution
      usage] [(prepared.agent.id, prepared.request)] 2

def Broken (env : Environment ν) (prepared : PreparedTurn ν) (content : JsString)
    (usage : Option (TokenUsage ℤ)) (w' : World ν) : Prop :=
  ∃ now, Stage w w' [replyRow w.db chat (env.newId w.issued) prepared.agent.id content
    .error (usage.map (·.outputTokens)) now] [] [(prepared.agent.id, prepared.request)] 1

def Ended (env : Environment ν) (prepared : PreparedTurn ν) (d : Delivery) (res : TurnResult)
    (w' : World ν) : Prop :=
  res.content = d.content ∧ res.usage = d.usage ∧ res.error = d.failure ∧
    match d.failure with
    | none => Streamed chat w env prepared d.content d.usage w'
    | some _ => Broken chat w env prepared d.content d.usage w'

include hq hfresh

theorem finishTurn_quiet (prepared : PreparedTurn ν) (row : MessageRow) (p : Progress)
    (failure : Option Failure) (hrow : row.id = env.newId w.issued)
    (href : Referable w.db chat prepared.agent prepared.execution) :
    Leads (Drafted w chat prepared.agent.id [(prepared.agent.id, prepared.request)] env)
      (finishTurn env chat prepared row p failure)
      (Ended chat w env prepared ⟨p.accumulatedContent, p.reportedUsage, failure⟩)
      fun _ _ => False := by
  refine drafted_present hq w chat _ _ _ ?_
  rw [if_neg Bool.false_ne_true]
  cases failure with
  | some failure =>
    refine triple_bind _ _ (drafted_flush w chat _ _ row hrow hfresh p _ _) fun p' =>
      triple_intro _ fun hcontent => triple_intro _ fun husage => triple_given fun s hs => ?_
    obtain ⟨now, hs⟩ := hs
    refine triple_bind _ _ (triple_conseq _ (stage_yield hq w _ _ _ _ _) (fun _ hw => hw ▸ hs)
      (fun _ _ h => h) fun _ _ h => h) fun _ =>
        triple_bind _ _ (stage_yield hq w _ _ _ _ _) fun _ => triple_pure _ fun w' hw' => ?_
    exact ⟨hcontent, husage, rfl, now, hw'⟩
  | none =>
    refine triple_bind _ _ (drafted_flush w chat _ _ row hrow hfresh p _ _) fun p' =>
      triple_intro _ fun hcontent => triple_intro _ fun husage => triple_given fun s hs => ?_
    obtain ⟨now, hs⟩ := hs
    refine triple_bind _ _ (triple_conseq _ (stage_note w _ _ _ _ _) (fun _ hw => hw ▸ hs)
      (fun _ _ h => h) fun _ _ h => h) fun _ =>
        triple_bind _ _ (stage_record w chat prepared.agent prepared.execution _ 1 _ _ href)
          fun _ => triple_given fun s' hs' => ?_
    obtain ⟨occurredAt, hs'⟩ := hs'
    refine triple_bind _ _ (triple_conseq _ (stage_yield hq w _ _ _ _ _) (fun _ hw => hw ▸ hs')
      (fun _ _ h => h) fun _ _ h => h) fun _ => triple_pure _ fun w' hw' => ?_
    rw [husage] at hw'
    exact ⟨hcontent, husage, rfl, now, occurredAt, hw'⟩

theorem openedTurn_quiet (prepared : PreparedTurn ν) (row : MessageRow) (content : JsString)
    (status : MessageStatus) (tokenCount : Option ℤ) (now : JsString)
    (href : Referable w.db chat prepared.agent prepared.execution)
    (hrow : row = replyRow w.db chat (env.newId w.issued) prepared.agent.id content status
      tokenCount now) (time : ℤ) (n : ℕ) :
    Leads (Stage w · [row] [] [] 1)
      (do
        send prepared.agent.id prepared.request
        let (p, turnError) ← readStream env chat row
          (env.stream n prepared.execution.config prepared.request).ending
          (env.stream n prepared.execution.config prepared.request).events (.start time)
        finishTurn env chat prepared row p turnError)
      (Ended chat w env prepared (delivery (env.stream n prepared.execution.config prepared.request)))
      fun _ _ => False := by
  have hid : row.id = env.newId w.issued := by rw [hrow]; rfl
  refine triple_bind _ _ (stage_send w _ _ _ _ prepared.agent.id prepared.request) fun _ => ?_
  refine triple_bind _ _ (triple_conseq _ (drafted_readStream hq w chat prepared.agent.id
    [(prepared.agent.id, prepared.request)] row hid hfresh _ _ _)
    (fun w' hw' => ⟨content, status, tokenCount, now, hrow ▸ hw'⟩) (fun _ _ h => h) fun _ _ h => h)
    fun out => triple_intro _ fun hout => ?_
  have hfinish := finishTurn_quiet hq chat w hfresh prepared row out.1 out.2 hid href
  rw [hout] at hfinish
  exact hfinish

include hchat

theorem streamMemberTurn_quiet :
    Leads (· = w) (streamMemberTurn env chat dto turn)
      (fun res w' => ∃ prepared, ready env w.db chat dto turn = .ok prepared ∧
        Ended chat w env prepared (delivery (env.stream w.requests.length prepared.execution.config
          prepared.request)) res w')
      fun failure w' => ready env w.db chat dto turn = .error failure ∧
        w'.requests = w.requests := by
  refine triple_bind _ _ (triple_conseq _ (stage_note w [] [] [] 0 _)
    (fun w' hw' => hw' ▸ stage_refl w) (fun _ _ h => h) fun _ _ h => h) fun _ =>
      triple_bind_read _ fun s hs => ?_
  have hdb : prepareTurn env.toRuntime s.db chat dto turn =
      prepareTurn env.toRuntime w.db chat dto turn := by
    refine prepareTurn_congr _ _ _ _ _ _ hs.extended.setting ?_
    unfold transcript
    rw [hs.extended.messages, List.append_nil]
  have hrequests : s.requests = w.requests := by rw [hs.requests, List.append_nil]
  rw [hdb]
  refine triple_bind_lift _ _ (fun prepared hprepared => ?_) fun failure hfailure s' hs' =>
    ⟨ready_unprepared env w.db chat dto turn failure hfailure, hs' ▸ hrequests⟩
  have href := prepareTurn_referable _ _ _ _ _ _ hchat hprepared
  refine triple_bind _ _ (triple_conseq _ (stage_pending hq w chat prepared.agent prepared.execution
    href) (fun w' hw' => hw' ▸ hs) (fun _ _ h => h) fun _ _ h => h) fun row =>
      triple_given fun s' hs' => ?_
  obtain ⟨now, hrow, hs'⟩ := hs'
  refine triple_bind _ _ (triple_conseq _ (stage_yield hq w _ _ _ _ _) (fun _ hw' => hw' ▸ hs')
    (fun _ _ h => h) fun _ _ h => h) fun _ => triple_bind_read _ fun s'' hs'' => ?_
  refine triple_bind _ _ (triple_conseq _ (stage_note w _ _ _ _ _) (fun _ hw' => hw' ▸ hs'')
    (fun _ _ h => h) fun _ _ h => h) fun _ => ?_
  rw [hq.steady]
  refine triple_bind_lift _ _ (fun streaming hcreate => ?_) fun failure hfailure w' hw' => ?_
  · have hready : ready env w.db chat dto turn = .ok prepared := by
      rw [ready_bind env w.db chat dto turn prepared hprepared, hcreate]
      rfl
    have hlength : s''.requests.length = w.requests.length := by rw [hs''.requests, List.append_nil]
    rw [hlength]
    exact triple_conseq _ (openedTurn_quiet hq chat w hfresh prepared row [] .pending none now href
      hrow _ _) (fun _ h => h) (fun res w' h => ⟨prepared, hready, h⟩) fun _ _ h => absurd h id
  · refine ⟨?_, by rw [hw'.requests, List.append_nil]⟩
    rw [ready_bind env w.db chat dto turn prepared hprepared, hfailure]
    rfl

end Streamed

end Glassbeetle.QuietTurns
