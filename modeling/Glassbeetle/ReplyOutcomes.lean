import Glassbeetle.Checkpoints

set_option autoImplicit false

namespace Glassbeetle.ReplyOutcomes
open JsText AdapterTypes Database ExecutionChain AsyncGenerator Inference SingleAgentChat
  MemberTurns Completions QuietRuns StreamFinalisation Checkpoints

section AgentChat

variable {ν : Type} {env : Environment ν} {w₀ : World ν} {sent moment : ℕ} {status : MessageStatus}
  {content : JsString} {own : List SseCompletionEvent} {E : Failure → World ν → Prop}
  {G : JsString → Prop} (hleft : LeftAlone env) (chat : ChatRow)
  (row : MessageRow) (hrow : row.id = env.newId w₀.issued)

/-- What the `catch` block makes of a failure: it may take it for the client's own. -/
inductive Caught (env : Environment ν) (w₀ : World ν) (sent : ℕ) (execution : Execution ν)
    (failure : Failure) (own : List SseCompletionEvent) (content : JsString) (w : World ν) : Prop where
  | stopped (h : Stopped env w₀ sent own w)
  | taken (moment : ℕ) (habort : abortLike env.toLowerCase failure = true)
    (h : Stands env w₀ sent moment (leftStatus content) (leftContent content) own w)
  | reported (moment : ℕ) (hplain : abortLike env.toLowerCase failure = false)
    (h : Stands env w₀ sent moment .error content (own ++ failureEvents env execution failure) w)

include hleft hrow in
theorem onFailure_caught (execution : Execution ν) (p : Progress) (failure : Failure)
    (hreceived : Received env w₀ own) (hunderWay : ∀ event ∈ own, underWay event = true)
    (hsaid : said own = p.accumulatedContent)
    (hcontent : env.aborted moment = true ∨ G p.accumulatedContent) :
    Triple (Stands env w₀ sent moment status content own)
      (onFailure env chat row execution p failure) (AtCheckpoint env w₀ G)
      (fun _ => Caught env w₀ sent execution failure own p.accumulatedContent) E := by
  refine triple_bind _ _ (stands_note _) fun _ => triple_bind _ _ stands_aborted fun aborted =>
    triple_intro _ fun haborted => ?_
  subst haborted
  split_ifs with hstop
  · cases haborted : env.aborted moment with
    | true =>
      exact triple_bind _ _ (stopped_finishAborted chat row hrow p haborted) fun _ =>
        triple_pure _ fun _ h => .stopped h
    | false =>
      refine triple_bind _ _ (stands_finishAborted chat row hrow p) fun _ =>
        triple_pure _ fun _ h => .taken moment (hstop.resolve_left ?_) h
      rw [haborted]
      exact Bool.false_ne_true
  · rw [not_or] at hstop
    have hplain : abortLike env.toLowerCase failure = false :=
      Bool.eq_false_of_not_eq_true hstop.2
    have hend : Triple (Stands env w₀ sent (moment + 2) .error p.accumulatedContent
          (own ++ failureEvents env execution failure)) (pure () : Run ν Unit)
        (AtCheckpoint env w₀ G)
        (fun _ => Caught env w₀ sent execution failure own p.accumulatedContent) E :=
      triple_pure () fun _ h => .reported (moment + 2) hplain h
    have hreport := stands_report status content hleft chat row hrow execution p failure
      hreceived hunderWay hsaid (hcontent.resolve_left hstop.1) p.outputTokens (fun _ => pure ()) hend
    have hlast : (yieldEvent env .done >>= fun _ => (pure () : Run ν Unit)) = yieldEvent env .done :=
      Gen.bind_pure _
    rw [hlast] at hreport
    exact hreport

def Announced (env : Environment ν) (w₀ : World ν) (sent : ℕ) (own : List SseCompletionEvent)
    (content : JsString) (w : World ν) : Prop :=
  ∃ moment more, said (own ++ more) = content ∧ standing (own ++ more) = .complete ∧
    Stands env w₀ sent moment .complete content (own ++ more) w

include hleft in
theorem lastEvents_announced (event : SseCompletionEvent) (before : List SseCompletionEvent)
    (htext : tokenText event = none) (hreceived : Received env w₀ (own ++ before))
    (hsaid : said (own ++ before) = content) (hcontent : G content)
    (hstanding : ∀ more, standing (own ++ before ++ event :: more) = .complete) :
    Triple (Stands env w₀ sent moment .complete content (own ++ before))
      (do
        yieldEvent env event
        yieldEvent env .done) (AtCheckpoint env w₀ G)
      (fun _ => Announced env w₀ sent own content) E := by
  have hall : own ++ before ++ [event] ++ [.done] = own ++ (before ++ [event, .done]) := by
    rw [List.append_assoc, List.append_assoc]
    rfl
  have hsaid' := (said_concat event htext).trans hsaid
  have hdone := hstanding [.done]
  rw [List.append_cons] at hdone
  refine triple_bind _ _ (stands_announce hleft event htext hreceived hsaid hcontent (hstanding []))
    fun _ => triple_conseq _ (stands_announce hleft .done rfl
      (received_concat event htext hreceived) hsaid' hcontent hdone) (fun _ h => h) (fun _ w h => ?_)
      fun _ _ h => h
  have hlast := (said_concat .done rfl).trans hsaid'
  rw [hall] at h hdone hlast
  exact ⟨_, _, hlast, hdone, h⟩

include hleft in
theorem announceReply_announced (p : Progress) (hreceived : Received env w₀ own)
    (hunderWay : ∀ event ∈ own, underWay event = true) (hsaid : said own = content)
    (hcontent : G content) :
    Triple (Stands env w₀ sent moment .complete content own) (announceReply env row p)
      (AtCheckpoint env w₀ G) (fun _ => Announced env w₀ sent own content) E := by
  unfold announceReply yieldUsage
  cases p.reportedUsage with
  | none =>
    have hlast : Triple (Stands env w₀ sent moment .complete content (own ++ []))
        (do
          yieldEvent env (.messageComplete row.id p.outputTokens none)
          yieldEvent env .done) (AtCheckpoint env w₀ G)
        (fun _ => Announced env w₀ sent own content) E :=
      lastEvents_announced hleft _ [] rfl (by rwa [List.append_nil]) (by rwa [List.append_nil])
        hcontent fun more => by
          rw [List.append_nil]
          exact standing_concat own more hunderWay _ _ rfl
    rw [List.append_nil] at hlast
    exact hlast
  | some usage =>
    refine triple_bind _ _ (stands_announce hleft (.usage usage) rfl hreceived hsaid hcontent
      (standing_concat own [] hunderWay _ _ rfl)) fun _ =>
        lastEvents_announced hleft _ [.usage usage] rfl (received_concat _ rfl hreceived)
          ((said_concat _ rfl).trans hsaid) hcontent fun more => ?_
    rw [List.append_assoc]
    exact standing_concat own _ hunderWay _ _ rfl

inductive Outcome (env : Environment ν) (w₀ : World ν) (G : JsString → Prop)
    (execution : Execution ν) (d : Delivery) (w : World ν) : Prop where
  | stopped (own : List SseCompletionEvent) (hunderWay : ∀ event ∈ own, underWay event = true)
    (h : Stopped env w₀ 1 own w)
  | replied (moment : ℕ) (own : List SseCompletionEvent) (status : MessageStatus)
    (hnone : d.failure = none) (hsaid : said own = d.content) (hcontent : G d.content)
    (hstanding : standing own = status) (hended : status.inFlight = false)
    (h : Stands env w₀ 1 moment status d.content own w)
  | failed (own : List SseCompletionEvent) (failure : Failure) (hfailure : d.failure = some failure)
    (hunderWay : ∀ event ∈ own, underWay event = true) (hsaid : said own = d.content)
    (hcontent : G d.content) (h : Caught env w₀ 1 execution failure own d.content w)

/-- The call gets as far as asking the provider. -/
structure Opens (env : Environment ν) (w₀ : World ν) (chat : ChatRow) (dto : CreateCompletionDto ν)
    (agent : AgentRow ν) (execution : Execution ν) (prompt : Prompt) : Prop where
  chain : resolveExecutionChain w₀.db chat dto.modelId = .ok (agent, execution)
  present : env.aborted w₀.clock = false
  adapter : env.create w₀.clock execution.config = .ok true
  context : buildContext w₀.db chat agent execution.model none = .ok prompt
  row : Insertable env w₀ chat agent

def answer (env : Environment ν) (w₀ : World ν) (dto : CreateCompletionDto ν) (agent : AgentRow ν)
    (execution : Execution ν) (prompt : Prompt) : Script :=
  env.stream w₀.requests.length execution.config
    (completionRequest env.toRuntime dto agent execution.model prompt)

def reply (env : Environment ν) (w₀ : World ν) (dto : CreateCompletionDto ν) (agent : AgentRow ν)
    (execution : Execution ν) (prompt : Prompt) : Delivery :=
  delivery (answer env w₀ dto agent execution prompt)

/-- The reading of a stream whose row has been created in `w₀`. -/
def course (env : Environment ν) (w₀ : World ν) (script : Script) : Replay :=
  replay env script.ending script.events (w₀.clock + 1) (.start (env.now (w₀.clock + 1)))

variable {d : Delivery} {deltas : List JsString}
  (hreceived : ∀ own, tokenTexts own <+: deltas → Received env w₀ own)

include hleft hrow hreceived

theorem failure_outcome (execution : Execution ν) (p : Progress) (failure : Failure)
    (htracks : Tracks deltas own p)
    (hd : env.aborted moment = true ∨
      (⟨p.accumulatedContent, p.reportedUsage, some failure⟩ : Delivery) = d)
    (hcontent : env.aborted moment = true ∨ G p.accumulatedContent) :
    Triple (Stored env w₀ 1 moment p own) (onFailure env chat row execution p failure)
      (AtCheckpoint env w₀ G) (fun _ => Outcome env w₀ G execution d) E := by
  cases haborted : env.aborted moment with
  | true =>
    refine triple_bind _ _ (stands_note _) fun _ => triple_bind _ _ stands_aborted fun aborted =>
      triple_intro _ fun hstop => ?_
    rw [if_pos (.inl (hstop.trans haborted))]
    exact triple_bind _ _ (stopped_finishAborted chat row hrow p haborted) fun _ =>
      triple_pure _ fun _ h => .stopped own htracks.underWay h
  | false =>
    have hstays : ¬env.aborted moment = true := by rw [haborted]; exact Bool.false_ne_true
    obtain rfl := hd.resolve_left hstays
    exact triple_conseq _ (onFailure_caught hleft chat row hrow execution p failure
      (hreceived own htracks.received) htracks.underWay htracks.content hcontent) (fun _ h => h)
      (fun _ _ h => .failed own failure rfl htracks.underWay htracks.content
        (hcontent.resolve_left hstays) h) fun _ _ h => h

/-- The reply has come to an end of its own: it is stored, and its usage is recorded. -/
theorem completion_outcome (hlower : abortLike env.toLowerCase foreignKeyFailed = false)
    (agent : AgentRow ν) (execution : Execution ν) (p : Progress) (usage : Option (TokenUsage ℤ))
    (htracks : Tracks deltas own p) (hcontent : G p.accumulatedContent) :
    Triple (Stored env w₀ 1 moment p own)
      (do
        let p ← flushPartial env chat row p .complete p.outputTokens
        match ← Gen.attempt (recordUsage env chat agent execution p.reportedUsage) with
        | .error failure => onFailure env chat row execution p failure
        | .ok () => announceReply env row p) (AtCheckpoint env w₀ G)
      (fun _ => Outcome env w₀ G execution ⟨p.accumulatedContent, usage, none⟩) E := by
  refine triple_bind _ _ (stands_flush chat row p .complete _ hrow) fun p' =>
    triple_intro _ fun hp' => ?_
  have hrecord : Triple (Stands env w₀ 1 moment .complete p.accumulatedContent own)
      (Gen.attempt (recordUsage env chat agent execution p'.reportedUsage)) (AtCheckpoint env w₀ G)
      (fun r w => (∀ failure, r = .error failure → failure = foreignKeyFailed) ∧
        Stands env w₀ 1 moment .complete p.accumulatedContent own w) E :=
    triple_attempt _ (stands_recordUsage chat agent execution _) (fun _ _ h => ⟨nofun, h⟩)
      fun failure _ h => ⟨fun _ he => (Except.error.inj he).symm.trans h.1, h.2⟩
  refine triple_bind _ _ hrecord fun r => triple_intro _ fun hr => ?_
  subst hp'
  cases r with
  | error failure =>
    obtain rfl := hr failure rfl
    refine triple_conseq _ (onFailure_caught hleft chat row hrow execution
      (flushed env moment p .complete) foreignKeyFailed (hreceived own htracks.received)
      htracks.underWay htracks.content (.inr hcontent)) (fun _ h => h) (fun _ w h => ?_)
      fun _ _ h => h
    cases h with
    | stopped h => exact .stopped own htracks.underWay h
    | taken moment habort h => exact absurd (hlower.symm.trans habort) Bool.false_ne_true
    | reported moment hplain h =>
      have hsaid : said (own ++ failureEvents env execution foreignKeyFailed) =
          p.accumulatedContent := by
        rw [said_append, htracks.content]
        exact List.append_nil _
      exact .replied moment _ .error rfl hsaid hcontent
        (standing_concat own _ htracks.underWay _ _ rfl) rfl h
  | ok _ =>
    refine triple_conseq _ (announceReply_announced hleft row _ (hreceived own htracks.received)
      htracks.underWay htracks.content hcontent) (fun _ h => h) (fun _ w h => ?_) fun _ _ h => h
    obtain ⟨moment, more, hsaid, hstanding, h⟩ := h
    exact .replied moment _ .complete rfl hsaid hcontent hstanding rfl h

end AgentChat

section Runs

variable {ν : Type} {env : Environment ν} {w₀ : World ν} {G : JsString → Prop}
  (hleft : LeftAlone env) (hfresh : Fresh env w₀)
  (hlower : abortLike env.toLowerCase foreignKeyFailed = false) (hempty : G [])
  (chat : ChatRow) (dto : CreateCompletionDto ν)

theorem tracks_start (deltas : List JsString) (event : SseCompletionEvent) (time : ℤ)
    (hevent : underWay event = true) (htext : tokenText event = none) :
    Tracks deltas [event] (.start time) := by
  have hstart : Tracks deltas [] (.start time) :=
    ⟨fun _ h => absurd h List.not_mem_nil, rfl, rfl, Nat.le_refl _, Nat.zero_lt_succ _,
      List.nil_prefix⟩
  exact tracks_textless event hstart hevent htext

/-- The text that a reply ends with is one of those written, unless the client has gone. -/
theorem written_last (r : Replay) (hG : ∀ text ∈ r.written env, G text) :
    env.aborted r.moment = true ∨ G r.progress.accumulatedContent := by
  unfold Replay.written at hG
  cases haborted : env.aborted r.moment with
  | true => exact .inl rfl
  | false =>
    rw [haborted] at hG
    exact .inr (hG _ (List.mem_append_right _ (List.mem_singleton_self _)))

theorem written_texts (r : Replay) (hG : ∀ text ∈ r.written env, G text) :
    ∀ text ∈ r.texts, G text :=
  fun text htext => hG text (List.mem_append_left _ htext)

include hleft hlower hempty

theorem opened_outcome (agent : AgentRow ν) (execution : Execution ν)
    (request : CompletionRequest ν) (row : MessageRow) (hrow : row.id = env.newId w₀.issued)
    (hG : ∀ text ∈ (course env w₀
      (env.stream w₀.requests.length execution.config request)).written env, G text)
    (E : Failure → World ν → Prop) :
    Triple (Stands env w₀ 0 w₀.clock .pending [] [])
      (do
        yieldEvent env (.messageStart row.id chat.id row.sequence agent.id agent.name)
        let w ← Gen.read
        let script := env.stream w.requests.length execution.config request
        send agent.id request
        let (p, failure) ← readStream env chat row script.ending script.events
          (.start (env.now w.clock))
        match failure with
        | some failure => onFailure env chat row execution p failure
        | none =>
          if ← isAborted env then do
            let _ ← finishAborted env chat row p
          else do
            let p ← flushPartial env chat row p .complete p.outputTokens
            match ← Gen.attempt (recordUsage env chat agent execution p.reportedUsage) with
            | .error failure => onFailure env chat row execution p failure
            | .ok () => announceReply env row p) (AtCheckpoint env w₀ G)
      (fun _ => Outcome env w₀ G execution
        (delivery (env.stream w₀.requests.length execution.config request))) E := by
  have hreceived (own : List SseCompletionEvent) (h : tokenTexts own <+:
      textDeltas (env.stream w₀.requests.length execution.config request).events) :
      Received env w₀ own := ⟨_, _, h⟩
  have hlast := written_last _ hG
  have hall := replay_delivery env
    (env.stream w₀.requests.length execution.config request).ending
    (env.stream w₀.requests.length execution.config request).events (w₀.clock + 1)
    (.start (env.now (w₀.clock + 1)))
  refine triple_bind _ _ (stands_yield hleft
    (.messageStart row.id chat.id row.sequence agent.id agent.name)
    (hreceived _ List.nil_prefix) hempty (tallies_full rfl rfl)) fun _ =>
      triple_bind_read _ fun s hs => ?_
  have hrequests : s.requests.length = w₀.requests.length := hs.requests
  dsimp only
  rw [hrequests, hs.clock]
  have hstart := tracks_start
    (textDeltas (env.stream w₀.requests.length execution.config request).events)
    (.messageStart row.id chat.id row.sequence agent.id agent.name) (env.now (w₀.clock + 1)) rfl rfl
  refine triple_bind _ _ (triple_conseq _ (stands_send agent.id request) (fun w hw => hw ▸ hs)
    (fun _ _ h => h) fun _ _ h => h) fun _ => triple_bind _ _ (stored_readStream hleft chat row hrow
      _ hreceived _ _ (w₀.clock + 1) _ _ hstart rfl hempty (written_texts _ hG)) fun out =>
        triple_intro _ fun hout => triple_exists _ fun own => triple_intro _ fun htracks => ?_
  subst hout
  change env.aborted (course env w₀
    (env.stream w₀.requests.length execution.config request)).moment = true ∨ _ at hall
  change Triple (Stored env w₀ 1 (course env w₀
    (env.stream w₀.requests.length execution.config request)).moment _ own) _ _ _ _
  generalize hr : course env w₀ (env.stream w₀.requests.length execution.config request) = r at *
  unfold course at hr
  rw [hr] at htracks hall ⊢
  obtain ⟨texts, moment, p, failure⟩ := r
  cases failure with
  | some failure =>
    exact failure_outcome hleft chat row hrow hreceived execution p failure htracks hall hlast
  | none =>
    refine triple_bind _ _ stands_aborted fun b => triple_intro _ fun hb => ?_
    cases b with
    | true =>
      exact triple_bind _ _ (stopped_finishAborted chat row hrow p hb.symm) fun _ =>
        triple_pure () fun _ h => .stopped own htracks.underWay h
    | false =>
      have hstays : ¬env.aborted moment = true := fun h => Bool.false_ne_true (hb.trans h)
      have hd := hall.resolve_left hstays
      change _ = delivery _ at hd
      rw [← hd]
      exact completion_outcome hleft chat row hrow hreceived hlower agent execution p _ htracks
        (hlast.resolve_left hstays)

include hfresh

theorem agentChat_outcome
    (hG : ∀ agent execution prompt, Opens env w₀ chat dto agent execution prompt →
      ∀ text ∈ (course env w₀ (answer env w₀ dto agent execution prompt)).written env, G text) :
    Triple (Begun w₀) (streamAgentChat env chat dto) (AtCheckpoint env w₀ G)
      (fun _ w => ∃ agent execution prompt, Opens env w₀ chat dto agent execution prompt ∧
        Outcome env w₀ G execution (reply env w₀ dto agent execution prompt) w)
      (fun _ w => (∀ agent execution prompt, ¬Opens env w₀ chat dto agent execution prompt) ∧
        Unopened env w₀ w) := by
  refine triple_bind_read _ fun s hs => ?_
  have hnothing : Unopened env w₀ s := unopened_begun hfresh s hs
  rw [hs.db]
  refine triple_bind_lift _ _ (fun chain hchain => ?_) fun failure hfailure w hw =>
    ⟨fun agent execution prompt h => ?_, hw ▸ hnothing⟩
  swap
  · rw [h.chain] at hfailure
    cases hfailure
  obtain ⟨agent, execution⟩ := chain
  refine triple_bind_read _ fun t ht => ?_
  rw [ht, hs.clock]
  split_ifs with hb
  · refine triple_fail _ ?_
    rintro w rfl
    exact ⟨fun _ _ _ h => absurd (h.present.symm.trans hb) Bool.false_ne_true, hnothing⟩
  refine triple_bind_lift _ _ (fun streaming hstreaming => ?_) ?_
  swap
  · rintro failure hfailure w rfl
    refine ⟨fun _ _ _ h => ?_, hnothing⟩
    obtain ⟨-, rfl⟩ := Prod.mk.inj (Except.ok.inj (hchain.symm.trans h.chain))
    rw [h.adapter] at hfailure
    cases hfailure
  split_ifs with hsupport
  · refine triple_fail _ ?_
    rintro w rfl
    refine ⟨fun _ _ _ h => ?_, hnothing⟩
    obtain ⟨-, rfl⟩ := Prod.mk.inj (Except.ok.inj (hchain.symm.trans h.chain))
    rw [h.adapter] at hstreaming
    rw [← Except.ok.inj hstreaming] at hsupport
    cases hsupport
  refine triple_bind_lift _ _ (fun prompt hprompt => ?_) ?_
  swap
  · rintro failure hfailure w rfl
    refine ⟨fun _ _ _ h => ?_, hnothing⟩
    obtain ⟨rfl, rfl⟩ := Prod.mk.inj (Except.ok.inj (hchain.symm.trans h.chain))
    rw [h.context] at hfailure
    cases hfailure
  have hcreate : Triple (· = s)
      (createPendingMessageRow env chat agent) (AtCheckpoint env w₀ G)
      (fun row w => row.id = env.newId w₀.issued ∧ Insertable env w₀ chat agent ∧
        Stands env w₀ 0 w₀.clock .pending [] [] w)
      (fun _ w => (∀ agent execution prompt, ¬Opens env w₀ chat dto agent execution prompt) ∧
        Unopened env w₀ w) := by
    refine triple_conseq _ (stands_create hfresh chat agent) (fun w hw => hw ▸ hs)
      (fun _ _ h => h) fun _ w h => ⟨fun _ _ _ hopens => ?_, h.2⟩
    obtain ⟨rfl, -⟩ := Prod.mk.inj (Except.ok.inj (hchain.symm.trans hopens.chain))
    exact h.1 hopens.row
  refine triple_bind _ _ hcreate fun row => triple_intro _ fun hrow => triple_intro _ fun hinsert => ?_
  have hpresent : env.aborted w₀.clock = false := Bool.eq_false_of_not_eq_true hb
  have hstreams : streaming = true := by
    cases streaming with
    | true => rfl
    | false => exact absurd rfl hsupport
  have hopens : Opens env w₀ chat dto agent execution prompt :=
    ⟨hchain, hpresent, hstreams ▸ hstreaming, hprompt, hinsert⟩
  exact triple_conseq _ (opened_outcome hleft hlower hempty chat agent execution _ row hrow
    (hG agent execution prompt hopens) _) (fun _ h => h)
    (fun _ _ h => ⟨agent, execution, prompt, hopens, h⟩) fun _ _ h => h

end Runs

section MemberTurn

variable {ν : Type} {env : Environment ν} {w₀ : World ν} {G : JsString → Prop}
  (hleft : LeftAlone env) (chat : ChatRow)

def Closed (env : Environment ν) (w₀ : World ν) (G : JsString → Prop) (w : World ν) : Prop :=
  Unopened env w₀ w ∨ ∃ sent moment status content own,
    Stands env w₀ sent moment status content own w ∧ Forward (standing own) status ∧
      (env.aborted w.clock = true ∨ said own = content ∧ G content)

theorem closed_full (sent moment : ℕ) (status : MessageStatus) (content : JsString)
    (own : List SseCompletionEvent) (w : World ν) (h : Stands env w₀ sent moment status content own w)
    (hforward : Forward (standing own) status) (hsaid : said own = content) (hcontent : G content) :
    Closed env w₀ G w :=
  .inr ⟨sent, moment, status, content, own, h, hforward, .inr ⟨hsaid, hcontent⟩⟩

include hleft

theorem finishTurn_closed (sent moment : ℕ) (row : MessageRow) (hrow : row.id = env.newId w₀.issued)
    (deltas : List JsString)
    (hreceived : ∀ own, tokenTexts own <+: deltas → Received env w₀ own)
    (prepared : PreparedTurn ν) (p : Progress) (own : List SseCompletionEvent)
    (htracks : Tracks deltas own p) (turnError : Option Failure)
    (hcontent : env.aborted moment = true ∨ G p.accumulatedContent) :
    Triple (Stored env w₀ sent moment p own) (finishTurn env chat prepared row p turnError)
      (AtCheckpoint env w₀ G) (fun _ => Closed env w₀ G) (fun _ => Closed env w₀ G) := by
  have hclosing (status : MessageStatus) (h : status.inFlight = false) :
      Forward (standing own) status := standing_forward_ended own htracks.underWay status h
  refine triple_bind _ _ stands_aborted fun b => triple_intro _ fun hb => ?_
  cases b with
  | true =>
    refine triple_bind _ _ (stopped_finishAborted chat row hrow p hb.symm) fun p' =>
      triple_pure _ fun w h => ?_
    have hgone := stopped_gone w h
    obtain ⟨moment, status, content, hended, h, -⟩ := h
    exact .inr ⟨_, moment, status, content, own, h, hclosing status hended, .inl hgone⟩
  | false =>
    have hadmitted := hcontent.resolve_left fun h => Bool.false_ne_true (hb.trans h)
    cases turnError with
    | some failure =>
      refine stands_report _ _ hleft chat row hrow prepared.execution p failure
        (hreceived own htracks.received) htracks.underWay htracks.content hadmitted _ _
          (triple_pure _ fun w h => ?_)
      refine closed_full _ _ _ _ _ w h (.inl (standing_concat own _ htracks.underWay _ _ rfl)) ?_
        hadmitted
      rw [said_append, htracks.content]
      exact List.append_nil _
    | none =>
      refine triple_bind _ _ (stands_flush chat row p .complete _ hrow) fun p' =>
        triple_intro _ fun _ => triple_bind _ _ (stands_note _) fun _ => triple_bind _ _
          (triple_conseq _ (stands_recordUsage chat prepared.agent prepared.execution _)
            (fun _ h => h) (fun _ _ h => h) fun _ w h =>
              closed_full _ _ .complete _ own w h.2 (hclosing .complete rfl) htracks.content
                hadmitted) fun _ => ?_
      have hcomplete := standing_concat own []
        htracks.underWay (.messageComplete row.id p'.outputTokens p'.reportedUsage) _ rfl
      refine triple_bind _ _ (stands_announce hleft
        (.messageComplete row.id p'.outputTokens p'.reportedUsage) rfl
        (hreceived own htracks.received) htracks.content hadmitted hcomplete) fun _ =>
          triple_pure _ fun w h => ?_
      exact closed_full _ _ _ _ _ w h (.inl hcomplete) ((said_concat _ rfl).trans htracks.content)
        hadmitted

structure TurnOpens (env : Environment ν) (w₀ : World ν) (chat : ChatRow)
    (dto : CreateCompletionDto ν) (turn : Turn) (prepared : PreparedTurn ν) : Prop where
  ready : prepareTurn env.toRuntime w₀.db chat dto turn = .ok prepared
  row : Insertable env w₀ chat prepared.agent
  adapter : ∃ streaming, env.create (w₀.clock + 1) prepared.execution.config = .ok streaming

def turnAnswer (env : Environment ν) (w₀ : World ν) (prepared : PreparedTurn ν) : Script :=
  env.stream w₀.requests.length prepared.execution.config prepared.request

theorem memberTurn_closed (hfresh : Fresh env w₀) (hempty : G []) (dto : CreateCompletionDto ν)
    (turn : Turn)
    (hG : ∀ prepared, TurnOpens env w₀ chat dto turn prepared →
      ∀ text ∈ (course env w₀ (turnAnswer env w₀ prepared)).written env, G text) :
    Triple (Begun w₀) (streamMemberTurn env chat dto turn) (AtCheckpoint env w₀ G)
      (fun _ => Closed env w₀ G) (fun _ => Closed env w₀ G) := by
  have hnote : Triple (Begun w₀) (note fun w => .turn w.clock w.db chat turn) (AtCheckpoint env w₀ G)
      (fun _ => Begun w₀) (fun _ => Closed env w₀ G) := by
    refine triple_modify _ fun w hw => ?_
    split_ifs
    · exact hw
    · exact ⟨hw.db, hw.clock, hw.issued, hw.emitted, hw.requests⟩
  refine triple_bind _ _ hnote fun _ => triple_bind_read _ fun s hs => ?_
  rw [hs.db]
  refine triple_bind_lift _ _ (fun prepared hprepared => ?_) fun _ _ w hw =>
    .inl (hw ▸ unopened_begun hfresh s hs)
  refine triple_bind _ _ (triple_conseq _ (stands_create hfresh chat prepared.agent)
    (fun w hw => hw ▸ hs) (fun _ _ h => h) fun _ w h => .inl h.2) fun row =>
      triple_intro _ fun hrow => triple_intro _ fun hinsert => ?_
  have hreceived (own : List SseCompletionEvent) (h : tokenTexts own <+: textDeltas
      (env.stream w₀.requests.length prepared.execution.config prepared.request).events) :
      Received env w₀ own := ⟨_, _, h⟩
  refine triple_bind _ _ (stands_yield hleft (.messageStart row.id chat.id row.sequence
    prepared.agent.id (speakerName turn.member)) (hreceived _ List.nil_prefix) hempty
    (tallies_full rfl rfl)) fun _ => triple_bind_read _ fun r hr => ?_
  have hrequests : r.requests.length = w₀.requests.length := hr.requests
  refine triple_bind _ _ (triple_conseq _ (stands_note _) (fun w hw => hw ▸ hr) (fun _ _ h => h)
    fun _ _ h => h) fun _ => ?_
  dsimp only
  rw [hrequests, hr.clock]
  refine triple_bind_lift _ _ (fun streaming hstreaming => ?_) fun _ _ w h =>
    closed_full _ _ _ _ _ w h (.inl rfl) rfl hempty
  have hwritten := hG prepared ⟨hprepared, hinsert, streaming, hstreaming⟩
  have hstart := tracks_start
    (textDeltas (env.stream w₀.requests.length prepared.execution.config prepared.request).events)
    (.messageStart row.id chat.id row.sequence prepared.agent.id (speakerName turn.member))
    (env.now (w₀.clock + 1)) rfl rfl
  refine triple_bind _ _ (stands_send _ _) fun _ => triple_bind _ _ (stored_readStream hleft chat row
    hrow _ hreceived _ _ (w₀.clock + 1) (.start (env.now (w₀.clock + 1))) _ hstart rfl hempty
    (written_texts _ hwritten)) fun out => ?_
  refine triple_intro _ fun hout => triple_exists _ fun own => triple_intro _ fun htracks => ?_
  subst hout
  exact finishTurn_closed hleft chat 1 _ row hrow _ hreceived prepared _ own htracks _
    (written_last _ hwritten)

end MemberTurn

end Glassbeetle.ReplyOutcomes
