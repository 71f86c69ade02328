import Glassbeetle.CheckpointLaw

set_option autoImplicit false

namespace Glassbeetle.FailureReports
open JsText Utf8Text AdapterTypes Database ExecutionChain AsyncGenerator Inference SingleAgentChat
  Completions QuietRuns StreamRecord StreamFinalisation Checkpoints ReplyOutcomes CheckpointLaw

variable {ν : Type} {env : Environment ν} {w₀ : World ν}

structure Truthful (env : Environment ν) (w₀ : World ν) (execution : Execution ν) (d : Delivery)
    (t : Trace (World ν) SseCompletionEvent Failure Unit) : Prop where
  complete : ∀ row ∈ t.final.db.messages, row.id = env.newId w₀.issued → row.status = .complete →
    d.failure = none ∨ env.aborted t.final.clock = true
  stored : ∀ failure, d.failure = some failure → env.aborted t.final.clock = false →
    ∀ row ∈ t.final.db.messages, row.id = env.newId w₀.issued →
      row.status = .error ∧ row.content = d.content
  reported : ∀ failure, d.failure = some failure → env.aborted t.final.clock = false →
    ∃ earlier, events t = earlier ++ failureEvents env execution failure

theorem truthful_stopped (execution : Execution ν) (d : Delivery)
    (t : Trace (World ν) SseCompletionEvent Failure Unit)
    (haborted : env.aborted t.final.clock = true) : Truthful env w₀ execution d t :=
  ⟨fun _ _ _ _ => .inr haborted,
    fun _ _ hpresent => absurd (hpresent.symm.trans haborted) Bool.false_ne_true,
    fun _ _ hpresent => absurd (hpresent.symm.trans haborted) Bool.false_ne_true⟩

theorem truthful_complete (execution : Execution ν) (d : Delivery)
    (t : Trace (World ν) SseCompletionEvent Failure Unit) (hnone : d.failure = none) :
    Truthful env w₀ execution d t :=
  ⟨fun _ _ _ _ => .inl hnone, fun _ hfailure => (nomatch hnone.symm.trans hfailure),
    fun _ hfailure => (nomatch hnone.symm.trans hfailure)⟩

theorem truthful_reported (execution : Execution ν) (d : Delivery) (g : Run ν Unit) (hlogs : Logs g)
    (moment : ℕ) (own : List SseCompletionEvent) (failure : Failure)
    (hfailure : d.failure = some failure) (hintact : Intact d.content)
    (h : Stands env w₀ 1 moment .error d.content (own ++ failureEvents env execution failure)
      (g w₀).final) : Truthful env w₀ execution d (g w₀) := by
  refine ⟨fun row hrow hid hcomplete => ?_, fun _ _ _ row hrow hid => ?_, fun failure' hfailure' _ => ?_⟩
  · exact absurd ((h.held row hrow hid).1.symm.trans hcomplete) nofun
  · rw [← (stored_eq_self d.content).mpr hintact]
    exact h.held row hrow hid
  · obtain rfl := Option.some.inj (hfailure.symm.trans hfailure')
    exact ⟨own, List.append_cancel_left ((hlogs.emitted w₀).symm.trans h.emitted)⟩

theorem taken_unreported (execution : Execution ν) (d : Delivery) (g : Run ν Unit) (hlogs : Logs g)
    (moment : ℕ) (status : MessageStatus) (content : JsString) (own : List SseCompletionEvent)
    (hunderWay : ∀ event ∈ own, underWay event = true) (failure : Failure)
    (hfailure : d.failure = some failure) (hpresent : env.aborted (g w₀).final.clock = false)
    (h : Stands env w₀ 1 moment status content own (g w₀).final) :
    ¬Truthful env w₀ execution d (g w₀) := by
  intro htruthful
  obtain ⟨earlier, hevents⟩ := htruthful.reported failure hfailure hpresent
  have hown : own = earlier ++ failureEvents env execution failure :=
    (List.append_cancel_left (h.emitted.symm.trans (hlogs.emitted w₀))).trans hevents
  have hdone : SseCompletionEvent.done ∈ own := by
    rw [hown]
    exact List.mem_append_right _ (List.mem_cons_of_mem _ (List.mem_singleton_self _))
  exact Bool.false_ne_true (hunderWay _ hdone)

theorem intact_of_stored (execution : Execution ν) (d : Delivery)
    (t : Trace (World ν) SseCompletionEvent Failure Unit) (moment : ℕ) (status : MessageStatus)
    (own : List SseCompletionEvent) (failure : Failure) (hfailure : d.failure = some failure)
    (hpresent : env.aborted t.final.clock = false) (hkept : RowsKept env)
    (h : Stands env w₀ 1 moment status d.content own t.final)
    (htruthful : Truthful env w₀ execution d t) : Intact d.content := by
  obtain ⟨row, hrow, hid⟩ := h.present hkept
  have hcontent := (htruthful.stored failure hfailure hpresent row hrow hid).2
  rw [(h.held row hrow hid).2] at hcontent
  exact (stored_eq_self d.content).mp hcontent

section Exactness

variable {G : JsString → Prop} (execution : Execution ν) (d : Delivery) (g : Run ν Unit)
  (hlogs : Logs g) (houtcome : Outcome env w₀ G execution d (g w₀).final)

include hlogs houtcome

theorem truthful_of_plain
    (h : env.aborted (g w₀).final.clock = true ∨ ∀ failure, d.failure = some failure →
      abortLike env.toLowerCase failure = false ∧ Intact d.content) :
    Truthful env w₀ execution d (g w₀) := by
  rcases h with haborted | hplain
  · exact truthful_stopped execution d _ haborted
  · cases houtcome with
    | stopped own hunderWay h => exact truthful_stopped execution d _ (stopped_gone _ h)
    | replied moment own status hnone hsaid hcontent hstanding hended h =>
      exact truthful_complete execution d _ hnone
    | failed own failure hfailure hunderWay hsaid hcontent h =>
      obtain ⟨hfailed, hintact⟩ := hplain failure hfailure
      cases h with
      | stopped h => exact truthful_stopped execution d _ (stopped_gone _ h)
      | taken moment habort h => exact absurd (hfailed.symm.trans habort) Bool.false_ne_true
      | reported moment _ h =>
        exact truthful_reported execution d g hlogs moment own failure hfailure hintact h

theorem plain_of_truthful (htruthful : Truthful env w₀ execution d (g w₀)) :
    env.aborted (g w₀).final.clock = true ∨ ∀ failure, d.failure = some failure →
      abortLike env.toLowerCase failure = false ∧ (RowsKept env → Intact d.content) := by
  cases haborted : env.aborted (g w₀).final.clock with
  | true => exact .inl rfl
  | false =>
    refine .inr fun failure hfailure => ?_
    have hstays (own : List SseCompletionEvent) (h : Stopped env w₀ 1 own (g w₀).final) : False :=
      Bool.false_ne_true (haborted.symm.trans (stopped_gone _ h))
    cases houtcome with
    | stopped own hunderWay h => exact (hstays own h).elim
    | replied moment own status hnone hsaid hcontent hstanding hended h =>
      exact nomatch hnone.symm.trans hfailure
    | failed own failure' hfailure' hunderWay hsaid hcontent h =>
      obtain rfl := Option.some.inj (hfailure'.symm.trans hfailure)
      cases h with
      | stopped h => exact (hstays own h).elim
      | taken moment habort h =>
        exact absurd htruthful (taken_unreported execution d g hlogs moment _ _ own hunderWay
          failure' hfailure haborted h)
      | reported moment hplain h =>
        exact ⟨hplain, fun hkept => intact_of_stored execution d _ moment .error _ failure' hfailure
          haborted hkept h htruthful⟩

end Exactness

/-- A run that has asked the provider tells the truth about the reply unless the client has stayed
and the failure looks like the client's own or leaves a text that is torn. -/
theorem failure_reported (env : Environment ν) (w₀ : World ν) (hleft : LeftAlone env)
    (hfresh : Fresh env w₀) (hlower : abortLike env.toLowerCase foreignKeyFailed = false)
    (chatId : JsString) (owned : ChatRow) (hchat : w₀.db.chat chatId = some owned)
    (hagent : owned.teamId = none) (dto : CreateCompletionDto ν) (agent : AgentRow ν)
    (execution : Execution ν) (prompt : Prompt)
    (hopens : Opens env w₀ owned dto agent execution prompt) :
    let d := reply env w₀ dto agent execution prompt
    let t := streamChat env chatId dto w₀
    (env.aborted t.final.clock = true ∨ (∀ failure, d.failure = some failure →
        abortLike env.toLowerCase failure = false ∧ Intact d.content) →
      Truthful env w₀ execution d t) ∧
    (Truthful env w₀ execution d t →
      env.aborted t.final.clock = true ∨ ∀ failure, d.failure = some failure →
        abortLike env.toLowerCase failure = false ∧ (RowsKept env → Intact d.content)) := by
  dsimp only
  rw [streamChat_agent env owned dto chatId w₀ hchat hagent]
  have houtcome := opened_ends (G := fun _ => True) hleft hfresh hlower owned dto trivial agent
    execution prompt hopens fun _ _ => trivial
  exact ⟨truthful_of_plain execution _ (streamAgentChat env owned dto)
      (logs_streamAgentChat owned dto) houtcome,
    plain_of_truthful execution _ (streamAgentChat env owned dto) (logs_streamAgentChat owned dto)
      houtcome⟩

section Sample

def annsPrompt : Prompt := (none, [⟨js "user", js "hi", none⟩])

theorem anns_opens (events : List (StreamEvent JsString ℤ)) (failure : Failure) :
    Opens (failingEnvironment events failure) (.start (sampleTables .sequential))
      ⟨js "c", some (js "Ann"), none, none, none, []⟩ plainDto (sampleAgent "Ann") sampleExecution
      annsPrompt :=
  ⟨rfl, rfl, rfl, rfl, rfl, rfl⟩

def rateLimited : Failure := .adapter (rateLimitError (js "Slow down") (some (js "ollama")))

theorem failure_reported_limit :
    Truthful (failingEnvironment [.textDelta (js "hel")] rateLimited)
      (.start (sampleTables .sequential)) sampleExecution
      (reply (failingEnvironment [.textDelta (js "hel")] rateLimited)
        (.start (sampleTables .sequential)) plainDto (sampleAgent "Ann") sampleExecution annsPrompt)
      (streamChat (failingEnvironment [.textDelta (js "hel")] rateLimited) (js "c") plainDto
        (.start (sampleTables .sequential))) :=
  (failure_reported (failingEnvironment [.textDelta (js "hel")] rateLimited)
    (.start (sampleTables .sequential)) (fun _ _ _ row h _ => ⟨row, h, rfl, rfl, rfl⟩)
    (fun row h => sampleTables_fresh .sequential (fun _ => []) none row h 0) (by decide) (js "c") _
    rfl rfl plainDto _ _ _ (anns_opens _ _)).1
      (.inr fun _ hfailure => ⟨Option.some.inj hfailure ▸ by decide, by decide⟩)

/-- The connection breaks in the middle of a reply, the client stays, and the reply is complete. -/
theorem broken_reply_complete :
    ¬Truthful (failingEnvironment [.textDelta (js "hel")] upstreamAborted)
      (.start (sampleTables .sequential)) sampleExecution
      (reply (failingEnvironment [.textDelta (js "hel")] upstreamAborted)
        (.start (sampleTables .sequential)) plainDto (sampleAgent "Ann") sampleExecution annsPrompt)
      (streamChat (failingEnvironment [.textDelta (js "hel")] upstreamAborted) (js "c") plainDto
        (.start (sampleTables .sequential))) := by
  intro h
  have hcomplete : ((streamChat (failingEnvironment [.textDelta (js "hel")] upstreamAborted)
      (js "c") plainDto (.start (sampleTables .sequential))).final.db.messages.any fun row =>
        decide (row.id = (failingEnvironment [.textDelta (js "hel")] upstreamAborted).newId 0 ∧
          row.status = .complete)) = true := by decide +kernel
  obtain ⟨row, hrow, hboth⟩ := List.any_eq_true.mp hcomplete
  obtain ⟨hid, hstatus⟩ := of_decide_eq_true hboth
  rcases h.complete row hrow hid hstatus with hnone | haborted
  · cases hnone
  · cases haborted

end Sample

end Glassbeetle.FailureReports
