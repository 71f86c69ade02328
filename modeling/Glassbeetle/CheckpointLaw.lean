import Glassbeetle.ReplyOutcomes

set_option autoImplicit false

namespace Glassbeetle.CheckpointLaw
open JsText Utf8Text AdapterTypes Database ExecutionChain AsyncGenerator Inference SingleAgentChat
  MemberTurns Completions QuietRuns StreamRecord StreamFinalisation Checkpoints ReplyOutcomes

section Law

variable {ν α : Type} {env : Environment ν} {w₀ : World ν}

/-- What a turn that began in `w₀` has yielded. -/
def ownEvents (w₀ w : World ν) : List SseCompletionEvent := w.emitted.drop w₀.emitted.length

def RowForward (id : JsString) (before after : World ν) : Prop :=
  ∀ old ∈ before.db.messages, ∀ row ∈ after.db.messages, old.id = id → row.id = id →
    Forward old.status row.status

def Quotes (env : Environment ν) (w₀ w : World ν) : Prop :=
  ∀ row ∈ w.db.messages, row.id = env.newId w₀.issued →
    row.content <+: said (ownEvents w₀ w) ∧
      (said (ownEvents w₀ w)).length < row.content.length + 200

def QuotesAll (env : Environment ν) (w₀ w : World ν) : Prop :=
  env.aborted w.clock = false → ∀ row ∈ w.db.messages, row.id = env.newId w₀.issued →
    row.content = said (ownEvents w₀ w)

structure Lawful (env : Environment ν) (w₀ : World ν)
    (t : Trace (World ν) SseCompletionEvent Failure α) : Prop where
  received : ∀ y ∈ t.yields, Received env w₀ (ownEvents w₀ y.2)
  stored : ∀ y ∈ t.yields, Quotes env w₀ y.2
  forward : (t.yields.map Prod.snd ++ [t.final]).Pairwise (RowForward (env.newId w₀.issued))
  ended : QuotesAll env w₀ t.final

/-- No surrogate without its other half, so that the text is read back as it was written. -/
def Intact (text : JsString) : Prop := wellFormed text = true

instance (text : JsString) : Decidable (Intact text) := inferInstanceAs (Decidable (_ = true))

theorem intact_nil : Intact [] := rfl

theorem ownEvents_eq (w : World ν) (own : List SseCompletionEvent)
    (h : w.emitted = w₀.emitted ++ own) : ownEvents w₀ w = own := by
  unfold ownEvents
  rw [h, List.drop_left]

theorem yielded_standing (g : Run ν α) (hlogs : Logs g) (k : ℕ)
    (y : SseCompletionEvent × World ν) (hy : (g w₀).yields[k]? = some y)
    (hcheck : AtCheckpoint env w₀ Intact y.1 y.2) (row : MessageRow) (hrow : row ∈ y.2.db.messages)
    (hid : row.id = env.newId w₀.issued) :
    row.status = standing ((events (g w₀)).take (k + 1)) := by
  obtain ⟨own, hemitted, -, hrows⟩ := hcheck
  obtain ⟨_, -, -, htallies⟩ := hrows row hrow hid
  rw [htallies.status]
  exact congrArg standing (List.append_cancel_left (hemitted.symm.trans (hlogs.yielded w₀ k y hy)))

theorem standing_take (events : List SseCompletionEvent) (m n : ℕ) (h : m ≤ n) :
    Forward (standing (events.take m)) (standing (events.take n)) := by
  obtain ⟨more, hmore⟩ := List.take_prefix_take_left h
  rw [← hmore]
  exact standing_forward _ _

theorem closed_forward (g : Run ν α) (hlogs : Logs g) (hclosed : Closed env w₀ Intact (g w₀).final)
    (row : MessageRow) (hrow : row ∈ (g w₀).final.db.messages)
    (hid : row.id = env.newId w₀.issued) : Forward (standing (events (g w₀))) row.status := by
  rcases hclosed with hnothing | ⟨_, _, status, _, own, h, hforward, -⟩
  · exact absurd hid (hnothing.rows row hrow)
  · rw [(h.held row hrow hid).1, List.append_cancel_left ((hlogs.emitted w₀).symm.trans h.emitted)]
    exact hforward

theorem lawful_of_closed (g : Run ν α) (hlogs : Logs g)
    (hyields : ∀ y ∈ (g w₀).yields, AtCheckpoint env w₀ Intact y.1 y.2)
    (hclosed : Closed env w₀ Intact (g w₀).final) : Lawful env w₀ (g w₀) := by
  refine ⟨fun y hy => ?_, fun y hy row hrow hid => ?_, ?_, fun hpresent row hrow hid => ?_⟩
  · obtain ⟨own, hemitted, hreceived, -⟩ := hyields y hy
    rw [ownEvents_eq y.2 own hemitted]
    exact hreceived
  · obtain ⟨own, hemitted, -, hrows⟩ := hyields y hy
    obtain ⟨content, hcontent, hintact, htallies⟩ := hrows row hrow hid
    rw [ownEvents_eq y.2 own hemitted, hcontent, (stored_eq_self content).mpr hintact]
    exact ⟨htallies.kept, htallies.close⟩
  · rw [List.pairwise_append]
    refine ⟨?_, List.pairwise_singleton _ _, ?_⟩
    · rw [List.pairwise_map, List.pairwise_iff_getElem]
      intro i j hi hj hij old hold row hrow holdId hid
      have hat := hyields _ (List.getElem_mem hi)
      have hat' := hyields _ (List.getElem_mem hj)
      rw [yielded_standing g hlogs i _ (List.getElem?_eq_getElem hi) hat old hold holdId,
        yielded_standing g hlogs j _ (List.getElem?_eq_getElem hj) hat' row hrow hid]
      exact standing_take _ _ _ (by omega)
    · intro w hw last hlast old hold row hrow holdId hid
      obtain ⟨y, hy, rfl⟩ := List.mem_map.mp hw
      obtain rfl := List.mem_singleton.mp hlast
      obtain ⟨k, hk⟩ := List.getElem?_of_mem hy
      rw [yielded_standing g hlogs k y hk (hyields y hy) old hold holdId]
      refine forward_trans _ _ _ ?_ (closed_forward g hlogs hclosed row hrow hid)
      obtain ⟨more, hmore⟩ := List.take_prefix (k + 1) (events (g w₀))
      nth_rewrite 2 [← hmore]
      exact standing_forward _ _
  · rcases hclosed with hnothing | ⟨_, _, _, content, own, h, -, hsaid⟩
    · exact absurd hid (hnothing.rows row hrow)
    · rw [hpresent] at hsaid
      obtain ⟨hsaid, hintact⟩ := hsaid.resolve_left Bool.false_ne_true
      rw [ownEvents_eq _ own h.emitted, (h.held row hrow hid).2,
        (stored_eq_self content).mpr hintact, hsaid]

end Law

section Sufficiency

variable {ν : Type} {env : Environment ν} {w₀ : World ν} (hleft : LeftAlone env)
  (hfresh : Fresh env w₀) (hlower : abortLike env.toLowerCase foreignKeyFailed = false)
  (chat : ChatRow) (dto : CreateCompletionDto ν)

/-- No failure of the provider that is taken for the client's own comes before the first text. -/
def Spared (env : Environment ν) (w₀ : World ν) (chat : ChatRow) (dto : CreateCompletionDto ν) :
    Prop :=
  ∀ agent execution prompt, Opens env w₀ chat dto agent execution prompt →
    (reply env w₀ dto agent execution prompt).content = [] →
    ∀ failure, (reply env w₀ dto agent execution prompt).failure = some failure →
      abortLike env.toLowerCase failure = false

/-- No text that the rule of the flushes picks ends between the halves of a surrogate pair or has
a lone surrogate in it. -/
def RepliesIntact (env : Environment ν) (w₀ : World ν) (chat : ChatRow)
    (dto : CreateCompletionDto ν) : Prop :=
  ∀ agent execution prompt, Opens env w₀ chat dto agent execution prompt →
    ∀ text ∈ (course env w₀ (answer env w₀ dto agent execution prompt)).written env, Intact text

def TurnsIntact (env : Environment ν) (w₀ : World ν) (chat : ChatRow) (dto : CreateCompletionDto ν)
    (turn : Turn) : Prop :=
  ∀ prepared, TurnOpens env w₀ chat dto turn prepared →
    ∀ text ∈ (course env w₀ (turnAnswer env w₀ prepared)).written env, Intact text

theorem closed_stopped {G : JsString → Prop} (own : List SseCompletionEvent)
    (hunderWay : ∀ event ∈ own, underWay event = true) (w : World ν)
    (h : Stopped env w₀ 1 own w) : Closed env w₀ G w := by
  have hgone := stopped_gone w h
  obtain ⟨moment, status, content, hended, h, -⟩ := h
  exact .inr ⟨1, moment, status, content, own, h, standing_forward_ended own hunderWay status hended,
    .inl hgone⟩

/-- What has been said is written in the end, unless a failure is taken for the client's own before
any text has come. -/
theorem closed_outcome {G : JsString → Prop} (execution : Execution ν) (d : Delivery) (w : World ν)
    (h : Outcome env w₀ G execution d w)
    (hspared : env.aborted w.clock = true ∨ (d.content = [] → ∀ failure,
      d.failure = some failure → abortLike env.toLowerCase failure = false)) :
    Closed env w₀ G w := by
  cases h with
  | stopped own hunderWay h => exact closed_stopped own hunderWay w h
  | replied moment own status hnone hsaid hcontent hstanding hended h =>
    exact closed_full _ _ _ _ own w h (.inl hstanding) hsaid hcontent
  | failed own failure hfailure hunderWay hsaid hcontent h =>
    cases h with
    | stopped h => exact closed_stopped own hunderWay w h
    | reported moment hplain h =>
      refine closed_full _ _ _ _ _ w h (.inl (standing_concat own _ hunderWay _ _ rfl)) ?_ hcontent
      rw [said_append, hsaid]
      exact List.append_nil _
    | taken moment habort h =>
      have hforward := standing_forward_ended own hunderWay _ (leftStatus_ended d.content)
      refine .inr ⟨_, _, _, _, own, h, hforward, hspared.imp_right fun hspared => ?_⟩
      unfold leftContent
      split_ifs with hempty
      · exact ⟨hsaid, hcontent⟩
      · have hplain := hspared (not_not.mp hempty) failure hfailure
        exact absurd (hplain.symm.trans habort) Bool.false_ne_true

include hleft hfresh hlower

theorem opened_ends {G : JsString → Prop} (hempty : G []) (agent : AgentRow ν)
    (execution : Execution ν) (prompt : Prompt)
    (hopens : Opens env w₀ chat dto agent execution prompt)
    (hG : ∀ text ∈ (course env w₀ (answer env w₀ dto agent execution prompt)).written env, G text) :
    Outcome env w₀ G execution (reply env w₀ dto agent execution prompt)
      (streamAgentChat env chat dto w₀).final := by
  have honly : ∀ agent' execution' prompt', Opens env w₀ chat dto agent' execution' prompt' →
      agent' = agent ∧ execution' = execution ∧ prompt' = prompt := by
    intro agent' execution' prompt' h
    obtain ⟨rfl, rfl⟩ := Prod.mk.inj (Except.ok.inj (h.chain.symm.trans hopens.chain))
    exact ⟨rfl, rfl, Except.ok.inj (h.context.symm.trans hopens.context)⟩
  have hall : ∀ agent execution prompt, Opens env w₀ chat dto agent execution prompt →
      ∀ text ∈ (course env w₀ (answer env w₀ dto agent execution prompt)).written env, G text := by
    intro agent' execution' prompt' h
    obtain ⟨rfl, rfl, rfl⟩ := honly agent' execution' prompt' h
    exact hG
  obtain ⟨-, hresult⟩ := agentChat_outcome hleft hfresh hlower hempty chat dto hall w₀
    ⟨rfl, rfl, rfl, rfl, rfl⟩
  split at hresult
  · obtain ⟨agent', execution', prompt', hopens', houtcome⟩ := hresult
    obtain ⟨rfl, rfl, rfl⟩ := honly agent' execution' prompt' hopens'
    exact houtcome
  · exact absurd hopens (hresult.1 agent execution prompt)

theorem agentChat_lawful
    (hspared : env.aborted (streamAgentChat env chat dto w₀).final.clock = true ∨
      Spared env w₀ chat dto) (hintact : RepliesIntact env w₀ chat dto) :
    Lawful env w₀ (streamAgentChat env chat dto w₀) := by
  obtain ⟨hyields, hresult⟩ := agentChat_outcome hleft hfresh hlower intact_nil chat dto
    hintact w₀ ⟨rfl, rfl, rfl, rfl, rfl⟩
  refine lawful_of_closed (streamAgentChat env chat dto) (logs_streamAgentChat chat dto) hyields ?_
  split at hresult
  · obtain ⟨agent, execution, prompt, hopens, houtcome⟩ := hresult
    exact closed_outcome execution _ _ houtcome
      (hspared.imp_right fun h => h agent execution prompt hopens)
  · exact .inl hresult.2

omit hlower in
theorem memberTurn_lawful (turn : Turn) (hintact : TurnsIntact env w₀ chat dto turn) :
    Lawful env w₀ (streamMemberTurn env chat dto turn w₀) := by
  obtain ⟨hyields, hresult⟩ :=
    memberTurn_closed hleft chat hfresh intact_nil dto turn hintact w₀ ⟨rfl, rfl, rfl, rfl, rfl⟩
  refine lawful_of_closed (streamMemberTurn env chat dto turn) (logs_streamMemberTurn chat dto turn)
    hyields ?_
  split at hresult
  · exact hresult
  · exact hresult

end Sufficiency

section Necessity

variable {ν : Type} {env : Environment ν} {w₀ : World ν} {sent moment : ℕ} {status : MessageStatus}
  {content : JsString} {own : List SseCompletionEvent} {F : World ν → Prop} (hleft : LeftAlone env)
  (hkept : RowsKept env) (chat : ChatRow) (row : MessageRow) (hrow : row.id = env.newId w₀.issued)

/-- A row that quotes what was said has been given a text that is read back as it was written. -/
theorem intact_of_prefix (text spoken : JsString) (htext : text <+: spoken)
    (hstored : stored text <+: spoken) : Intact text := by
  have hsame : stored text <+: text :=
    List.prefix_of_prefix_length_le hstored htext (stored_length text).le
  exact (stored_eq_self text).mp (hsame.eq_of_length (stored_length text))

include hkept

theorem reveals_event (event : SseCompletionEvent) (hcontent : content <+: said (own ++ [event])) :
    Reveals (Stands env w₀ sent moment status content own) (yieldEvent env event)
      (fun _ => Quotes env w₀) F (Intact content) := by
  have hemit : Triple (Stands env w₀ sent moment status content own)
      (Gen.modify fun w => { w with emitted := w.emitted ++ [event] } : Run ν Unit)
      (fun _ _ => True) (fun _ => Stands env w₀ sent moment status content (own ++ [event]))
      fun _ _ => False := by
    refine triple_modify _ fun w hw => ⟨hw.held, hw.present, ?_, hw.requests, hw.clock⟩
    change w.emitted ++ [event] = _
    rw [hw.emitted, List.append_assoc]
  refine reveals_step _ _ hemit fun _ => reveals_first _ _ (reveals_emit event fun w hw hquotes => ?_)
  obtain ⟨row, hrow, hid⟩ := hw.present hkept
  have hquoted := (hquotes row hrow hid).1
  rw [(hw.held row hrow hid).2, ownEvents_eq w _ hw.emitted] at hquoted
  exact intact_of_prefix content _ hcontent hquoted

theorem intact_of_all (w : World ν) (hpresent : env.aborted moment = false) (hsaid : said own = content)
    (h : Stands env w₀ sent moment status content own w) (hall : QuotesAll env w₀ w) :
    Intact content := by
  obtain ⟨row, hrow, hid⟩ := h.present hkept
  have hcontent := hall (by rw [h.clock]; exact hpresent) row hrow hid
  rw [(h.held row hrow hid).2, ownEvents_eq w own h.emitted, hsaid] at hcontent
  exact (stored_eq_self content).mp hcontent

include hrow

include hleft in
theorem reveals_readStream (deltas : List JsString)
    (hreceived : ∀ own, tokenTexts own <+: deltas → Received env w₀ own)
    (ending : Option Failure) (script : List (StreamEvent JsString ℤ)) (moment : ℕ) (p : Progress)
    (own : List SseCompletionEvent) (htracks : Tracks deltas own p)
    (hdeltas : tokenTexts own ++ textDeltas script = deltas) :
    Reveals (Stored env w₀ sent moment p own) (readStream env chat row ending script p)
      (fun _ => Quotes env w₀) (fun _ => True)
      (∀ text ∈ (replay env ending script moment p).texts, Intact text) := by
  induction script generalizing moment p own with
  | nil => exact reveals_known _ (List.forall_mem_nil _)
  | cons event rest ih =>
    have hyield (event : SseCompletionEvent) (p : Progress) (own : List SseCompletionEvent)
        (h : Tracks deltas (own ++ [event]) p) :
        Triple (Stored env w₀ sent (moment + 1) p own) (yieldEvent env event) (fun _ _ => True)
          (fun _ => Stored env w₀ sent (moment + 2) p (own ++ [event])) fun _ _ => False :=
      triple_forget (stands_yield (G := fun _ => True) hleft event (hreceived _ h.received) trivial
        (tracks_tallies h))
    refine reveals_step _ _ (stands_suspend hleft) fun _ => reveals_step _ _ stands_aborted fun b =>
      reveals_intro _ fun hb => ?_
    subst hb
    rw [replay.eq_def]
    dsimp only
    split_ifs with haborted
    · exact reveals_known _ (List.forall_mem_nil _)
    · cases event with
      | textDelta delta =>
        have htracks' := tracks_token row.id delta _ htracks
          (absorb_advanced env (moment + 1) delta htracks) hdeltas
        refine reveals_step _ _ (stored_delta chat row hrow (moment + 1) p delta deltas htracks)
          fun p' => reveals_intro _ fun hp' => ?_
        subst hp'
        rw [List.forall_mem_cons]
        refine reveals_and _ (reveals_first _ _ (reveals_event hkept (.token row.id delta)
          (tracks_tallies htracks').kept)) (reveals_step _ _ (hyield _ _ _ htracks')
            fun _ => ih (moment + 2) _ _ htracks' ?_)
        rw [tokenTexts_append, List.append_assoc]
        exact hdeltas
      | thoughtDelta thought =>
        have htracks' := tracks_textless (.thought row.id thought) htracks rfl rfl
        refine reveals_step _ _ (hyield _ _ _ htracks') fun _ => ih (moment + 2) p _ htracks' ?_
        rw [tokenTexts_append, List.append_assoc]
        exact hdeltas
      | usage usage =>
        exact ih (moment + 1) { p with reportedUsage := some usage } own ⟨htracks.underWay,
          htracks.content, htracks.status, htracks.flushed, htracks.close, htracks.received⟩ hdeltas
      | complete reason usage data =>
        exact ih (moment + 1) { p with reportedUsage := usage.or p.reportedUsage } own
          ⟨htracks.underWay, htracks.content, htracks.status, htracks.flushed, htracks.close,
            htracks.received⟩ hdeltas
      | error error => exact reveals_known _ (List.forall_mem_nil _)

theorem reveals_report {α : Type} (p : Progress) (newStatus : MessageStatus) (tokenCount : Option ℤ)
    (event : SseCompletionEvent) (htext : tokenText event = none)
    (hsaid : said own = p.accumulatedContent) (f : Progress → Unit → Run ν α) :
    Reveals (Stands env w₀ sent moment status content own)
      (flushPartial env chat row p newStatus tokenCount >>= fun p' => yieldEvent env event >>= f p')
      (fun _ => Quotes env w₀) F (Intact p.accumulatedContent) := by
  refine reveals_step _ _ (stands_flush chat row p newStatus tokenCount hrow) fun p' =>
    reveals_intro _ fun _ => reveals_first _ _ (reveals_event hkept event ?_)
  rw [said_concat event htext, hsaid]

/-- A text that is left behind for the client's own doing is told by the end. -/
theorem reveals_left {α : Type} (p : Progress) (hpresent : env.aborted moment = false)
    (hsaid : said own = p.accumulatedContent) (f : Progress → Run ν α)
    (hf : ∀ p' w, (f p' w).final = w) :
    Reveals (Stands env w₀ sent moment status content own) (finishAborted env chat row p >>= f)
      (fun _ => Quotes env w₀) (QuotesAll env w₀) (Intact p.accumulatedContent) := by
  have hkeep : ∀ p' (P : World ν → Prop), Triple P (f p') (fun _ _ => True) (fun _ => P) fun _ => P := by
    intro p' P w hw
    refine ⟨fun _ _ => trivial, ?_⟩
    rw [hf]
    split <;> exact hw
  have hleave : Triple (Stands env w₀ sent moment status content own)
      (finishAborted env chat row p >>= f) (fun _ _ => True)
      (fun _ => Stands env w₀ sent moment (leftStatus p.accumulatedContent)
        (leftContent p.accumulatedContent) own)
      (fun _ => Stands env w₀ sent moment (leftStatus p.accumulatedContent)
        (leftContent p.accumulatedContent) own) :=
    triple_bind _ _ (stands_finishAborted chat row hrow p) fun p' => hkeep p' _
  have hend : ∀ w, Stands env w₀ sent moment (leftStatus p.accumulatedContent)
      (leftContent p.accumulatedContent) own w → QuotesAll env w₀ w →
      Intact p.accumulatedContent := by
    intro w hw hall
    unfold leftContent at hw
    split_ifs at hw with hempty
    · exact intact_of_all hkept w hpresent hsaid hw hall
    · rw [not_not.mp hempty]
      exact intact_nil
  exact reveals_final _ hleave (fun _ => hend) fun _ => hend

theorem reveals_onFailure (execution : Execution ν) (p : Progress) (failure : Failure)
    (hpresent : env.aborted moment = false) (hsaid : said own = p.accumulatedContent) :
    Reveals (Stands env w₀ sent moment status content own)
      (onFailure env chat row execution p failure) (fun _ => Quotes env w₀) (QuotesAll env w₀)
      (Intact p.accumulatedContent) := by
  refine reveals_step _ _ (stands_note _) fun _ => reveals_step _ _ stands_aborted fun b =>
    reveals_intro _ fun hb => ?_
  split_ifs
  · exact reveals_left hkept chat row hrow p hpresent hsaid _ fun _ _ => rfl
  · exact reveals_report hkept chat row hrow p .error p.outputTokens _ rfl hsaid _

theorem reveals_completion (agent : AgentRow ν) (execution : Execution ν) (p : Progress)
    (hpresent : env.aborted moment = false) (hsaid : said own = p.accumulatedContent) :
    Reveals (Stands env w₀ sent moment status content own)
      (do
        let p ← flushPartial env chat row p .complete p.outputTokens
        match ← Gen.attempt (recordUsage env chat agent execution p.reportedUsage) with
        | .error failure => onFailure env chat row execution p failure
        | .ok () => announceReply env row p) (fun _ => Quotes env w₀) (QuotesAll env w₀)
      (Intact p.accumulatedContent) := by
  refine reveals_step _ _ (stands_flush chat row p .complete _ hrow) fun p' =>
    reveals_intro _ fun hp' => ?_
  subst hp'
  have hrecord : Triple (Stands env w₀ sent moment .complete p.accumulatedContent own)
      (Gen.attempt (recordUsage env chat agent execution p.reportedUsage)) (fun _ _ => True)
      (fun _ => Stands env w₀ sent moment .complete p.accumulatedContent own) fun _ _ => False :=
    triple_attempt _ (stands_recordUsage chat agent execution _) (fun _ _ h => h) fun _ _ h => h.2
  refine reveals_step _ _ hrecord fun r => ?_
  cases r with
  | error failure =>
    exact reveals_onFailure hkept chat row hrow execution (flushed env moment p .complete)
      failure hpresent hsaid
  | ok _ =>
    unfold announceReply yieldUsage
    have hspoken (event : SseCompletionEvent) (htext : tokenText event = none) :
        p.accumulatedContent <+: said (own ++ [event]) := by
      rw [said_concat event htext, hsaid]
    cases hu : (flushed env moment p .complete).reportedUsage with
    | none =>
      dsimp only
      rw [Gen.pure_bind]
      exact reveals_first _ _ (reveals_event hkept _ (hspoken _ rfl))
    | some usage => exact reveals_first _ _ (reveals_event hkept _ (hspoken _ rfl))

theorem reveals_finishTurn (prepared : PreparedTurn ν) (p : Progress) (turnError : Option Failure)
    (hpresent : env.aborted moment = false) (hsaid : said own = p.accumulatedContent) :
    Reveals (Stands env w₀ sent moment status content own)
      (finishTurn env chat prepared row p turnError) (fun _ => Quotes env w₀) (QuotesAll env w₀)
      (Intact p.accumulatedContent) := by
  refine reveals_step _ _ stands_aborted fun b => reveals_intro _ fun hb => ?_
  rw [hb, hpresent, if_neg Bool.false_ne_true]
  cases turnError with
  | some failure =>
    exact reveals_report hkept chat row hrow p .error p.outputTokens
      (.error (env.errorPayload prepared.execution failure)) rfl hsaid _
  | none =>
    refine reveals_step _ _ (stands_flush chat row p .complete _ hrow) fun p' =>
      reveals_intro _ fun _ => reveals_step _ _ (stands_note _) fun _ => reveals_bind _ _
        (triple_forget (Y := fun _ _ => True) (stands_recordUsage chat prepared.agent
          prepared.execution _)) (fun _ => reveals_first _ _ (reveals_event hkept _ ?_))
        fun _ w h hall => intact_of_all hkept w hpresent hsaid h.2 hall
    rw [said_concat _ rfl, hsaid]

include hleft in
/-- The law tells of every text written while the client is there that it is intact. -/
theorem reveals_written {α : Type} (script : Script) (first : SseCompletionEvent)
    (hfirst : underWay first = true) (htext : tokenText first = none)
    (hreceived : ∀ own, tokenTexts own <+: textDeltas script.events → Received env w₀ own)
    (f : Progress × Option Failure → Run ν α)
    (hf : ∀ own, said own = (course env w₀ script).progress.accumulatedContent →
      env.aborted (course env w₀ script).moment = false →
      Reveals (Stored env w₀ sent (course env w₀ script).moment (course env w₀ script).progress own)
        (f ((course env w₀ script).progress, (course env w₀ script).failure))
        (fun _ => Quotes env w₀) (QuotesAll env w₀)
        (Intact (course env w₀ script).progress.accumulatedContent)) :
    Reveals (Stands env w₀ sent (w₀.clock + 1) .pending [] [first])
      (readStream env chat row script.ending script.events (.start (env.now (w₀.clock + 1))) >>= f)
      (fun _ => Quotes env w₀) (QuotesAll env w₀)
      (∀ text ∈ (course env w₀ script).written env, Intact text) := by
  have hstart := tracks_start (textDeltas script.events) first (env.now (w₀.clock + 1)) hfirst htext
  have hdeltas : tokenTexts [first] ++ textDeltas script.events = textDeltas script.events := by
    unfold tokenTexts
    rw [List.filterMap_cons_none htext]
    rfl
  unfold Replay.written
  rw [List.forall_mem_append]
  refine reveals_and _ (reveals_first _ _ (reveals_readStream hleft hkept chat row hrow _ hreceived
    script.ending script.events (w₀.clock + 1) _ [first] hstart hdeltas)) ?_
  cases haborted : env.aborted (course env w₀ script).moment with
  | true => exact reveals_known _ (List.forall_mem_nil _)
  | false =>
    rw [if_neg Bool.false_ne_true, List.forall_mem_singleton]
    have hread : Triple (Stands env w₀ sent (w₀.clock + 1) .pending [] [first])
        (readStream env chat row script.ending script.events (.start (env.now (w₀.clock + 1))))
        (fun _ _ => True) _ fun _ _ => False :=
      triple_forget (stored_readStream (G := fun _ => True) hleft chat row hrow _ hreceived
        script.ending script.events (w₀.clock + 1) (.start (env.now (w₀.clock + 1))) [first] hstart
        hdeltas trivial fun _ _ => trivial)
    refine reveals_step _ _ hread fun out => reveals_intro _ fun hout => reveals_exists _ fun own =>
      reveals_intro _ fun htracks => ?_
    subst hout
    exact hf own htracks.content haborted

end Necessity

section Exactness

variable {ν : Type} {env : Environment ν} {w₀ : World ν} (hleft : LeftAlone env)
  (hkept : RowsKept env) (hfresh : Fresh env w₀) (chat : ChatRow) (dto : CreateCompletionDto ν)

include hleft hkept hfresh

theorem repliesIntact_of_lawful (hlaw : Lawful env w₀ (streamAgentChat env chat dto w₀)) :
    RepliesIntact env w₀ chat dto := by
  intro agent execution prompt hopens
  have hreveals : Reveals (Begun w₀) (streamAgentChat env chat dto) (fun _ => Quotes env w₀)
      (QuotesAll env w₀)
      (∀ text ∈ (course env w₀ (answer env w₀ dto agent execution prompt)).written env,
        Intact text) := by
    refine reveals_bind_read _ fun s hs => ?_
    rw [hs.db, hopens.chain]
    refine reveals_bind_lift _ _ _ rfl (reveals_bind_read _ fun t ht => ?_)
    rw [ht, hs.clock, hopens.present, if_neg Bool.false_ne_true]
    refine reveals_bind_lift _ _ _ hopens.adapter ?_
    rw [if_neg (by exact Bool.false_ne_true)]
    refine reveals_bind_lift _ _ _ hopens.context ?_
    refine reveals_step _ _ (triple_conseq _ (stands_create hfresh chat agent) (fun w hw => hw ▸ hs)
      (fun _ _ h => h) fun _ _ h => h.1 hopens.row) fun row => reveals_intro _ fun hrow =>
        reveals_intro _ fun _ => ?_
    have hreceived (own : List SseCompletionEvent) (h : tokenTexts own <+:
        textDeltas (answer env w₀ dto agent execution prompt).events) : Received env w₀ own :=
      ⟨_, _, h⟩
    refine reveals_step _ _ (triple_forget (stands_yield (G := fun _ => True) hleft
      (.messageStart row.id chat.id row.sequence agent.id agent.name) (hreceived _ List.nil_prefix)
      trivial (tallies_full rfl rfl))) fun _ => reveals_bind_read _ fun r hr => ?_
    have hrequests : r.requests.length = w₀.requests.length := hr.requests
    dsimp only
    rw [hrequests, hr.clock]
    refine reveals_step _ _ (triple_conseq _ (stands_send agent.id _) (fun w hw => hw ▸ hr)
      (fun _ _ h => h) fun _ _ h => h) fun _ => reveals_written hleft hkept chat row hrow
        (answer env w₀ dto agent execution prompt) _ rfl rfl hreceived _ fun own hsaid hpresent => ?_
    cases (course env w₀ (answer env w₀ dto agent execution prompt)).failure with
    | some failure => exact reveals_onFailure hkept chat row hrow execution _ failure hpresent hsaid
    | none =>
      refine reveals_step _ _ stands_aborted fun b => reveals_intro _ fun hb => ?_
      rw [hb, hpresent, if_neg Bool.false_ne_true]
      exact reveals_completion hkept chat row hrow agent execution _ hpresent hsaid
  exact hreveals w₀ ⟨rfl, rfl, rfl, rfl, rfl⟩ hlaw.stored hlaw.ended

theorem turnsIntact_of_lawful (turn : Turn)
    (hlaw : Lawful env w₀ (streamMemberTurn env chat dto turn w₀)) :
    TurnsIntact env w₀ chat dto turn := by
  intro prepared hopens
  have hreveals : Reveals (Begun w₀) (streamMemberTurn env chat dto turn) (fun _ => Quotes env w₀)
      (QuotesAll env w₀)
      (∀ text ∈ (course env w₀ (turnAnswer env w₀ prepared)).written env, Intact text) := by
    have hnote : Triple (Begun w₀) (note fun w => .turn w.clock w.db chat turn) (fun _ _ => True)
        (fun _ => Begun w₀) fun _ _ => False := by
      refine triple_modify _ fun w hw => ?_
      split_ifs
      · exact hw
      · exact ⟨hw.db, hw.clock, hw.issued, hw.emitted, hw.requests⟩
    refine reveals_step _ _ hnote fun _ => reveals_bind_read _ fun s hs => ?_
    rw [hs.db]
    refine reveals_bind_lift _ _ _ hopens.ready ?_
    refine reveals_step _ _ (triple_conseq _ (stands_create hfresh chat prepared.agent)
      (fun w hw => hw ▸ hs) (fun _ _ h => h) fun _ _ h => h.1 hopens.row) fun row =>
        reveals_intro _ fun hrow => reveals_intro _ fun _ => ?_
    have hreceived (own : List SseCompletionEvent) (h : tokenTexts own <+:
        textDeltas (turnAnswer env w₀ prepared).events) : Received env w₀ own := ⟨_, _, h⟩
    refine reveals_step _ _ (triple_forget (stands_yield (G := fun _ => True) hleft
      (.messageStart row.id chat.id row.sequence prepared.agent.id (speakerName turn.member))
      (hreceived _ List.nil_prefix) trivial (tallies_full rfl rfl))) fun _ =>
        reveals_bind_read _ fun r hr => ?_
    have hrequests : r.requests.length = w₀.requests.length := hr.requests
    refine reveals_step _ _ (triple_conseq _ (stands_note _) (fun w hw => hw ▸ hr)
      (fun _ _ h => h) fun _ _ h => h) fun _ => ?_
    dsimp only
    rw [hrequests, hr.clock]
    obtain ⟨streaming, hstreaming⟩ := hopens.adapter
    refine reveals_bind_lift _ _ _ hstreaming ?_
    exact reveals_step _ _ (stands_send _ _) fun _ => reveals_written hleft hkept chat row hrow
      (turnAnswer env w₀ prepared) _ rfl rfl hreceived _ fun own hsaid hpresent =>
        reveals_finishTurn hkept chat row hrow prepared _ _ hpresent hsaid
  exact hreveals w₀ ⟨rfl, rfl, rfl, rfl, rfl⟩ hlaw.stored hlaw.ended

/-- A failure that is taken for the client's own leaves a text nobody has said. -/
theorem spared_of_lawful (hlower : abortLike env.toLowerCase foreignKeyFailed = false)
    (hlaw : Lawful env w₀ (streamAgentChat env chat dto w₀)) :
    env.aborted (streamAgentChat env chat dto w₀).final.clock = true ∨ Spared env w₀ chat dto := by
  cases hpresent : env.aborted (streamAgentChat env chat dto w₀).final.clock with
  | true => exact .inl rfl
  | false =>
    refine .inr fun agent execution prompt hopens hempty failure hfailure => ?_
    have houtcome := opened_ends (G := fun _ => True) hleft hfresh hlower chat dto trivial agent
      execution prompt hopens fun _ _ => trivial
    have hstays (own : List SseCompletionEvent)
        (h : Stopped env w₀ 1 own (streamAgentChat env chat dto w₀).final) : False :=
      Bool.false_ne_true (hpresent.symm.trans (stopped_gone _ h))
    cases houtcome with
    | stopped own hunderWay h => exact (hstays own h).elim
    | replied moment own status hnone hsaid hcontent hstanding hended h =>
      rw [hnone] at hfailure
      cases hfailure
    | failed own failure' hfailure' hunderWay hsaid hcontent h =>
      obtain rfl := Option.some.inj (hfailure'.symm.trans hfailure)
      cases h with
      | stopped h => exact (hstays own h).elim
      | reported moment hplain h => exact hplain
      | taken moment habort h =>
        obtain ⟨row, hrow, hid⟩ := h.present hkept
        have hheld := (h.held row hrow hid).2
        rw [hlaw.ended hpresent row hrow hid, ownEvents_eq _ own h.emitted, hsaid, hempty] at hheld
        cases hheld

end Exactness

/-- A turn of a team obeys the law if no text written of it is torn; the stream of an agent's chat if
in addition no failure is taken for the client's own before the first text. Either breaks it as
long as nobody deletes the row. -/
theorem checkpoint_law {ν : Type} (env : Environment ν) (w₀ : World ν) (hleft : LeftAlone env)
    (hfresh : Fresh env w₀) (hlower : abortLike env.toLowerCase foreignKeyFailed = false)
    (chatId : JsString) (owned : ChatRow) (hchat : w₀.db.chat chatId = some owned)
    (hagent : owned.teamId = none) (dto : CreateCompletionDto ν) :
    (∀ chat turn,
      (TurnsIntact env w₀ chat dto turn → Lawful env w₀ (streamMemberTurn env chat dto turn w₀)) ∧
      (RowsKept env → Lawful env w₀ (streamMemberTurn env chat dto turn w₀) →
        TurnsIntact env w₀ chat dto turn)) ∧
      ((env.aborted (streamChat env chatId dto w₀).final.clock = true ∨ Spared env w₀ owned dto) ∧
        RepliesIntact env w₀ owned dto → Lawful env w₀ (streamChat env chatId dto w₀)) ∧
      (RowsKept env → Lawful env w₀ (streamChat env chatId dto w₀) →
        (env.aborted (streamChat env chatId dto w₀).final.clock = true ∨ Spared env w₀ owned dto) ∧
          RepliesIntact env w₀ owned dto) := by
  rw [streamChat_agent env owned dto chatId w₀ hchat hagent]
  refine ⟨fun chat turn => ⟨memberTurn_lawful hleft hfresh chat dto turn, fun hkept =>
    turnsIntact_of_lawful hleft hkept hfresh chat dto turn⟩, fun h => ?_, fun hkept hlaw => ?_⟩
  · exact agentChat_lawful hleft hfresh hlower owned dto h.1 h.2
  · exact ⟨spared_of_lawful hleft hkept hfresh owned dto hlower hlaw,
      repliesIntact_of_lawful hleft hkept hfresh owned dto hlaw⟩


theorem checkpoint_law_reply :
    Lawful (sampleEnvironment (fun _ => js "hello") none) (.start (sampleTables .sequential))
      (streamChat (sampleEnvironment (fun _ => js "hello") none) (js "c") plainDto
        (.start (sampleTables .sequential))) :=
  (checkpoint_law (sampleEnvironment (fun _ => js "hello") none) (.start (sampleTables .sequential))
    (fun _ _ _ row h _ => ⟨row, h, rfl, rfl, rfl⟩)
    (fun row h => sampleTables_fresh .sequential _ none row h 0) (by decide) (js "c") _ rfl rfl
    plainDto).2.1 ⟨.inr fun _ _ _ _ _ _ hfailure => (nomatch hfailure),
      fun _ _ _ _ => each_of_all _ rfl⟩

def failingEnvironment (events : List (StreamEvent JsString ℤ)) (failure : Failure) :
    Environment ℤ :=
  .alone sampleRuntime (fun _ _ => .error failure) fun _ _ => ⟨events, some failure⟩

def upstreamAborted : Failure :=
  .adapter (providerUnavailableError (js "Upstream connection aborted") (some (js "ollama")))

/-- The provider fails before any text, the client stays, and the row says what nobody has said. -/
theorem unsaid_text_stored :
    ¬Lawful (failingEnvironment [] upstreamAborted) (.start (sampleTables .sequential))
      (streamChat (failingEnvironment [] upstreamAborted) (js "c") plainDto
        (.start (sampleTables .sequential))) := by
  intro h
  have hopen : ((streamChat (failingEnvironment [] upstreamAborted) (js "c") plainDto
      (.start (sampleTables .sequential))).final.db.messages.any fun row =>
        decide (row.id = (failingEnvironment [] upstreamAborted).newId 0 ∧
          row.content ≠ said (ownEvents (.start (sampleTables .sequential))
            (streamChat (failingEnvironment [] upstreamAborted) (js "c") plainDto
              (.start (sampleTables .sequential))).final))) = true := by decide +kernel
  obtain ⟨row, hrow, hnot⟩ := List.any_eq_true.mp hopen
  obtain ⟨hid, hcontent⟩ := of_decide_eq_true hnot
  exact hcontent (h.ended rfl row hrow hid)

end Glassbeetle.CheckpointLaw
