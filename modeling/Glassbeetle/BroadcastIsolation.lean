import Glassbeetle.QuietTurns

set_option autoImplicit false

namespace Glassbeetle.BroadcastIsolation
open JsText AdapterTypes Database ExecutionChain AsyncGenerator Inference MemberTurns TeamChat
  Completions Schedules TeamSchedules Transcripts QuietRuns QuietTurns

variable {ν : Type}

structure Beyond (env : Environment ν) (db : Tables ν) (chat : ChatRow) (w : World ν) : Prop where
  setting : SameSetting db w.db
  chat_found : (w.db.chat chat.id).isSome
  earlier : (transcript w.db chat.id).filter
      (heard chat.compactedBeforeSequence (some (db.maxSequence chat.id))) =
    (transcript db chat.id).filter
      (heard chat.compactedBeforeSequence (some (db.maxSequence chat.id)))
  above : db.maxSequence chat.id ≤ w.db.maxSequence chat.id
  fresh : ∀ row ∈ w.db.messages, ∀ n, w.issued ≤ n → row.id ≠ env.newId n

section Boundary

variable (env : Environment ν) (db : Tables ν) (chat : ChatRow) (dto : CreateCompletionDto ν)

theorem beyond_ready (w : World ν) (turn : Turn) (h : Beyond env db chat w)
    (hbound : turn.maxSequence = some (db.maxSequence chat.id)) :
    ready env w.db chat dto turn = ready env db chat dto turn := by
  unfold ready
  rw [prepareTurn_congr env.toRuntime db w.db chat dto turn h.setting (hbound ▸ h.earlier)]

theorem maxSequence_concat (db db' : Tables ν) (row : MessageRow) (events : List UsageEventRow)
    (hnext : row.sequence = db.maxSequence row.chatId + 1) (h : Extended db db' [row] events) :
    db.maxSequence row.chatId ≤ db'.maxSequence row.chatId := by
  have hmem : row ∈ db'.messages := by
    rw [h.messages]
    exact List.mem_append_right _ List.mem_cons_self
  have hle := le_maxSequence db' row.chatId row hmem rfl
  omega

theorem beyond_reply (w w' : World ν) (agentId content createdAt : JsString)
    (status : MessageStatus) (tokenCount : Option ℤ) (events : List UsageEventRow)
    (asked : List (JsString × CompletionRequest ν)) (ids : ℕ) (hids : 0 < ids)
    (h : Beyond env db chat w)
    (hstage : Stage w w' [replyRow w.db chat (env.newId w.issued) agentId content status tokenCount
      createdAt] events asked ids) : Beyond env db chat w' := by
  have hext := hstage.extended
  have habove := h.above
  have hspoken := extended_transcript _ _ _ _ rfl hext
  change transcript w'.db chat.id = transcript w.db chat.id ++ [_] at hspoken
  have hmax := maxSequence_concat _ _ _ _ rfl hext
  refine ⟨sameSetting_trans _ _ _ h.setting hext.setting, (hext.chats chat.id).trans h.chat_found, ?_,
    habove.trans hmax, ?_⟩
  · rw [hspoken, List.filter_append, h.earlier, List.filter_cons_of_neg ?_, List.filter_nil,
      List.append_nil]
    intro hheard
    have hafter := (of_decide_eq_true hheard).2.2.2
    have hlater : db.maxSequence chat.id < w.db.maxSequence chat.id + 1 := by omega
    exact Option.filter_eq_none_iff.mp hafter _ rfl (decide_eq_true hlater)
  · intro row hrow n hn
    rw [hext.messages, List.mem_append, List.mem_singleton] at hrow
    rw [hstage.issued] at hn
    rcases hrow with hrow | rfl
    · exact h.fresh row hrow n (by omega)
    · intro hid
      have := env.newId_injective _ _ hid
      omega

/-- What the members of a broadcast are asked, up to the first who cannot be. -/
def sendable : List TeamMember → List (JsString × CompletionRequest ν)
  | [] => []
  | member :: rest =>
    match ready env db chat dto ⟨member, some (db.maxSequence chat.id), none⟩ with
    | .error _ => []
    | .ok prepared => (prepared.agent.id, prepared.request) :: sendable rest

end Boundary

section Round

variable {env : Environment ν} (db : Tables ν) (chat : ChatRow) (dto : CreateCompletionDto ν)
  {α : Type} (step : Turn → α → Run ν (Option (JsString × α))) (replies : ℕ → Prop)

def Sent (env : Environment ν) (w w' : World ν) (turn : Turn) : Prop :=
  ∃ prepared, ready env w.db chat dto turn = .ok prepared ∧
    w'.requests = w.requests ++ [(prepared.agent.id, prepared.request)]

variable (env) in
def Taken : Prop :=
  ∀ w turn a, Beyond env db chat w →
    Leads (· = w) (step turn a)
      (fun out w' => Sent chat dto env w w' turn ∧ match out with
        | some _ => Beyond env db chat w'
        | none => ¬replies w.requests.length)
      fun failure w' => ready env w.db chat dto turn = .error failure ∧ w'.requests = w.requests ∨
        Sent chat dto env w w' turn ∧ ¬replies w.requests.length

theorem round_requests (htaken : Taken env db chat dto step replies) (members : List TeamMember)
    (a : α) (w : World ν) (hw : Beyond env db chat w) :
    ∃ n, (perform step (pipelineSchedule (fun _ => false) (some (db.maxSequence chat.id)) members) a
        w).final.requests = w.requests ++ (sendable env db chat dto members).take n ∧
      (n < (sendable env db chat dto members).length →
        ∃ m, n = m + 1 ∧ ¬replies (w.requests.length + m)) := by
  induction members generalizing a w with
  | nil => exact ⟨0, (List.append_nil _).symm, fun h => absurd h (Nat.not_lt_zero 0)⟩
  | cons member rest ih =>
    have hready := beyond_ready env db chat dto w
      ⟨member, some (db.maxSequence chat.id), none⟩ hw rfl
    have hturn := (htaken w ⟨member, some (db.maxSequence chat.id), none⟩ a hw w rfl).2
    have hsendable : ∀ w', Sent chat dto env w w'
        ⟨member, some (db.maxSequence chat.id), none⟩ → ∃ request,
          sendable env db chat dto (member :: rest) = request :: sendable env db chat dto rest ∧
            w'.requests = w.requests ++ [request] := by
      rintro w' ⟨prepared, hprepared, hrequests⟩
      rw [hready] at hprepared
      refine ⟨_, ?_, hrequests⟩
      rw [sendable, hprepared]
    unfold pipelineSchedule perform
    cases hresult : (step ⟨member, some (db.maxSequence chat.id), none⟩ a w).result with
    | error failure =>
      rw [hresult] at hturn
      rw [Gen.bind_error _ _ _ _ hresult]
      rcases hturn with ⟨hfailed, hrequests⟩ | ⟨hsent, hnone⟩
      · rw [hready] at hfailed
        have hnothing : sendable env db chat dto (member :: rest) = [] := by rw [sendable, hfailed]
        refine ⟨0, by rw [List.take_zero, List.append_nil]; exact hrequests, fun h => ?_⟩
        rw [hnothing] at h
        exact absurd h (Nat.not_lt_zero 0)
      · obtain ⟨request, hlist, hrequests⟩ := hsendable _ hsent
        refine ⟨1, ?_, fun _ => ⟨0, rfl, hnone⟩⟩
        rw [hlist]
        exact hrequests
    | ok out =>
      rw [hresult] at hturn
      rw [Gen.bind_ok _ _ _ _ hresult]
      obtain ⟨hsent, hout⟩ := hturn
      obtain ⟨request, hlist, hrequests⟩ := hsendable _ hsent
      rw [hlist]
      cases out with
      | none =>
        exact ⟨1, hrequests, fun _ => ⟨0, rfl, hout⟩⟩
      | some replied =>
        obtain ⟨n, hfinal, hstopped⟩ := ih replied.2 _ hout
        refine ⟨n + 1, ?_, fun h => ?_⟩
        · dsimp only
          rw [if_neg Bool.false_ne_true, hfinal, hrequests, List.append_assoc]
          rfl
        · obtain ⟨m, rfl, hnone⟩ := hstopped (Nat.lt_of_succ_lt_succ h)
          refine ⟨m + 1, rfl, ?_⟩
          rw [hrequests, List.length_append, List.length_singleton, Nat.add_assoc, Nat.add_comm 1]
            at hnone
          exact hnone

/-- With replies to the first `k` of them, the first `k + 1` requests are sent. -/
theorem round_take (htaken : Taken env db chat dto step replies) (members : List TeamMember)
    (a : α) (w : World ν) (hw : Beyond env db chat w) (hnone : w.requests = []) (k : ℕ)
    (hreplies : ∀ n < k, replies n) :
    ((perform step (pipelineSchedule (fun _ => false) (some (db.maxSequence chat.id)) members) a
        w).final.requests).take (k + 1) = (sendable env db chat dto members).take (k + 1) := by
  obtain ⟨n, hfinal, hstopped⟩ := round_requests db chat dto step replies htaken members a w hw
  rw [hfinal, hnone, List.nil_append, List.take_take]
  by_cases hn : n < (sendable env db chat dto members).length
  · obtain ⟨m, rfl, hfailed⟩ := hstopped hn
    rw [hnone] at hfailed
    have hk : k ≤ m := by
      by_contra hlt
      refine hfailed (hreplies _ ?_)
      rw [List.length_nil]
      omega
    rw [Nat.min_eq_left (by omega)]
  · rw [List.take_eq_take_iff]
    omega

end Round

section Modes

variable (env : Environment ν) (hq : Quiet env) (db : Tables ν) (chat : ChatRow)
  (dto : CreateCompletionDto ν)

/-- The provider replies to the `n`th request of a run without streaming. -/
def Answers (n : ℕ) : Prop :=
  ∀ config request, ∃ response, env.complete n config request = .ok response

/-- The provider replies to the `n`th request of a run with streaming. -/
def Delivers (n : ℕ) : Prop :=
  ∀ config request, (delivery (env.stream n config request)).failure = none

include hq

theorem taken_whole : Taken env db chat dto (completeStep env chat dto) (Answers env) := by
  intro w turn a hw
  refine triple_bind _ _ (triple_conseq _ (guardedTurn_quiet hq chat dto turn w hw.chat_found a)
    (fun _ h => h) (fun _ _ h => h) ?_) fun reply => triple_pure _ ?_
  · rintro failure w' (⟨hfailed, hrequests⟩ | ⟨prepared, hready, hfailed, hrequests⟩)
    · exact .inl ⟨hfailed, hrequests⟩
    · refine .inr ⟨⟨prepared, hready, hrequests⟩, fun hanswers => ?_⟩
      obtain ⟨response, hresponse⟩ := hanswers prepared.execution.config prepared.request
      rw [hresponse] at hfailed
      cases hfailed
  · rintro w' ⟨prepared, response, -, hready, -, now, hstage⟩
    exact ⟨⟨prepared, hready, hstage.requests⟩,
      beyond_reply env db chat w w' _ _ _ _ _ _ _ _ (by omega) hw hstage⟩

theorem taken_streamed : Taken env db chat dto (streamStep env chat dto) (Delivers env) := by
  intro w turn a hw
  have hfresh : ∀ row ∈ w.db.messages, row.id ≠ env.newId w.issued :=
    fun row hrow => hw.fresh row hrow w.issued le_rfl
  refine triple_bind _ _ (triple_conseq _
    (streamMemberTurn_quiet hq chat dto turn w hw.chat_found hfresh) (fun _ h => h)
    (fun _ _ h => h) fun failure w' h => .inl h) fun res => ?_
  refine triple_given fun s ⟨prepared, hready, _, _, herror, hend⟩ => ?_
  rw [herror]
  cases hfailure : (delivery (env.stream w.requests.length prepared.execution.config
      prepared.request)).failure with
  | none =>
    rw [hfailure] at hend
    obtain ⟨now, occurredAt, hstage⟩ := hend
    refine triple_pure _ fun w' hw' => ?_
    obtain rfl := hw'
    exact ⟨⟨prepared, hready, hstage.requests⟩,
      beyond_reply env db chat w w' _ _ _ _ _ _ _ _ (by omega) hw hstage⟩
  | some failure =>
    rw [hfailure] at hend
    obtain ⟨now, hstage⟩ := hend
    refine triple_pure _ fun w' hw' => ?_
    obtain rfl := hw'
    refine ⟨⟨prepared, hready, hstage.requests⟩, fun hdelivers => ?_⟩
    rw [hdelivers] at hfailure
    cases hfailure

end Modes

section Rounds

variable {env : Environment ν} (hq : Quiet env) (db : Tables ν) (chat : ChatRow)
  (dto : CreateCompletionDto ν) (teamId : JsString) (hchat : (db.chat chat.id).isSome)
  (hfresh : ∀ row ∈ db.messages, ∀ n, row.id ≠ env.newId n)
  (hbroadcast : effectiveStrategy dto (db.team teamId) = .broadcast) (k : ℕ)

def broadcastRequests (env : Environment ν) (streaming : Bool) :
    List (JsString × CompletionRequest ν) :=
  match refusal env dto (World.start db) teamId streaming with
  | some _ => []
  | none => sendable env db chat dto
      ((getActiveTeamMembers db teamId).take (boundedMaxTurns dto (db.team teamId)))

include hchat hfresh in
theorem beyond_start : Beyond env db chat (World.start db) :=
  ⟨sameSetting_refl db, hchat, rfl, le_rfl, fun row hrow n _ => hfresh row hrow n⟩

include hq hchat hfresh hbroadcast

theorem whole_requests (hreplies : ∀ n < k, Answers env n) :
    ((completeTeamChat env chat dto teamId (World.start db)).final.requests).take (k + 1) =
      (broadcastRequests db chat dto teamId env false).take (k + 1) := by
  unfold broadcastRequests
  cases hrefusal : refusal env dto (World.start db) teamId false with
  | some failure =>
    rw [completeTeamChat_refused env chat dto teamId _ failure hrefusal]
    rfl
  | none =>
    obtain ⟨first, rest, hmembers, hvalid⟩ := refusal_none env dto _ _ _ hrefusal
    have hround := round_take db chat dto _ _ (taken_whole env hq db chat dto)
      ((first :: rest).take (boundedMaxTurns dto (db.team teamId))) [] (World.start db)
      (beyond_start db chat hchat hfresh) rfl k hreplies
    rw [completeTeamChat_eq env chat dto hq.present teamId _ first rest hmembers hvalid]
    change getActiveTeamMembers db teamId = _ at hmembers
    change (completeSchedule env chat dto (teamSchedule env.toLowerCase (db.team teamId)
      (effectiveStrategy dto (db.team teamId)) _ first rest _) [] _).final.requests.take _ = _
    rw [hbroadcast, hmembers, ← hround]
    exact congrArg (List.take (k + 1))
      (Gen.final_keep World.requests _ _ _ fun _ _ => rfl)

theorem streamed_requests (hreplies : ∀ n < k, Delivers env n) :
    ((streamTeamChat env chat dto teamId (World.start db)).final.requests).take (k + 1) =
      (broadcastRequests db chat dto teamId env true).take (k + 1) := by
  unfold broadcastRequests
  cases hrefusal : refusal env dto (World.start db) teamId true with
  | some failure =>
    rw [streamTeamChat_refused env chat dto hq.present teamId _ failure hrefusal]
    rfl
  | none =>
    obtain ⟨first, rest, hmembers, hvalid⟩ := refusal_none env dto _ _ _ hrefusal
    have hround := round_take db chat dto _ _ (taken_streamed env hq db chat dto)
      ((first :: rest).take (boundedMaxTurns dto (db.team teamId))) Totals.zero (World.start db)
      (beyond_start db chat hchat hfresh) rfl k hreplies
    rw [streamTeamChat_eq env chat dto hq.present teamId _ first rest hmembers hvalid]
    change getActiveTeamMembers db teamId = _ at hmembers
    change ((perform (streamStep env chat dto) (teamSchedule env.toLowerCase (db.team teamId)
      (effectiveStrategy dto (db.team teamId)) _ first rest _) .zero >>= fun totals =>
        emitUnlessEnded env totals) _).final.requests.take _ = _
    rw [hbroadcast, hmembers, ← hround]
    exact congrArg (List.take (k + 1))
      (Gen.final_keep World.requests _ _ _ (emitUnlessEnded_requests env))

end Rounds

section TwoRuns

def replying (env : Environment ν)
    (complete : ℕ → AdapterConfig → CompletionRequest ν → Except Failure CompletionResponse)
    (stream : ℕ → AdapterConfig → CompletionRequest ν → Script) : Environment ν :=
  { env with complete := complete, stream := stream }

variable (env : Environment ν)
  (complete : ℕ → AdapterConfig → CompletionRequest ν → Except Failure CompletionResponse)
  (stream : ℕ → AdapterConfig → CompletionRequest ν → Script) (db : Tables ν) (chat : ChatRow)
  (dto : CreateCompletionDto ν)

theorem sendable_replying (members : List TeamMember) :
    sendable (replying env complete stream) db chat dto members = sendable env db chat dto members := by
  induction members with
  | nil => rfl
  | cons member rest ih =>
    have hready : ready (replying env complete stream) db chat dto
        ⟨member, some (db.maxSequence chat.id), none⟩ =
        ready env db chat dto ⟨member, some (db.maxSequence chat.id), none⟩ := rfl
    rw [sendable, sendable, hready, ih]

theorem preValidate_replying (moment : ℕ) (modelIdOverride : Option JsString) (streaming : Bool)
    (members : List TeamMember) :
    preValidateTeamMembers (replying env complete stream) moment db modelIdOverride streaming
      members = preValidateTeamMembers env moment db modelIdOverride streaming members := by
  induction members with
  | nil => rfl
  | cons member rest ih =>
    unfold preValidateTeamMembers
    rw [ih]
    rfl

theorem broadcastRequests_replying (teamId : JsString) (streaming : Bool) :
    broadcastRequests db chat dto teamId (replying env complete stream) streaming =
      broadcastRequests db chat dto teamId env streaming := by
  have hrefusal : refusal (replying env complete stream) dto (World.start db) teamId streaming =
      refusal env dto (World.start db) teamId streaming := by
    unfold refusal
    simp only [preValidate_replying]
  unfold broadcastRequests
  rw [hrefusal, sendable_replying]

end TwoRuns

/-- Up to and including member `k`, a round asks the same whatever the members before it reply. -/
def Isolated (requests requests' : List (JsString × CompletionRequest ν)) (k : ℕ) : Prop :=
  requests.take (k + 1) = requests'.take (k + 1)

theorem broadcast_isolated (env : Environment ν) (hq : Quiet env)
    (complete : ℕ → AdapterConfig → CompletionRequest ν → Except Failure CompletionResponse)
    (stream : ℕ → AdapterConfig → CompletionRequest ν → Script) (db : Tables ν)
    (hfresh : ∀ row ∈ db.messages, ∀ n, row.id ≠ env.newId n) (chatId : JsString) (chat : ChatRow)
    (teamId : JsString) (dto : CreateCompletionDto ν) (hchat : db.chat chatId = some chat)
    (hteam : chat.teamId = some teamId)
    (hbroadcast : effectiveStrategy dto (db.team teamId) = .broadcast) (k : ℕ) :
    let other := replying env complete stream
    ((∀ n < k, Answers env n ∧ Answers other n) →
      Isolated (completeChat env chatId dto (World.start db)).final.requests
        (completeChat other chatId dto (World.start db)).final.requests k) ∧
    ((∀ n < k, Delivers env n ∧ Delivers other n) →
      Isolated (streamChat env chatId dto (World.start db)).final.requests
        (streamChat other chatId dto (World.start db)).final.requests k) := by
  intro other
  have hother : Quiet other := ⟨hq.others, hq.present, hq.storage, hq.steady⟩
  have hfound := chat_isSome db chatId chat hchat
  have hwhole := fun env : Environment ν =>
    completeChat_team env chat dto chatId (World.start db) hchat teamId hteam
  have hstream := fun env : Environment ν =>
    streamChat_team env chat dto chatId (World.start db) hchat teamId hteam
  constructor
  · intro hreplies
    rw [Isolated, hwhole, hwhole,
      whole_requests hq db chat dto teamId hfound hfresh hbroadcast k fun n hn => (hreplies n hn).1,
      whole_requests hother db chat dto teamId hfound hfresh hbroadcast k fun n hn =>
        (hreplies n hn).2,
      broadcastRequests_replying]
  · intro hreplies
    rw [Isolated, hstream, hstream,
      streamed_requests hq db chat dto teamId hfound hfresh hbroadcast k fun n hn =>
        (hreplies n hn).1,
      streamed_requests hother db chat dto teamId hfound hfresh hbroadcast k fun n hn =>
        (hreplies n hn).2,
      broadcastRequests_replying]

theorem broadcast_isolated_greetings :
    let env := sampleEnvironment (fun _ => js "hello") none
    let other := replying env (fun _ _ _ => .ok ⟨js "good morning", none⟩)
      fun _ _ _ => ⟨[.textDelta (js "good "), .textDelta (js "morning")], none⟩
    Isolated (completeChat env (js "d") plainDto (.start (sampleTables .broadcast))).final.requests
        (completeChat other (js "d") plainDto (.start (sampleTables .broadcast))).final.requests 1 ∧
      Isolated (streamChat env (js "d") plainDto (.start (sampleTables .broadcast))).final.requests
        (streamChat other (js "d") plainDto (.start (sampleTables .broadcast))).final.requests 1 := by
  have hq : Quiet (sampleEnvironment (fun _ => js "hello") none) :=
    ⟨fun _ _ => rfl, fun _ => rfl, fun _ => rfl, fun _ _ => rfl⟩
  obtain ⟨hwhole, hstreamed⟩ := broadcast_isolated (sampleEnvironment (fun _ => js "hello") none) hq
    (fun _ _ _ => .ok ⟨js "good morning", none⟩)
    (fun _ _ _ => ⟨[.textDelta (js "good "), .textDelta (js "morning")], none⟩)
    (sampleTables .broadcast) (sampleTables_fresh .broadcast (fun _ => js "hello") none) (js "d")
    ⟨js "d", none, some (js "t"), none, none, []⟩ (js "t") plainDto (sampleTables_chat .broadcast) rfl
    (sampleTables_strategy .broadcast) 1
  exact ⟨hwhole fun _ _ => ⟨fun _ _ => ⟨_, rfl⟩, fun _ _ => ⟨_, rfl⟩⟩,
    hstreamed fun _ _ => ⟨fun _ _ => rfl, fun _ _ => rfl⟩⟩

end Glassbeetle.BroadcastIsolation
