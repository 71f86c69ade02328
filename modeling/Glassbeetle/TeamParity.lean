import Glassbeetle.QuietTurns
import Glassbeetle.ScheduleBounds

set_option autoImplicit false

namespace Glassbeetle.TeamParity
open JsText Utf8Text AdapterTypes Database ExecutionChain AsyncGenerator Inference MemberTurns TeamChat
  Completions Schedules TeamSchedules ScheduleBounds Transcripts QuietRuns QuietTurns

variable {ν : Type}

def view (row : MessageRow) : JsString × Said := (row.chatId, said row)

section Views

variable (db db' : Tables ν) (chatId : JsString)
  (h : db'.messages.map view = db.messages.map view)

theorem transcript_view (db : Tables ν) (chatId : JsString) : transcript db chatId =
    ((((db.messages.map view).filter (·.1 = chatId)).map Prod.snd).insertionSort
      fun a b => a.sequence ≤ b.sequence) := by
  unfold transcript
  rw [List.filter_map, List.map_map]
  rfl

theorem maxSequence_view (db : Tables ν) (chatId : JsString) : db.maxSequence chatId =
    ((((db.messages.map view).filter (·.1 = chatId)).map (·.2.sequence)).max?).getD 0 := by
  unfold Tables.maxSequence
  rw [List.filter_map, List.map_map]
  rfl

include h

theorem transcript_alike : transcript db' chatId = transcript db chatId := by
  rw [transcript_view, transcript_view, h]

theorem maxSequence_alike : db'.maxSequence chatId = db.maxSequence chatId := by
  rw [maxSequence_view, maxSequence_view, h]

end Views

structure Alike (env : Environment ν) (chat : ChatRow) (w w' : World ν) : Prop where
  setting : SameSetting w.db w'.db
  chat_found : (w.db.chat chat.id).isSome
  chat_found' : (w'.db.chat chat.id).isSome
  messages : w'.db.messages.map view = w.db.messages.map view
  requests : w'.requests = w.requests
  fresh : ∀ row ∈ w'.db.messages, ∀ n, w'.issued ≤ n → row.id ≠ env.newId n

theorem alike_start (env : Environment ν) (db : Tables ν) (chat : ChatRow)
    (hchat : (db.chat chat.id).isSome) (hfresh : ∀ row ∈ db.messages, ∀ n, row.id ≠ env.newId n) :
    Alike env chat (World.start db) (World.start db) :=
  ⟨sameSetting_refl db, hchat, hchat, rfl, rfl, fun row hrow n _ => hfresh row hrow n⟩

def given (reply : ℕ → CompletionRequest ν → JsString)
    (requests : List (JsString × CompletionRequest ν)) : List JsString :=
  requests.mapIdx fun n asked => reply n asked.2

theorem given_snoc (reply : ℕ → CompletionRequest ν → JsString)
    (requests : List (JsString × CompletionRequest ν)) (asked : JsString × CompletionRequest ν) :
    given reply (requests ++ [asked]) = given reply requests ++ [reply requests.length asked.2] :=
  List.mapIdx_concat

/-- Both ways of asking a provider give the same text. -/
structure Provides (env : Environment ν) (reply : ℕ → CompletionRequest ν → JsString) : Prop where
  whole : ∀ n config request, ∃ usage, env.complete n config request = .ok ⟨reply n request, usage⟩
  streamed : ∀ n config request, (delivery (env.stream n config request)).content = reply n request ∧
    (delivery (env.stream n config request)).failure = none

section Lockstep

variable {env : Environment ν} (hq : Quiet env) (chat : ChatRow) (dto : CreateCompletionDto ν)

theorem alike_ready (w w' : World ν) (turn : Turn) (h : Alike env chat w w') :
    ready env w'.db chat dto turn = ready env w.db chat dto turn := by
  unfold ready
  rw [prepareTurn_congr env.toRuntime w.db w'.db chat dto turn h.setting
    (by rw [transcript_alike w.db w'.db chat.id h.messages])]

theorem alike_reply (a b a' b' : World ν) (h : Alike env chat a b) (id id' agentId content now now' : JsString)
    (tokenCount tokenCount' : Option ℤ) (events events' : List UsageEventRow)
    (asked : List (JsString × CompletionRequest ν)) (ids ids' : ℕ) (hpos : 0 < ids')
    (hid : id' = env.newId b.issued)
    (ha : Stage a a' [replyRow a.db chat id agentId content .complete tokenCount now] events asked ids)
    (hb : Stage b b' [replyRow b.db chat id' agentId content .complete tokenCount' now'] events'
      asked ids') : Alike env chat a' b' := by
  have hsetting : SameSetting a'.db b'.db := by
    have hback := ha.extended.setting
    have hforth := sameSetting_trans _ _ _ h.setting hb.extended.setting
    exact ⟨hforth.agents.trans hback.agents.symm, hforth.models.trans hback.models.symm,
      hforth.providers.trans hback.providers.symm, hforth.credentials.trans hback.credentials.symm,
      hforth.systemPrompts.trans hback.systemPrompts.symm, hforth.teams.trans hback.teams.symm,
      hforth.teamMembers.trans hback.teamMembers.symm⟩
  refine ⟨hsetting, (ha.extended.chats chat.id).trans h.chat_found,
    (hb.extended.chats chat.id).trans h.chat_found', ?_, ?_, ?_⟩
  · have hmax := maxSequence_alike a.db b.db chat.id h.messages
    rw [hb.extended.messages, ha.extended.messages, List.map_append, List.map_append, h.messages]
    unfold replyRow
    rw [hmax]
    rfl
  · rw [hb.requests, ha.requests, h.requests]
  · intro row hrow n hn
    rw [hb.extended.messages, List.mem_append, List.mem_singleton] at hrow
    rw [hb.issued] at hn
    rcases hrow with hrow | rfl
    · exact h.fresh row hrow n (by omega)
    · intro hsame
      have := env.newId_injective _ _ (hid.symm.trans hsame)
      omega

include hq

theorem turn_parity (reply : ℕ → CompletionRequest ν → JsString) (hprovides : Provides env reply)
    (turn : Turn) (completed : List CompletionResponseDto) (totals : Totals) (a b : World ν)
    (h : Alike env chat a b) (out : Option (JsString × List CompletionResponseDto))
    (hok : (completeStep env chat dto turn completed a).result = .ok out) :
    ∃ content completed' totals', out = some (stored content, completed') ∧
      (streamStep env chat dto turn totals b).result = .ok (some (content, totals')) ∧
      given reply (completeStep env chat dto turn completed a).final.requests =
        given reply a.requests ++ [content] ∧
      Alike env chat (completeStep env chat dto turn completed a).final
        (streamStep env chat dto turn totals b).final := by
  have hwhole := (guardedTurn_quiet hq chat dto turn a h.chat_found completed a rfl).2
  have hfresh : ∀ row ∈ b.db.messages, row.id ≠ env.newId b.issued :=
    fun row hrow => h.fresh row hrow b.issued le_rfl
  have hstream := (streamMemberTurn_quiet hq chat dto turn b h.chat_found' hfresh b rfl).2
  unfold completeStep at hok ⊢
  unfold streamStep
  cases hresult : (guardedTurn env chat dto turn completed a).result with
  | error failure =>
    rw [Gen.bind_error _ _ _ _ hresult] at hok
    cases hok
  | ok replied =>
    rw [hresult] at hwhole
    rw [Gen.bind_ok _ _ _ _ hresult] at hok ⊢
    cases hok
    obtain ⟨prepared, response, hcontent, hready, hresponse, now, hstage⟩ := hwhole
    obtain ⟨usage, husage⟩ := hprovides.whole a.requests.length prepared.execution.config
      prepared.request
    obtain rfl := Except.ok.inj (husage.symm.trans hresponse)
    cases hresult' : (streamMemberTurn env chat dto turn b).result with
    | error failure =>
      rw [hresult', alike_ready chat dto a b turn h, hready] at hstream
      cases hstream.1
    | ok res =>
      rw [hresult'] at hstream
      rw [Gen.bind_ok _ _ _ _ hresult']
      obtain ⟨prepared', hready', hend⟩ := hstream
      rw [alike_ready chat dto a b turn h, hready] at hready'
      obtain rfl := Except.ok.inj hready'
      rw [h.requests] at hend
      obtain ⟨htext, hfailure⟩ := hprovides.streamed a.requests.length prepared.execution.config
        prepared.request
      obtain ⟨hcontent', -, herror, hend⟩ := hend
      rw [hfailure] at herror hend
      obtain ⟨now', occurredAt, hstage'⟩ := hend
      rw [htext] at hcontent' hstage'
      rw [herror]
      refine ⟨res.content, completed ++ [replied], totals.add res.usage, ?_, rfl, ?_, ?_⟩
      · rw [hcontent, hcontent']
      · rw [hcontent', ← given_snoc reply a.requests (prepared.agent.id, prepared.request),
          ← hstage.requests]
        rfl
      · exact alike_reply chat a b _ _ h _ _ _ _ _ _ _ _ _ _ _ _ _ (by omega) rfl hstage hstage'

/-- Runs stay equally far as long as the replies decide as what is read back of them. -/
theorem schedule_parity (reply : ℕ → CompletionRequest ν → JsString)
    (hprovides : Provides env reply) (s : Schedule Turn JsString)
    (completed : List CompletionResponseDto) (totals : Totals) (a b : World ν)
    (h : Alike env chat a b) (out : Option (List CompletionResponseDto))
    (hok : (perform (completeStep env chat dto) s completed a).result = .ok out) :
    ∃ texts, given reply (perform (completeStep env chat dto) s completed a).final.requests =
        given reply a.requests ++ texts ∧
      (Settled stored s texts → Alike env chat (perform (completeStep env chat dto) s completed a).final
        (perform (streamStep env chat dto) s totals b).final) := by
  induction s generalizing completed totals a b with
  | finish => exact ⟨[], (List.append_nil _).symm, fun _ => h⟩
  | turn t next ih =>
    unfold perform at hok ⊢
    cases hresult : (completeStep env chat dto t completed a).result with
    | error failure =>
      rw [Gen.bind_error _ _ _ _ hresult] at hok
      cases hok
    | ok replied =>
      obtain ⟨content, completed', totals', rfl, hstream, hgiven, halike⟩ :=
        turn_parity hq chat dto reply hprovides t completed totals a b h replied hresult
      rw [Gen.bind_ok _ _ _ _ hresult] at hok ⊢
      rw [Gen.bind_ok _ _ _ _ hstream]
      obtain ⟨texts, htexts, hlater⟩ := ih (stored content) completed' totals' _ _ halike hok
      refine ⟨content :: texts, ?_, fun hsettled => ?_⟩
      · rw [htexts, hgiven, List.append_assoc]
        rfl
      · obtain ⟨hnext, hrest⟩ := hsettled
        dsimp only
        rw [← hnext] at hrest ⊢
        exact hlater hrest

end Lockstep

section Rows

variable {env : Environment ν} (hq : Quiet env) (chat : ChatRow) (dto : CreateCompletionDto ν)
  (reply : ℕ → CompletionRequest ν → JsString) (db : Tables ν)

/-- These turns have been taken since, each with a complete row of its own. The schedule has gone on
with what `read` makes of the replies. -/
structure Spoken (env : Environment ν) (read : JsString → JsString)
    (turns : List (Turn × JsString)) (w : World ν) : Prop where
  chat_found : (w.db.chat chat.id).isSome
  requests : w.requests.map Prod.fst = turns.map fun turn => turn.1.member.agentId
  told : turns.map Prod.snd = (given reply w.requests).map read
  rows : ∃ rows, w.db.messages = db.messages ++ rows ∧
    rows.map lineOf = turns.map fun turn => repliedLine chat turn.1.member.agentId turn.2
  fresh : ∀ row ∈ w.db.messages, ∀ n, w.issued ≤ n → row.id ≠ env.newId n

theorem spoken_reply (read : JsString → JsString) (hread : ∀ text, stored (read text) = stored text)
    (turns : List (Turn × JsString)) (t : Turn) (w w' : World ν)
    (h : Spoken chat reply db env read turns w) (request : CompletionRequest ν)
    (tokenCount : Option ℤ) (now : JsString) (events : List UsageEventRow)
    (hstage : Stage w w' [replyRow w.db chat (env.newId w.issued) t.member.agentId
      (reply w.requests.length request) .complete tokenCount now] events
      [(t.member.agentId, request)] 2) :
    Spoken chat reply db env read (turns ++ [(t, read (reply w.requests.length request))]) w' := by
  obtain ⟨rows, hrows, hviews⟩ := h.rows
  refine ⟨(hstage.extended.chats chat.id).trans h.chat_found, ?_, ?_, ⟨rows ++ [replyRow w.db chat
    (env.newId w.issued) t.member.agentId (reply w.requests.length request) .complete tokenCount now],
    ?_, ?_⟩, ?_⟩
  · rw [hstage.requests, List.map_append, List.map_append, h.requests]
    rfl
  · rw [hstage.requests, given_snoc, List.map_append, List.map_append, h.told]
    rfl
  · rw [hstage.extended.messages, hrows, List.append_assoc]
  · rw [List.map_append, List.map_append, hviews]
    unfold repliedLine lineOf replyRow
    simp only [List.map_cons, List.map_nil, hread]
  · intro row hrow n hn
    rw [hstage.issued] at hn
    rw [hstage.extended.messages, List.mem_append, List.mem_singleton] at hrow
    rcases hrow with hrow | rfl
    · exact h.fresh row hrow n (by omega)
    · intro hsame
      have := env.newId_injective _ _ hsame
      omega

include hq

theorem spoken_complete (hprovides : Provides env reply) (turns : List (Turn × JsString)) (t : Turn)
    (completed : List CompletionResponseDto) :
    Leads (Spoken chat reply db env stored turns) (completeStep env chat dto t completed)
      (fun out w => ∃ content completed', out = some (content, completed') ∧
        Spoken chat reply db env stored (turns ++ [(t, content)]) w) fun _ _ => True := by
  refine triple_given fun s hs => ?_
  refine triple_bind _ _ (triple_conseq _ (guardedTurn_quiet hq chat dto t s hs.chat_found completed)
    (fun _ h => h) (fun _ _ h => h) fun _ _ _ => trivial) fun replied =>
      triple_pure _ fun w hw => ⟨replied.content, _, rfl, ?_⟩
  obtain ⟨prepared, response, hcontent, hready, hresponse, now, hstage⟩ := hw
  obtain ⟨usage, husage⟩ := hprovides.whole s.requests.length prepared.execution.config
    prepared.request
  obtain rfl := Except.ok.inj (husage.symm.trans hresponse)
  rw [ready_speaker env s.db chat dto t prepared hready] at hstage
  rw [hcontent]
  exact spoken_reply chat reply db stored stored_stored turns t s w hs _ _ _ _ hstage

theorem spoken_stream (hprovides : Provides env reply) (turns : List (Turn × JsString)) (t : Turn)
    (totals : Totals) :
    Leads (Spoken chat reply db env id turns) (streamStep env chat dto t totals)
      (fun out w => ∃ content totals', out = some (content, totals') ∧
        Spoken chat reply db env id (turns ++ [(t, content)]) w) fun _ _ => True := by
  refine triple_given fun s hs => ?_
  refine triple_bind _ _ (triple_conseq _ (streamMemberTurn_quiet hq chat dto t s hs.chat_found
    fun row hrow => hs.fresh row hrow s.issued le_rfl) (fun _ h => h) (fun _ _ h => h)
    fun _ _ _ => trivial) fun res => triple_given fun w hw => ?_
  obtain ⟨prepared, hready, hcontent, -, herror, hend⟩ := hw
  obtain ⟨htext, hfailure⟩ := hprovides.streamed s.requests.length prepared.execution.config
    prepared.request
  rw [hfailure] at herror hend
  obtain ⟨now, occurredAt, hstage⟩ := hend
  rw [ready_speaker env s.db chat dto t prepared hready, htext] at hstage
  rw [herror, Option.isSome_none, if_neg Bool.false_ne_true]
  refine triple_pure _ fun w' hw' => ⟨res.content, _, rfl, ?_⟩
  rw [hw', hcontent, htext]
  exact spoken_reply chat reply db id (fun _ => rfl) turns t s w hs _ _ _ _ hstage

omit hq in
theorem spoken_schedule {α : Type} (read : JsString → JsString)
    (step : Turn → α → Run ν (Option (JsString × α)))
    (hstep : ∀ turns t a, Leads (Spoken chat reply db env read turns) (step t a)
      (fun out w => ∃ content a', out = some (content, a') ∧
        Spoken chat reply db env read (turns ++ [(t, content)]) w) fun _ _ => True)
    (s : Schedule Turn JsString) (a : α) (w : World ν) (hstart : Spoken chat reply db env read [] w)
    (hok : ∃ out, (perform step s a w).result = .ok out) :
    ∃ turns, Path s turns .finish ∧ Spoken chat reply db env read turns (perform step s a w).final := by
  have hrun := triple_perform step s s (fun turns _ => Spoken chat reply db env read turns)
    (fun _ _ => True) (fun _ _ _ => False) (fun _ _ _ _ => True) [] a
    (fun turns t next a' _ => triple_conseq _ (hstep turns t a') (fun _ h => h)
      (fun out w' ⟨content, a'', hout, hspoken⟩ => by subst hout; exact hspoken)
      fun _ _ h => h) (.nil s)
  obtain ⟨out, hout⟩ := hok
  have hend := (hrun w hstart).2
  rw [hout] at hend
  cases out with
  | none =>
    obtain ⟨_, _, _, _, hfalse⟩ := hend
    exact absurd hfalse id
  | some completed => exact hend

omit hq in
theorem spoken_start (read : JsString → JsString) (hchat : (db.chat chat.id).isSome)
    (hfresh : ∀ row ∈ db.messages, ∀ n, row.id ≠ env.newId n) :
    Spoken chat reply db env read [] (.start db) :=
  ⟨hchat, rfl, rfl, ⟨[], (List.append_nil _).symm, rfl⟩, fun row hrow n _ => hfresh row hrow n⟩

end Rows

section Choices

variable (toLowerCase : JsString → JsString) (team : Option TeamRow)

structure NamesAlike (members : List TeamMember) (text : JsString) : Prop where
  delegate : ∀ speaker, (delegateMatch (stored text)).bind
    (findByQuery toLowerCase (others members speaker)) =
      (delegateMatch text).bind (findByQuery toLowerCase (others members speaker))
  next : ∀ speaker, (nextMatch (stored text)).bind
    (findByQuery toLowerCase (others members speaker)) =
      (nextMatch text).bind (findByQuery toLowerCase (others members speaker))

theorem namesAlike_wellFormed (members : List TeamMember) (text : JsString)
    (h : wellFormed text = true) : NamesAlike toLowerCase members text := by
  rw [← stored_eq_self] at h
  exact ⟨fun _ => by rw [h], fun _ => by rw [h]⟩

theorem finished_stored (text : JsString) : finished (stored text) = finished text :=
  includes_stored text teamFinish (by decide)

theorem handoffFinished_stored (text : JsString) :
    handoffFinished (stored text) = handoffFinished text := by
  unfold handoffFinished
  rw [includes_stored text (js "[DONE]") (by decide), includes_stored text teamFinish (by decide)]

theorem pipeline_settled (finish : JsString → Bool) (hfinish : ∀ text, finish (stored text) = finish text)
    (maxSequence : Option ℤ) (speakers : List TeamMember) (texts : List JsString) :
    Settled stored (pipelineSchedule finish maxSequence speakers) texts := by
  induction speakers generalizing texts with
  | nil => exact trivial
  | cons speaker rest ih =>
    refine settled_cons _ _ _ fun t next reply replies hs _ => ?_
    obtain ⟨rfl, rfl⟩ := Schedule.turn.inj hs
    refine ⟨by simp only [hfinish], ?_⟩
    dsimp only
    split_ifs
    · exact trivial
    · exact ih replies

theorem coordinator_settled (first : TeamMember) (rest : List TeamMember) (bound : ℕ)
    (texts : List JsString) (h : ∀ text ∈ texts, NamesAlike toLowerCase (first :: rest) text) :
    Settled stored (coordinatorSchedule toLowerCase team first rest bound) texts := by
  refine settled_cons _ _ _ fun t next reply replies hs htexts => ?_
  obtain ⟨rfl, rfl⟩ := Schedule.turn.inj hs
  have hreply := h reply (htexts ▸ List.mem_cons_self)
  refine ⟨by simp only [hreply.delegate], ?_⟩
  dsimp only
  split_ifs
  · split
    · exact trivial
    · refine settled_cons _ _ _ fun t next reply replies hs _ => ?_
      obtain ⟨rfl, rfl⟩ := Schedule.turn.inj hs
      exact ⟨rfl, trivial⟩
  · exact trivial

theorem handoff_settled (members : List TeamMember) (left : ℕ) (current : TeamMember)
    (texts : List JsString) (h : ∀ text ∈ texts, NamesAlike toLowerCase members text) :
    Settled stored (handoffSchedule toLowerCase team members left current) texts := by
  induction left generalizing current texts with
  | zero => exact trivial
  | succ left ih =>
    refine settled_cons _ _ _ fun t next reply replies hs htexts => ?_
    obtain ⟨rfl, rfl⟩ := Schedule.turn.inj hs
    have hreply := h reply (htexts ▸ List.mem_cons_self)
    refine ⟨by simp only [handoffFinished_stored, hreply.next], ?_⟩
    dsimp only
    split_ifs
    · exact trivial
    · split
      · exact trivial
      · exact ih _ replies fun text htext => h text (htexts ▸ List.mem_cons_of_mem _ htext)

theorem team_settled (strategy : TeamStrategy) (boundary : ℤ) (first : TeamMember)
    (rest : List TeamMember) (bound : ℕ) (texts : List JsString)
    (h : strategy = .coordinator ∨ strategy = .autonomous →
      ∀ text ∈ texts, NamesAlike toLowerCase (first :: rest) text) :
    Settled stored (teamSchedule toLowerCase team strategy boundary first rest bound) texts := by
  cases strategy with
  | sequential => exact pipeline_settled finished finished_stored none _ texts
  | broadcast => exact pipeline_settled _ (fun _ => rfl) _ _ texts
  | coordinator => exact coordinator_settled toLowerCase team first rest bound texts (h (.inl rfl))
  | autonomous => exact handoff_settled toLowerCase team _ bound _ texts (h (.inr rfl))

def speakerId (turn : Turn) : JsString := turn.member.agentId

theorem pipeline_keyed (finish : JsString → Bool) (maxSequence : Option ℤ)
    (speakers : List TeamMember) : Keyed speakerId (pipelineSchedule finish maxSequence speakers) := by
  induction speakers with
  | nil => exact trivial
  | cons speaker rest ih =>
    refine ⟨fun reply reply' t t' after after' h h' _ => ?_, fun reply => ?_⟩
    · dsimp only at h h' ⊢
      split_ifs at h h' ⊢
      rfl
    · dsimp only
      split_ifs
      · exact trivial
      · exact ih

variable (members : List TeamMember)

theorem handoff_next (left : ℕ) (current : TeamMember) (reply : JsString) (opening t : Turn)
    (next : JsString → Schedule Turn JsString) (after : JsString → Schedule Turn JsString)
    (hs : handoffSchedule toLowerCase team members (left + 1) current = .turn opening next)
    (h : next reply = .turn t after) :
    t.member ∈ members ∧ next reply = handoffSchedule toLowerCase team members left t.member := by
  obtain ⟨-, rfl⟩ := Schedule.turn.inj hs
  dsimp only at h ⊢
  split_ifs at h ⊢
  cases hnamed : (nextMatch reply).bind (findByQuery toLowerCase (others members current)) with
  | none =>
    rw [hnamed] at h
    cases h
  | some speaker =>
    rw [hnamed] at h
    cases left with
    | zero => cases h
    | succ left =>
      obtain ⟨rfl, -⟩ := Schedule.turn.inj h
      exact ⟨(named_mem toLowerCase members current speaker _ hnamed).1, rfl⟩

theorem coordinator_next (first : TeamMember) (rest : List TeamMember) (bound : ℕ)
    (reply : JsString) (opening t : Turn) (next after : JsString → Schedule Turn JsString)
    (hs : coordinatorSchedule toLowerCase team first rest bound = .turn opening next)
    (h : next reply = .turn t after) :
    t.member ∈ first :: rest ∧ next reply = .turn ⟨t.member, none, none⟩ fun _ => .finish := by
  obtain ⟨-, rfl⟩ := Schedule.turn.inj hs
  dsimp only at h ⊢
  split_ifs at h ⊢
  cases hnamed : (delegateMatch reply).bind (findByQuery toLowerCase
      (others (first :: rest) (leadMember toLowerCase first rest))) with
  | none =>
    rw [hnamed] at h
    cases h
  | some specialist =>
    rw [hnamed] at h
    obtain ⟨rfl, -⟩ := Schedule.turn.inj h
    exact ⟨(named_mem toLowerCase _ _ specialist _ hnamed).1, rfl⟩

theorem handoff_keyed (hdistinct : (members.map (·.agentId)).Nodup) (left : ℕ)
    (current : TeamMember) :
    Keyed speakerId (handoffSchedule toLowerCase team members left current) := by
  induction left generalizing current with
  | zero => exact trivial
  | succ left ih =>
    refine ⟨fun reply reply' t t' after after' h h' hkey => ?_, fun reply => ?_⟩
    · obtain ⟨hmem, hrest⟩ := handoff_next toLowerCase team members left current reply _ t _ after rfl h
      obtain ⟨hmem', hrest'⟩ :=
        handoff_next toLowerCase team members left current reply' _ t' _ after' rfl h'
      refine hrest.trans (Eq.trans ?_ hrest'.symm)
      rw [List.inj_on_of_nodup_map hdistinct hmem hmem' hkey]
    · dsimp only
      split_ifs
      · exact trivial
      · split
        · exact trivial
        · exact ih _

theorem coordinator_keyed (first : TeamMember) (rest : List TeamMember)
    (hdistinct : ((first :: rest).map (·.agentId)).Nodup) (bound : ℕ) :
    Keyed speakerId (coordinatorSchedule toLowerCase team first rest bound) := by
  refine ⟨fun reply reply' t t' after after' h h' hkey => ?_, fun reply => ?_⟩
  · obtain ⟨hmem, hrest⟩ :=
      coordinator_next toLowerCase team first rest bound reply _ t _ after rfl h
    obtain ⟨hmem', hrest'⟩ :=
      coordinator_next toLowerCase team first rest bound reply' _ t' _ after' rfl h'
    refine hrest.trans (Eq.trans ?_ hrest'.symm)
    rw [List.inj_on_of_nodup_map hdistinct hmem hmem' hkey]
  · dsimp only
    split_ifs
    · split
      · exact trivial
      · exact ⟨fun _ _ _ _ _ _ _ _ _ => rfl, fun _ => trivial⟩
    · exact trivial

theorem team_keyed (strategy : TeamStrategy) (boundary : ℤ) (first : TeamMember)
    (rest : List TeamMember) (hdistinct : ((first :: rest).map (·.agentId)).Nodup) (bound : ℕ) :
    Keyed speakerId (teamSchedule toLowerCase team strategy boundary first rest bound) := by
  cases strategy with
  | sequential => exact pipeline_keyed finished none _
  | broadcast => exact pipeline_keyed _ _ _
  | coordinator => exact coordinator_keyed toLowerCase team first rest hdistinct bound
  | autonomous => exact handoff_keyed toLowerCase team _ hdistinct bound _

end Choices

def written (db : Tables ν) (w : World ν) : List Line :=
  (w.db.messages.drop db.messages.length).map lineOf

/-- Who spoke in turn, and what: everybody a member, no more of them than there may be, and nobody
handing over to themselves. -/
structure Orderly (strategy : TeamStrategy) (roster : List TeamMember) (bound : ℕ)
    (turns : List (TeamMember × JsString)) : Prop where
  some_turn : 1 ≤ turns.length
  few : turns.length ≤ maxTurns strategy roster.length bound
  members : ∀ turn ∈ turns, turn.1 ∈ roster
  handed_on : strategy = .autonomous → turns.IsChain fun a b => b.1.agentId ≠ a.1.agentId

theorem path_orderly (toLowerCase : JsString → JsString) (team : Option TeamRow)
    (strategy : TeamStrategy) (boundary : ℤ) (first : TeamMember) (rest : List TeamMember)
    (bound : ℕ) (hbound : 1 ≤ bound) (turns : List (Turn × JsString))
    (h : Path (teamSchedule toLowerCase team strategy boundary first rest bound) turns .finish) :
    Orderly strategy (first :: rest) bound (turns.map fun turn => (turn.1.member, turn.2)) := by
  refine ⟨?_, ?_, ?_, ?_⟩
  · obtain ⟨t, next, hopens⟩ := team_opens toLowerCase team strategy boundary first rest bound hbound
    rw [hopens] at h
    cases h with
    | cons t next reply turns left tail => rw [List.length_map, List.length_cons]; omega
  · rw [List.length_map]
    exact path_length _ _ _ turns h
      (team_within toLowerCase team strategy boundary first rest bound hbound)
  · intro turn hturn
    obtain ⟨taken, htaken, rfl⟩ := List.mem_map.mp hturn
    exact path_every _ _ _ turns h
      (team_by toLowerCase team strategy boundary first rest bound) taken htaken
  · rintro rfl
    rw [List.isChain_map]
    exact (handoff_chain toLowerCase team _ bound _ turns _ h).1

def rowsOf (chat : ChatRow) (turns : List (TeamMember × JsString)) : List Line :=
  turns.map fun turn => repliedLine chat turn.1.agentId turn.2

theorem written_alike (env : Environment ν) (db : Tables ν) (chat : ChatRow) (w w' : World ν)
    (h : Alike env chat w w') : written db w' = written db w := by
  have hwritten : ∀ w : World ν, written db w =
      ((w.db.messages.map view).drop db.messages.length).map fun seen =>
        ⟨seen.1, seen.2.role, seen.2.agentId, seen.2.content, seen.2.status⟩ := by
    intro w
    rw [← List.map_drop, List.map_map]
    rfl
  rw [hwritten, hwritten, h.messages]

theorem written_spoken (env : Environment ν) (reply : ℕ → CompletionRequest ν → JsString)
    (read : JsString → JsString) (chat : ChatRow) (db : Tables ν) (turns : List (Turn × JsString))
    (w : World ν) (h : Spoken chat reply db env read turns w) :
    written db w = rowsOf chat (turns.map fun turn => (turn.1.member, turn.2)) := by
  obtain ⟨rows, hrows, hviews⟩ := h.rows
  unfold written rowsOf
  rw [hrows, List.drop_left, hviews, List.map_map]
  rfl

/-- The turns that a run has taken: as many as the strategy allows, each with one request and one
complete row. -/
def Takes (chat : ChatRow) (dto : CreateCompletionDto ν) (teamId : JsString) (db : Tables ν)
    (w : World ν) : Prop :=
  ∃ turns, Orderly (effectiveStrategy dto (db.team teamId)) (getActiveTeamMembers db teamId)
      (boundedMaxTurns dto (db.team teamId)) turns ∧
    w.requests.map Prod.fst = turns.map (·.1.agentId) ∧ written db w = rowsOf chat turns

theorem takes_spoken (env : Environment ν) (reply : ℕ → CompletionRequest ν → JsString)
    (read : JsString → JsString) (chat : ChatRow) (dto : CreateCompletionDto ν) (teamId : JsString)
    (db : Tables ν) (first : TeamMember) (rest : List TeamMember)
    (hmembers : getActiveTeamMembers db teamId = first :: rest) (turns : List (Turn × JsString))
    (w : World ν) (hpath : Path (teamSchedule env.toLowerCase (db.team teamId)
      (effectiveStrategy dto (db.team teamId)) (db.maxSequence chat.id) first rest
      (boundedMaxTurns dto (db.team teamId))) turns .finish)
    (h : Spoken chat reply db env read turns w) : Takes chat dto teamId db w := by
  refine ⟨turns.map fun turn => (turn.1.member, turn.2), ?_, ?_,
    written_spoken env reply read chat db turns w h⟩
  · rw [hmembers]
    exact path_orderly _ _ _ _ first rest _ (boundedMaxTurns_pos dto (db.team teamId)) turns hpath
  · rw [List.map_map]
    exact h.requests

/-- What each reply decides is decided as well by what is read back of it. -/
def DecidedAlike (env : Environment ν) (chat : ChatRow) (dto : CreateCompletionDto ν)
    (teamId : JsString) (db : Tables ν) (texts : List JsString) : Prop :=
  match getActiveTeamMembers db teamId with
  | [] => True
  | first :: rest => Settled stored (teamSchedule env.toLowerCase (db.team teamId)
      (effectiveStrategy dto (db.team teamId)) (db.maxSequence chat.id) first rest
      (boundedMaxTurns dto (db.team teamId))) texts

theorem decidedAlike_names (env : Environment ν) (chat : ChatRow) (dto : CreateCompletionDto ν)
    (teamId : JsString) (db : Tables ν) (texts : List JsString)
    (h : effectiveStrategy dto (db.team teamId) = .coordinator ∨
      effectiveStrategy dto (db.team teamId) = .autonomous →
        ∀ text ∈ texts, NamesAlike env.toLowerCase (getActiveTeamMembers db teamId) text) :
    DecidedAlike env chat dto teamId db texts := by
  unfold DecidedAlike
  split
  · exact trivial
  · rename_i first rest hmembers
    rw [hmembers] at h
    exact team_settled env.toLowerCase _ _ _ first rest _ texts h

section Runs

variable (env : Environment ν) (hq : Quiet env) (reply : ℕ → CompletionRequest ν → JsString)
  (hprovides : Provides env reply) (db : Tables ν)
  (hfresh : ∀ row ∈ db.messages, ∀ n, row.id ≠ env.newId n) (chat : ChatRow)
  (hfound : (db.chat chat.id).isSome) (dto : CreateCompletionDto ν)
  (s : Schedule Turn JsString)

include hq hprovides hfresh hfound

theorem completeSchedule_spoken (replies : List CompletionResponseDto)
    (hok : (completeSchedule env chat dto s [] (.start db)).result = .ok replies) :
    ∃ turns, Path s turns .finish ∧
      Spoken chat reply db env stored turns (completeSchedule env chat dto s [] (.start db)).final := by
  rw [completeSchedule_final]
  exact spoken_schedule chat reply db stored _ (spoken_complete hq chat dto reply db hprovides) s []
    (.start db) (spoken_start chat reply db stored hfound hfresh)
    (completeSchedule_ok env chat dto _ _ _ _ hok)

theorem streamSchedule_spoken
    (hok : ((do
      let totals ← perform (streamStep env chat dto) s .zero
      emitUnlessEnded env totals : Run ν Unit) (.start db)).result = .ok ()) :
    ∃ turns, Path s turns .finish ∧
      Spoken chat reply db env id turns (perform (streamStep env chat dto) s .zero (.start db)).final := by
  refine spoken_schedule chat reply db id _ (spoken_stream hq chat dto reply db hprovides) s .zero
    (.start db) (spoken_start chat reply db id hfound hfresh) ?_
  cases hresult : (perform (streamStep env chat dto) s .zero (.start db)).result with
  | error failure =>
    rw [Gen.bind_error _ _ _ _ hresult] at hok
    cases hok
  | ok out => exact ⟨out, rfl⟩

theorem schedule_runs (replies : List CompletionResponseDto)
    (hwhole : (completeSchedule env chat dto s [] (.start db)).result = .ok replies)
    (hstreamed : ((do
      let totals ← perform (streamStep env chat dto) s .zero
      emitUnlessEnded env totals : Run ν Unit) (.start db)).result = .ok ()) :
    let whole := (completeSchedule env chat dto s [] (.start db)).final
    let streamed := (perform (streamStep env chat dto) s .zero (.start db)).final
    (Settled stored s (given reply whole.requests) →
      streamed.requests = whole.requests ∧ written db streamed = written db whole) ∧
    (Keyed speakerId s → streamed.requests = whole.requests →
      Settled stored s (given reply whole.requests)) := by
  intro whole streamed
  constructor
  · intro hsettled
    obtain ⟨out, hout⟩ := completeSchedule_ok env chat dto _ _ _ _ hwhole
    obtain ⟨texts, htexts, halike⟩ := schedule_parity hq chat dto reply hprovides s [] .zero _ _
      (alike_start env db chat hfound hfresh) out hout
    rw [← completeSchedule_final] at htexts halike
    change given reply whole.requests = texts at htexts
    have hsame := halike (htexts ▸ hsettled)
    exact ⟨hsame.requests, written_alike env db chat _ _ hsame⟩
  · intro hkeyed hrequests
    obtain ⟨turns, hpath, hspoken⟩ :=
      completeSchedule_spoken env hq reply hprovides db hfresh chat hfound dto s replies hwhole
    obtain ⟨turns', hpath', hspoken'⟩ :=
      streamSchedule_spoken env hq reply hprovides db hfresh chat hfound dto s hstreamed
    have htold : turns'.map Prod.snd = given reply whole.requests := by
      rw [hspoken'.told, List.map_id]
      exact congrArg (given reply) hrequests
    have hspeakers : turns.map (fun turn => speakerId turn.1) =
        turns'.map fun turn => speakerId turn.1 :=
      hspoken.requests.symm.trans ((congrArg (List.map Prod.fst) hrequests.symm).trans
        hspoken'.requests)
    rw [← htold]
    refine settled_paths speakerId stored s turns turns' hkeyed hpath hpath' hspeakers ?_
    rw [hspoken.told, htold]

end Runs

/-- Both implementations of a strategy take turns as they should. They ask the same and write the
same whenever each reply decides as what is read back of it, and only then. -/
theorem team_parity (env : Environment ν) (hq : Quiet env)
    (reply : ℕ → CompletionRequest ν → JsString) (hprovides : Provides env reply) (db : Tables ν)
    (hfresh : ∀ row ∈ db.messages, ∀ n, row.id ≠ env.newId n) (chatId : JsString) (chat : ChatRow)
    (teamId : JsString) (dto : CreateCompletionDto ν) (hchat : db.chat chatId = some chat)
    (hteam : chat.teamId = some teamId)
    (hwhole : ∃ replies, (completeChat env chatId dto (.start db)).result = .ok replies)
    (hstreamed : (streamChat env chatId dto (.start db)).result = .ok ()) :
    let whole := (completeChat env chatId dto (.start db)).final
    let streamed := (streamChat env chatId dto (.start db)).final
    let texts := given reply whole.requests
    Takes chat dto teamId db whole ∧ Takes chat dto teamId db streamed ∧
      (DecidedAlike env chat dto teamId db texts →
        streamed.requests = whole.requests ∧ written db streamed = written db whole) ∧
      (((getActiveTeamMembers db teamId).map (·.agentId)).Nodup →
        streamed.requests = whole.requests → DecidedAlike env chat dto teamId db texts) ∧
      ((effectiveStrategy dto (db.team teamId) = .coordinator ∨
          effectiveStrategy dto (db.team teamId) = .autonomous →
        ∀ text ∈ texts, NamesAlike env.toLowerCase (getActiveTeamMembers db teamId) text) →
        DecidedAlike env chat dto teamId db texts) := by
  intro whole streamed texts
  have hfound := chat_isSome db chatId chat hchat
  have hcomplete := completeChat_team env chat dto chatId (World.start db) hchat teamId hteam
  have hstream := streamChat_team env chat dto chatId (World.start db) hchat teamId hteam
  cases hrefusal : refusal env dto (World.start db) teamId false with
  | some failure =>
    obtain ⟨replies, hreplies⟩ := hwhole
    rw [hcomplete, completeTeamChat_refused env chat dto teamId _ failure hrefusal] at hreplies
    cases hreplies
  | none =>
    cases hrefusal' : refusal env dto (World.start db) teamId true with
    | some failure =>
      rw [hstream, streamTeamChat_refused env chat dto hq.present teamId _ failure hrefusal']
        at hstreamed
      cases hstreamed
    | none =>
      obtain ⟨first, rest, hroster, hvalid⟩ := refusal_none env dto _ _ _ hrefusal
      obtain ⟨_, _, hroster', hvalid'⟩ := refusal_none env dto _ _ _ hrefusal'
      obtain ⟨rfl, rfl⟩ := List.cons.inj (hroster.symm.trans hroster')
      rw [completeTeamChat_eq env chat dto hq.present teamId _ first rest hroster hvalid] at hcomplete
      rw [streamTeamChat_eq env chat dto hq.present teamId _ first rest hroster hvalid'] at hstream
      change getActiveTeamMembers db teamId = _ at hroster
      obtain ⟨replies, hreplies⟩ := hwhole
      rw [hcomplete] at hreplies
      rw [hstream] at hstreamed
      obtain ⟨turns, hpath, hspoken⟩ := completeSchedule_spoken env hq reply hprovides db hfresh chat
        hfound dto _ replies hreplies
      obtain ⟨turns', hpath', hspoken'⟩ := streamSchedule_spoken env hq reply hprovides db hfresh chat
        hfound dto _ hstreamed
      obtain ⟨hsettled, hparity⟩ := schedule_runs env hq reply hprovides db hfresh chat hfound dto _
        replies hreplies hstreamed
      have hlast := congrArg Trace.final hstream
      have hrequests := (congrArg World.requests hlast).trans
        (Gen.final_keep World.requests _ _ _ (emitUnlessEnded_requests env))
      have hwritten := congrArg (fun db' : Tables ν =>
        (db'.messages.drop db.messages.length).map lineOf) ((congrArg World.db hlast).trans
          (Gen.final_keep World.db _ _ _ (emitUnlessEnded_db env hq.others)))
      have hdecided : ∀ texts, DecidedAlike env chat dto teamId db texts ↔ Settled stored
          (teamSchedule env.toLowerCase (db.team teamId) (effectiveStrategy dto (db.team teamId))
            (db.maxSequence chat.id) first rest (boundedMaxTurns dto (db.team teamId))) texts := by
        intro texts
        unfold DecidedAlike
        rw [hroster]
      have hstart : whole = _ := congrArg Trace.final hcomplete
      refine ⟨?_, ?_, ?_, ?_, decidedAlike_names env chat dto teamId db texts⟩
      · rw [hstart]
        exact takes_spoken env reply stored chat dto teamId db first rest hroster turns _ hpath hspoken
      · obtain ⟨taken, horderly, hspeakers, hrows⟩ := takes_spoken env reply id chat dto teamId db first
          rest hroster turns' _ hpath' hspoken'
        exact ⟨taken, horderly, by rw [hrequests]; exact hspeakers, hwritten.trans hrows⟩
      · intro h
        rw [hdecided] at h
        obtain ⟨hsame, hrows⟩ := hsettled (hstart ▸ h)
        rw [hstart]
        exact ⟨hrequests.trans hsame, hwritten.trans hrows⟩
      · intro hmembers hsame
        rw [hstart] at hsame
        rw [hdecided]
        change Settled stored _ (given reply whole.requests)
        rw [hstart]
        exact hparity (team_keyed _ _ _ _ first rest (hroster ▸ hmembers) _)
          (hrequests.symm.trans hsame)

theorem sample_provides (text : CompletionRequest ℤ → JsString) :
    Provides (sampleEnvironment text none) fun _ => text :=
  ⟨fun _ _ _ => ⟨none, rfl⟩, fun _ _ _ => ⟨rfl, rfl⟩⟩

def handingOver (request : CompletionRequest ℤ) : JsString :=
  if request.messages.length = 1 then js "[NEXT: @Bob] over to you" else js "[DONE]"

theorem team_parity_handover :
    let env := sampleEnvironment handingOver none
    let db := sampleTables .autonomous
    let chat : ChatRow := ⟨js "d", none, some (js "t"), none, none, []⟩
    let whole := (completeChat env (js "d") plainDto (.start db)).final
    let streamed := (streamChat env (js "d") plainDto (.start db)).final
    let texts := given (fun _ => handingOver) whole.requests
    Takes chat plainDto (js "t") db whole ∧ Takes chat plainDto (js "t") db streamed ∧
      (DecidedAlike env chat plainDto (js "t") db texts →
        streamed.requests = whole.requests ∧ written db streamed = written db whole) ∧
      (((getActiveTeamMembers db (js "t")).map (·.agentId)).Nodup →
        streamed.requests = whole.requests → DecidedAlike env chat plainDto (js "t") db texts) ∧
      ((effectiveStrategy plainDto (db.team (js "t")) = .coordinator ∨
          effectiveStrategy plainDto (db.team (js "t")) = .autonomous →
        ∀ text ∈ texts, NamesAlike env.toLowerCase (getActiveTeamMembers db (js "t")) text) →
        DecidedAlike env chat plainDto (js "t") db texts) := by
  have hwhole : ∃ replies, (completeChat (sampleEnvironment handingOver none) (js "d") plainDto
      (.start (sampleTables .autonomous))).result = .ok replies := ok_of_isOk _ (by decide +kernel)
  have hstreamed : ∃ u, (streamChat (sampleEnvironment handingOver none) (js "d") plainDto
      (.start (sampleTables .autonomous))).result = .ok u := ok_of_isOk _ (by decide +kernel)
  obtain ⟨_, hstreamed⟩ := hstreamed
  exact team_parity (sampleEnvironment handingOver none)
    ⟨fun _ _ => rfl, fun _ => rfl, fun _ => rfl, fun _ _ => rfl⟩ _ (sample_provides handingOver)
    (sampleTables .autonomous) (sampleTables_fresh .autonomous handingOver none) (js "d")
    ⟨js "d", none, some (js "t"), none, none, []⟩ (js "t") plainDto
    (sampleTables_chat .autonomous) rfl hwhole hstreamed

def tornHandingOver (request : CompletionRequest ℤ) : JsString :=
  if request.messages.length = 1 then js "[NEXT: " ++ [0xD83D] ++ js "]" else js "[DONE]"

def tornTables : Tables ℤ :=
  { sampleTables .autonomous with
    agents := [sampleAgent "Ann", { sampleAgent "Bob" with name := [0xFFFD] }] }

/-- Only the text that is read back names Bob. -/
theorem torn_handover :
    let env := sampleEnvironment tornHandingOver none
    let whole := completeChat env (js "d") plainDto (.start tornTables)
    let streamed := streamChat env (js "d") plainDto (.start tornTables)
    whole.result.isOk = true ∧ streamed.result.isOk = true ∧
      whole.final.requests.map Prod.fst = [js "Ann", js "Bob"] ∧
      streamed.final.requests.map Prod.fst = [js "Ann"] := by
  decide +kernel

end Glassbeetle.TeamParity
