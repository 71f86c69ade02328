import Glassbeetle.MessageSequences

set_option autoImplicit false

namespace Glassbeetle.ChatRecency
open JsText Database ContextConstruction ExecutionChain AdapterTypes Inference Transactions MessageWrites Runs

variable {ν : Type}

/-- The transaction at the end of `compactChat`. -/
def recordCompaction (calls : Calls) (chatId newSummary : JsString)
    (newCompactedBeforeSequence : ℤ) (usage : Option UsageEventRow) :
    Tables ν → Except SqliteError Unit × Tables ν :=
  transaction (calls.fault 0 0) (calls.fault 0 3) (do
    statement (calls.fault 0 1) fun db : Tables ν => .ok ((), { db with
      chats := db.chats.map fun chat =>
        if chat.id = chatId then { chat with
          contextSummary := some newSummary
          compactedBeforeSequence := some newCompactedBeforeSequence
          updatedAt := calls.nowIso 0 }
        else chat })
    match usage with
    | some event => statement (calls.fault 0 2) (MessageWrites.insertUsageEvent event)
    | none => return ())

/-- `INSERT INTO chats`, with the constraints of the table. -/
def insertChat (calls : Calls) (id : JsString) (agentId teamId : Option JsString) (db : Tables ν) :
    Tables ν :=
  (autocommit (statement (calls.fault 0 0) fun db : Tables ν =>
    if agentId.isSome = teamId.isSome then
      .error ⟨js "SQLITE_CONSTRAINT_CHECK", js "CHECK constraint failed: chats"⟩
    else if id ∈ db.chats.map (·.id) then
      .error ⟨js "SQLITE_CONSTRAINT_PRIMARYKEY", js "UNIQUE constraint failed: chats.id"⟩
    else if agentId.any (fun id => (db.agent id).isNone) ∨
        teamId.any (fun id => (db.team id).isNone) then
      .error ⟨js "SQLITE_CONSTRAINT_FOREIGNKEY", js "FOREIGN KEY constraint failed"⟩
    else .ok ((), { db with
      chats := db.chats ++ [⟨id, agentId, teamId, none, none, calls.nowIso 0⟩] }))
    db).2

inductive Operation (ν : Type) where
  | messages (action : MessageSequences.Action ν)
  | compactChat (calls : Calls) (chatId newSummary : JsString) (newCompactedBeforeSequence : ℤ)
      (usage : Option UsageEventRow)
  | createChat (calls : Calls) (id : JsString) (agentId teamId : Option JsString)
  | updateChat (calls : Calls) (chatId : JsString)
  /-- Anything that happens to the other tables. -/
  | elsewhere (tables : Tables ν)

def perform (db : Tables ν) : Operation ν → Tables ν
  | .messages action => MessageSequences.step db action
  | .compactChat calls chatId newSummary boundary usage =>
    (recordCompaction calls chatId newSummary boundary usage db).2
  | .createChat calls id agentId teamId => insertChat calls id agentId teamId db
  | .updateChat calls chatId =>
    (autocommit (statement (calls.fault 0 0) (touchChat chatId (calls.nowIso 0))) db).2
  | .elsewhere tables => { tables with chats := db.chats, messages := db.messages }

def callsOf : MessageSequences.Action ν → Calls
  | .create calls .. => calls
  | .createPendingMessageRow calls .. => calls
  | .persistAssistantReply calls .. => calls
  | .recordTurnErrorRow calls .. => calls
  | .flushPartial calls .. => calls
  | .deleteAgent calls .. => calls
  | .deleteChat calls .. => calls

def Reads : Operation ν → JsString → Prop
  | .messages action, now => (∃ n ≤ maxRetries, (callsOf action).nowIso n = now) ∨
      ∃ calls chatId dto options, action = .create calls chatId dto options ∧
        truthy options.now = some now
  | .compactChat calls .., now => calls.nowIso 0 = now
  | .createChat calls .., now => calls.nowIso 0 = now
  | .updateChat calls .., now => calls.nowIso 0 = now
  | .elsewhere _, _ => False

structure World (ν : Type) where
  db : Tables ν
  clock : JsString

structure Event (ν : Type) where
  operation : Operation ν
  finished : JsString

def step (w : World ν) (event : Event ν) : World ν :=
  ⟨perform w.db event.operation, event.finished⟩

/-- The clock does not go back. -/
def Ticking (w : World ν) (event : Event ν) : Prop :=
  w.clock ≤ event.finished ∧
    ∀ now, Reads event.operation now → w.clock ≤ now ∧ now ≤ event.finished

def Recent (db : Tables ν) : Prop :=
  ∀ chat ∈ db.chats, ∀ row ∈ db.messages, row.chatId = chat.id → row.createdAt ≤ chat.updatedAt

/-- Rows of `s` are left as old as they were, a new row's chat is as recent as the row, and a chat
that was written is as recent as the clock. -/
structure Advanced (earlier later : JsString) (s t : Tables ν) : Prop where
  messages : ∀ row ∈ t.messages,
    (∃ old ∈ s.messages, old.chatId = row.chatId ∧ old.createdAt = row.createdAt) ∨
      row.createdAt ≤ later ∧
        ∀ chat ∈ t.chats, chat.id = row.chatId → row.createdAt ≤ chat.updatedAt
  chats : ∀ chat ∈ t.chats,
    (∃ old ∈ s.chats, old.id = chat.id ∧ old.updatedAt = chat.updatedAt) ∨
      earlier ≤ chat.updatedAt

theorem advanced_recent (earlier later : JsString) (s t : Tables ν)
    (hclock : ∀ row ∈ s.messages, row.createdAt ≤ earlier) (hs : Recent s)
    (h : Advanced earlier later s t) : Recent t := by
  intro chat hchat row hrow hid
  rcases h.messages row hrow with ⟨old, hold, hsame, hcreated⟩ | ⟨-, hnew⟩
  · rw [← hcreated]
    rcases h.chats chat hchat with ⟨before, hbefore, hbid, hupdated⟩ | hwritten
    · rw [← hupdated]
      exact hs before hbefore old hold (hsame.trans (hid.trans hbid.symm))
    · exact List.le_trans (hclock old hold) hwritten
  · exact hnew chat hchat hid.symm

theorem advanced_clock (earlier later : JsString) (s t : Tables ν) (hle : earlier ≤ later)
    (hclock : ∀ row ∈ s.messages, row.createdAt ≤ earlier) (h : Advanced earlier later s t) :
    ∀ row ∈ t.messages, row.createdAt ≤ later := by
  intro row hrow
  rcases h.messages row hrow with ⟨old, hold, -, hcreated⟩ | ⟨hnew, -⟩
  · rw [← hcreated]
    exact List.le_trans (hclock old hold) hle
  · exact hnew

theorem advanced_refl (earlier later : JsString) (s t : Tables ν) (hmessages : t.messages = s.messages)
    (hchats : t.chats = s.chats) : Advanced earlier later s t :=
  ⟨fun row hrow => .inl ⟨row, hmessages ▸ hrow, rfl, rfl⟩,
    fun chat hchat => .inl ⟨chat, hchats ▸ hchat, rfl, rfl⟩⟩

/-- A message was inserted and its chat touched at the same time. -/
def Posted (chatId earlier later : JsString) (s : Tables ν) (row : MessageRow) (t : Tables ν) : Prop :=
  row.chatId = chatId ∧ earlier ≤ row.createdAt ∧ row.createdAt ≤ later ∧
    t.messages = s.messages ++ [row] ∧ t.chats = s.chats.map (touchRow chatId row.createdAt)

theorem posted_advanced (chatId earlier later : JsString) (s : Tables ν) (row : MessageRow)
    (t : Tables ν) (h : Posted chatId earlier later s row t) : Advanced earlier later s t := by
  obtain ⟨hchat, hearlier, hlater, hmessages, hchats⟩ := h
  have htouched : ∀ chat ∈ t.chats, chat.id = chatId ∧ chat.updatedAt = row.createdAt ∨
      chat.id ≠ chatId ∧ chat ∈ s.chats := by
    intro chat hin
    rw [hchats] at hin
    obtain ⟨old, hold, rfl⟩ := List.mem_map.mp hin
    unfold touchRow
    split_ifs with hid
    · exact .inl ⟨hid, rfl⟩
    · exact .inr ⟨hid, hold⟩
  refine ⟨fun other hother => ?_, fun chat hin => ?_⟩
  · rw [hmessages] at hother
    rcases List.mem_append.mp hother with hother | hother
    · exact .inl ⟨other, hother, rfl, rfl⟩
    · obtain rfl := List.mem_singleton.mp hother
      refine .inr ⟨hlater, fun chat hin hid => ?_⟩
      rcases htouched chat hin with ⟨-, hupdated⟩ | ⟨hne, -⟩
      · exact hupdated ▸ List.le_refl _
      · exact absurd (hid.trans hchat) hne
  · rcases htouched chat hin with ⟨-, hupdated⟩ | ⟨-, hold⟩
    · exact .inr (hupdated ▸ hearlier)
    · exact .inl ⟨chat, hold, rfl, rfl⟩

theorem atomic_advanced {ε : Type} (chatId earlier later : JsString) (s : Tables ν)
    (outcome : Except ε MessageRow × Tables ν)
    (h : Atomic (Posted chatId earlier later) s outcome) : Advanced earlier later s outcome.2 := by
  match outcome, h with
  | (.error _, after), h => exact advanced_refl earlier later s after (by rw [h]) (by rw [h])
  | (.ok row, after), h => exact posted_advanced chatId earlier later s row after h

theorem settle_snd {σ ε ε' α β : Type} (answer : α → β) (failure : ε → ε')
    (outcome : Except ε α × σ) : (settle answer failure outcome).2 = outcome.2 := by
  match outcome with
  | (.error _, _) => rfl
  | (.ok _, _) => rfl

section Inserts
variable (earlier later : JsString)

theorem insertMessage_created (m : NewMessage) (s : Tables ν) (row : MessageRow) (t : Tables ν)
    (h : insertMessage m s = .ok (row, t)) :
    row.chatId = m.chatId ∧ row.createdAt = m.createdAt ∧
      t = { s with messages := s.messages ++ [row] } := by
  unfold insertMessage at h
  dsimp only at h
  split_ifs at h
  cases h
  exact ⟨rfl, rfl, rfl⟩

theorem touchChat_ok (chatId now : JsString) (fault : Option SqliteError) (s t : Tables ν)
    (u : Unit) (h : statement fault (touchChat chatId now) s = .ok (u, t)) :
    t = s.touchChat chatId now := by
  obtain ⟨-, rfl⟩ := Prod.mk.inj (Except.ok.inj (statement_ok _ _ _ _ _ h).2)
  rfl

theorem insertUsageEvent_same (event : UsageEventRow) (fault : Option SqliteError)
    (s t : Tables ν) (u : Unit)
    (h : statement fault (MessageWrites.insertUsageEvent event) s = .ok (u, t)) :
    t.messages = s.messages ∧ t.chats = s.chats := by
  have hrun := (statement_ok _ _ _ _ _ h).2
  unfold MessageWrites.insertUsageEvent at hrun
  split_ifs at hrun
  unfold Tables.insertUsageEvent at hrun
  split_ifs at hrun
  cases hrun
  exact ⟨rfl, rfl⟩

theorem insertAttempt_posted (calls : Calls) (m : NewMessage) (now : JsString) (attempt : ℕ)
    (s : Tables ν) (hnow : m.createdAt = now) (hearlier : earlier ≤ now) (hlater : now ≤ later) :
    Atomic (Posted m.chatId earlier later) s (insertAttempt calls m now attempt s) := by
  refine transaction_atomic _ _ _ _ s fun row t hrun => ?_
  obtain ⟨first, mid, hinsert, hrun⟩ := bind_ok _ _ s row t hrun
  obtain ⟨_, after, htouch, hrun⟩ := bind_ok _ _ mid row t hrun
  obtain ⟨hchat, hcreated, hmid⟩ := insertMessage_created m s first mid
    (statement_ok _ _ _ _ _ hinsert).2
  have hafter := touchChat_ok _ _ _ _ _ _ htouch
  obtain ⟨rfl, rfl⟩ := pure_ok first row after t hrun
  rw [hnow] at hcreated
  exact ⟨hchat, hcreated ▸ hearlier, hcreated ▸ hlater, by rw [hafter, hmid]; rfl,
    by rw [hafter, hmid, hcreated]; rfl⟩

theorem persistAttempt_posted (calls : Calls) (chat : ChatRow) (agent : AgentRow ν)
    (execution : Execution ν) (response : CompletionResponse) (attempt : ℕ) (s : Tables ν)
    (hearlier : earlier ≤ calls.nowIso attempt) (hlater : calls.nowIso attempt ≤ later) :
    Atomic (Posted chat.id earlier later) s
      (persistAttempt calls chat agent execution response attempt s) := by
  refine transaction_atomic _ _ _ _ s fun row t hrun => ?_
  obtain ⟨first, mid, hinsert, hrun⟩ := bind_ok _ _ s row t hrun
  obtain ⟨_, after, htouch, hrun⟩ := bind_ok _ _ mid row t hrun
  obtain ⟨_, last, husage, hrun⟩ := bind_ok _ _ after row t hrun
  obtain ⟨hchat, hcreated, hmid⟩ := insertMessage_created _ s first mid
    (statement_ok _ _ _ _ _ hinsert).2
  have hafter := touchChat_ok _ _ _ _ _ _ htouch
  obtain ⟨hmessages, hchats⟩ := insertUsageEvent_same _ _ _ _ _ husage
  obtain ⟨rfl, rfl⟩ := pure_ok first row last t hrun
  dsimp only at hcreated
  exact ⟨hchat, hcreated ▸ hearlier, hcreated ▸ hlater,
    by rw [hmessages, hafter, hmid]; rfl, by rw [hchats, hafter, hmid, hcreated]; rfl⟩

end Inserts

section Steps
variable (earlier later : JsString)

theorem create_advanced (calls : Calls) (chatId : JsString) (dto : CreateMessageDto)
    (options : CreateOptions) (s : Tables ν)
    (hnow : ∀ n ≤ maxRetries, earlier ≤ calls.nowIso n ∧ calls.nowIso n ≤ later)
    (hgiven : ∀ now, truthy options.now = some now → earlier ≤ now ∧ now ≤ later) :
    Advanced earlier later s (create calls chatId dto options s).2 := by
  unfold create
  cases checkReferences calls chatId dto s with
  | error failure => exact advanced_refl earlier later s s rfl rfl
  | ok u =>
    dsimp only
    rw [settle_snd]
    refine atomic_advanced chatId earlier later s _ (retry_within _ _ _ s _ _ fun n _ hn => ?_)
    have hread := hnow n (by unfold maxRetries at hn ⊢; omega)
    have hused : earlier ≤ (if n = 1 then (truthy options.now).getD (calls.nowIso n)
        else calls.nowIso n) ∧
        (if n = 1 then (truthy options.now).getD (calls.nowIso n) else calls.nowIso n) ≤ later := by
      split_ifs
      · cases hfixed : truthy options.now with
        | none => exact hread
        | some now => exact hgiven now hfixed
      · exact hread
    exact insertAttempt_posted earlier later calls _ _ n s rfl hused.1 hused.2

theorem createPendingMessageRow_advanced (calls : Calls) (chatId agentId : JsString) (s : Tables ν)
    (hnow : ∀ n ≤ maxRetries, earlier ≤ calls.nowIso n ∧ calls.nowIso n ≤ later) :
    Advanced earlier later s (MessageWrites.createPendingMessageRow calls chatId agentId s).2 := by
  have hread := hnow 0 (Nat.zero_le _)
  unfold MessageWrites.createPendingMessageRow
  dsimp only
  rw [settle_snd]
  exact atomic_advanced chatId earlier later s _ (retry_within _ _ _ s _ _ fun n _ _ =>
    insertAttempt_posted earlier later calls _ _ n s rfl hread.1 hread.2)

theorem persistAssistantReply_advanced (calls : Calls) (chat : ChatRow) (agent : AgentRow ν)
    (execution : Execution ν) (response : CompletionResponse) (s : Tables ν)
    (hnow : ∀ n ≤ maxRetries, earlier ≤ calls.nowIso n ∧ calls.nowIso n ≤ later) :
    Advanced earlier later s
      (MessageWrites.persistAssistantReply calls chat agent execution response s).2 := by
  unfold MessageWrites.persistAssistantReply
  rw [settle_snd]
  refine atomic_advanced chat.id earlier later s _ (retry_within _ _ _ s _ _ fun n _ hn => ?_)
  have hread := hnow n (by unfold maxRetries at hn ⊢; omega)
  exact persistAttempt_posted earlier later calls chat agent execution response n s hread.1 hread.2

theorem touch_advanced (chatId now : JsString) (s t : Tables ν) (hearlier : earlier ≤ now)
    (hmessages : ∀ row ∈ t.messages, ∃ old ∈ s.messages,
      old.chatId = row.chatId ∧ old.createdAt = row.createdAt)
    (hchats : t.chats = s.chats ∨ t.chats = s.chats.map (touchRow chatId now)) :
    Advanced earlier later s t := by
  refine ⟨fun row hrow => .inl (hmessages row hrow), fun chat hin => ?_⟩
  rcases hchats with hchats | hchats
  · exact .inl ⟨chat, hchats ▸ hin, rfl, rfl⟩
  · rw [hchats] at hin
    obtain ⟨old, hold, rfl⟩ := List.mem_map.mp hin
    unfold touchRow
    split_ifs
    · exact .inr hearlier
    · exact .inl ⟨old, hold, rfl, rfl⟩

theorem flushPartial_advanced (calls : Calls) (chatId messageId : JsString)
    (newStatus : MessageStatus) (accumulatedContent : JsString) (tokenCount : Option ℤ)
    (s : Tables ν) (hnow : earlier ≤ calls.nowIso 0) :
    Advanced earlier later s (MessageWrites.flushPartial calls chatId messageId newStatus
      accumulatedContent tokenCount s).2 := by
  have hwritten : ∀ row ∈ (s.writeMessage messageId newStatus accumulatedContent tokenCount).messages,
      ∃ old ∈ s.messages, old.chatId = row.chatId ∧ old.createdAt = row.createdAt := by
    intro row hrow
    obtain ⟨old, hold, rfl⟩ := List.mem_map.mp hrow
    refine ⟨old, hold, ?_⟩
    unfold writeRow
    split_ifs <;> exact ⟨rfl, rfl⟩
  unfold MessageWrites.flushPartial
  cases calls.fault 0 0 with
  | some error => exact advanced_refl earlier later s s rfl rfl
  | none =>
    cases calls.fault 0 1 with
    | some error =>
      exact touch_advanced earlier later chatId (calls.nowIso 0) s _ hnow hwritten (.inl rfl)
    | none =>
      exact touch_advanced earlier later chatId (calls.nowIso 0) s _ hnow hwritten (.inr rfl)

theorem deleteAgent_advanced (calls : Calls) (id : JsString) (s : Tables ν) :
    Advanced earlier later s (MessageWrites.deleteAgent calls id s).2 := by
  unfold MessageWrites.deleteAgent
  cases calls.fault 0 0 with
  | some error => exact advanced_refl earlier later s s rfl rfl
  | none =>
    dsimp only
    cases hdelete : TeamMembers.deleteAgent s id with
    | error failure => exact advanced_refl earlier later s s rfl rfl
    | ok after =>
      unfold TeamMembers.deleteAgent Tables.deleteAgent at hdelete
      split_ifs at hdelete
      cases hdelete
      refine ⟨fun row hrow => ?_, fun chat hin => .inl ⟨chat, hin, rfl, rfl⟩⟩
      obtain ⟨old, hold, rfl⟩ := List.mem_map.mp hrow
      exact .inl ⟨old, hold, rfl, rfl⟩

theorem deleteChat_advanced (calls : Calls) (id : JsString) (s : Tables ν) :
    Advanced earlier later s (MessageWrites.deleteChat calls id s).2 := by
  unfold MessageWrites.deleteChat
  cases calls.fault 0 0 with
  | some error => exact advanced_refl earlier later s s rfl rfl
  | none =>
    dsimp only
    split_ifs
    · exact advanced_refl earlier later s s rfl rfl
    · exact ⟨fun row hrow => .inl ⟨row, (List.mem_filter.mp hrow).1, rfl, rfl⟩,
        fun chat hin => .inl ⟨chat, (List.mem_filter.mp hin).1, rfl, rfl⟩⟩

theorem recordCompaction_advanced (calls : Calls) (chatId newSummary : JsString) (boundary : ℤ)
    (usage : Option UsageEventRow) (s : Tables ν) (hnow : earlier ≤ calls.nowIso 0) :
    Advanced earlier later s (recordCompaction calls chatId newSummary boundary usage s).2 := by
  have hatomic : Atomic (fun s _ t => Advanced earlier later s t) s
      (recordCompaction calls chatId newSummary boundary usage s) := by
    refine transaction_atomic _ _ _ _ s fun u t hrun => ?_
    obtain ⟨_, mid, hupdate, hrun⟩ := bind_ok _ _ s u t hrun
    obtain ⟨-, hmid⟩ := Prod.mk.inj (Except.ok.inj (statement_ok _ _ _ _ _ hupdate).2)
    have hsame : t.messages = mid.messages ∧ t.chats = mid.chats := by
      cases usage with
      | some event => exact insertUsageEvent_same event _ mid t u hrun
      | none =>
        obtain ⟨-, rfl⟩ := pure_ok () u mid t hrun
        exact ⟨rfl, rfl⟩
    rw [← hmid] at hsame
    refine ⟨fun row hrow => .inl ⟨row, hsame.1 ▸ hrow, rfl, rfl⟩, fun chat hin => ?_⟩
    rw [hsame.2] at hin
    obtain ⟨old, hold, rfl⟩ := List.mem_map.mp hin
    split_ifs
    · exact .inr hnow
    · exact .inl ⟨old, hold, rfl, rfl⟩
  match recordCompaction calls chatId newSummary boundary usage s, hatomic with
  | (.error _, after), hatomic =>
    exact advanced_refl earlier later s after (by rw [hatomic]) (by rw [hatomic])
  | (.ok _, after), hatomic => exact hatomic

theorem insertChat_advanced (calls : Calls) (id : JsString) (agentId teamId : Option JsString)
    (s : Tables ν) (hnow : earlier ≤ calls.nowIso 0) :
    Advanced earlier later s (insertChat calls id agentId teamId s) := by
  unfold insertChat autocommit
  cases calls.fault 0 0 with
  | some error => exact advanced_refl earlier later s s rfl rfl
  | none =>
    rw [statement_none]
    split_ifs
    · exact advanced_refl earlier later s s rfl rfl
    · exact advanced_refl earlier later s s rfl rfl
    · exact advanced_refl earlier later s s rfl rfl
    · refine ⟨fun row hrow => .inl ⟨row, hrow, rfl, rfl⟩, fun chat hin => ?_⟩
      rcases List.mem_append.mp hin with hin | hin
      · exact .inl ⟨chat, hin, rfl, rfl⟩
      · exact .inr (List.mem_singleton.mp hin ▸ hnow)

theorem updateChat_advanced (calls : Calls) (chatId : JsString) (s : Tables ν)
    (hnow : earlier ≤ calls.nowIso 0) : Advanced earlier later s
      (autocommit (statement (calls.fault 0 0) (touchChat chatId (calls.nowIso 0))) s).2 := by
  unfold autocommit
  cases calls.fault 0 0 with
  | some error => exact advanced_refl earlier later s s rfl rfl
  | none =>
    exact touch_advanced earlier later chatId (calls.nowIso 0) s _ hnow
      (fun row hrow => ⟨row, hrow, rfl, rfl⟩) (.inr rfl)

end Steps

/-- When the row of a failed turn can be inserted. -/
def Accepts (calls : Calls) (chatId agentId : JsString) (db : Tables ν) : Prop :=
  calls.fault 0 0 = none ∧ calls.newId 0 ∉ db.messages.map (·.id) ∧
    (db.chat chatId).isSome ∧ (db.agent agentId).isSome

theorem recordTurnErrorRow_refused (calls : Calls) (chatId agentId : JsString) (db : Tables ν)
    (h : ¬Accepts calls chatId agentId db) : recordTurnErrorRow calls chatId agentId db = db := by
  unfold recordTurnErrorRow autocommit
  cases hfault : calls.fault 0 0 with
  | some error => rfl
  | none =>
    rw [statement_none]
    by_cases hid : calls.newId 0 ∈ db.messages.map (·.id)
    · unfold insertMessage
      dsimp only [NewMessage.row]
      rw [if_neg (by decide), if_pos hid]
    · rw [insertMessage_assistant db _ _ _ _ _ _ _ hid, Tables.insertMessage,
        if_neg (fun hboth => h ⟨hfault, hid, hboth⟩)]

theorem recordTurnErrorRow_accepted (calls : Calls) (chatId agentId : JsString) (db : Tables ν)
    (h : Accepts calls chatId agentId db) :
    ∃ row : MessageRow, row.chatId = chatId ∧ row.createdAt = calls.nowIso 0 ∧
      recordTurnErrorRow calls chatId agentId db = { db with messages := db.messages ++ [row] } := by
  obtain ⟨hfault, hid, hboth⟩ := h
  unfold recordTurnErrorRow autocommit
  rw [hfault, statement_none, insertMessage_assistant db _ _ _ _ _ _ _ hid, Tables.insertMessage,
    if_pos hboth]
  exact ⟨_, rfl, rfl, rfl⟩

theorem event_advanced (w : World ν) (event : Event ν) (hticking : Ticking w event)
    (hother : ∀ calls chatId agentId,
      event.operation ≠ .messages (.recordTurnErrorRow calls chatId agentId)) :
    Advanced w.clock event.finished w.db (step w event).db := by
  obtain ⟨operation, finished⟩ := event
  obtain ⟨-, hreads⟩ := hticking
  change Advanced w.clock finished w.db (perform w.db operation)
  dsimp only at hreads
  cases operation with
  | messages action =>
    have hnow : ∀ n ≤ maxRetries,
        w.clock ≤ (callsOf action).nowIso n ∧ (callsOf action).nowIso n ≤ finished :=
      fun n hn => hreads _ (.inl ⟨n, hn, rfl⟩)
    cases action with
    | create calls chatId dto options =>
      exact create_advanced w.clock finished calls chatId dto options w.db hnow
        fun now hgiven => hreads now (.inr ⟨calls, chatId, dto, options, rfl, hgiven⟩)
    | createPendingMessageRow calls chatId agentId =>
      exact createPendingMessageRow_advanced w.clock finished calls chatId agentId w.db hnow
    | persistAssistantReply calls chat agent execution response =>
      exact persistAssistantReply_advanced w.clock finished calls chat agent execution response
        w.db hnow
    | recordTurnErrorRow calls chatId agentId => exact absurd rfl (hother calls chatId agentId)
    | flushPartial calls chatId messageId newStatus accumulatedContent tokenCount =>
      exact flushPartial_advanced w.clock finished calls chatId messageId newStatus
        accumulatedContent tokenCount w.db (hnow 0 (Nat.zero_le _)).1
    | deleteAgent calls id => exact deleteAgent_advanced w.clock finished calls id w.db
    | deleteChat calls id => exact deleteChat_advanced w.clock finished calls id w.db
  | compactChat calls chatId newSummary boundary usage =>
    exact recordCompaction_advanced w.clock finished calls chatId newSummary boundary usage w.db
      (hreads _ rfl).1
  | createChat calls id agentId teamId =>
    exact insertChat_advanced w.clock finished calls id agentId teamId w.db (hreads _ rfl).1
  | updateChat calls chatId =>
    exact updateChat_advanced w.clock finished calls chatId w.db (hreads _ rfl).1
  | elsewhere tables => exact advanced_refl w.clock finished w.db _ rfl rfl

theorem errorRow_recent (calls : Calls) (chatId agentId : JsString) (db : Tables ν)
    (hrecent : Recent db) : Recent (recordTurnErrorRow calls chatId agentId db) ↔
      (Accepts calls chatId agentId db → ∀ chat ∈ db.chats, chat.id = chatId →
        calls.nowIso 0 ≤ chat.updatedAt) := by
  by_cases haccepts : Accepts calls chatId agentId db
  · obtain ⟨new, hchat, hcreated, hdb⟩ := recordTurnErrorRow_accepted calls chatId agentId db haccepts
    rw [hdb, ← hcreated]
    constructor
    · intro h _ chat hin hid
      exact h chat hin new (List.mem_append_right _ (List.mem_singleton.mpr rfl))
        (hchat.trans hid.symm)
    · intro h chat hin row hrow hid
      rcases List.mem_append.mp hrow with hrow | hrow
      · exact hrecent chat hin row hrow hid
      · obtain rfl := List.mem_singleton.mp hrow
        exact h haccepts chat hin (hid.symm.trans hchat)
  · rw [recordTurnErrorRow_refused calls chatId agentId db haccepts]
    exact ⟨fun _ h => absurd h haccepts, fun _ => hrecent⟩

theorem errorRow_clock (calls : Calls) (chatId agentId earlier later : JsString) (db : Tables ν)
    (hle : earlier ≤ later) (hnow : calls.nowIso 0 ≤ later)
    (hclock : ∀ row ∈ db.messages, row.createdAt ≤ earlier) :
    ∀ row ∈ (recordTurnErrorRow calls chatId agentId db).messages, row.createdAt ≤ later := by
  intro row hrow
  by_cases haccepts : Accepts calls chatId agentId db
  · obtain ⟨new, -, hcreated, hdb⟩ := recordTurnErrorRow_accepted calls chatId agentId db haccepts
    rw [hdb] at hrow
    rcases List.mem_append.mp hrow with hrow | hrow
    · exact List.le_trans (hclock row hrow) hle
    · rw [List.mem_singleton.mp hrow, hcreated]
      exact hnow
  · rw [recordTurnErrorRow_refused calls chatId agentId db haccepts] at hrow
    exact List.le_trans (hclock row hrow) hle

def Clocked (w : World ν) : Prop := ∀ row ∈ w.db.messages, row.createdAt ≤ w.clock

theorem event_clocked (w : World ν) (event : Event ν) (hclock : Clocked w)
    (hticking : Ticking w event) : Clocked (step w event) := by
  by_cases herror : ∃ calls chatId agentId,
      event.operation = .messages (.recordTurnErrorRow calls chatId agentId)
  · obtain ⟨calls, chatId, agentId, hoperation⟩ := herror
    have hdb : (step w event).db = recordTurnErrorRow calls chatId agentId w.db := by
      unfold step
      rw [hoperation]
      rfl
    have hnow := (hticking.2 (calls.nowIso 0)
      (by rw [hoperation]; exact .inl ⟨0, Nat.zero_le _, rfl⟩)).2
    unfold Clocked
    rw [hdb]
    exact errorRow_clock calls chatId agentId w.clock event.finished w.db hticking.1 hnow hclock
  · have hother : ∀ calls chatId agentId,
        event.operation ≠ .messages (.recordTurnErrorRow calls chatId agentId) :=
      fun calls chatId agentId h => herror ⟨calls, chatId, agentId, h⟩
    exact advanced_clock w.clock event.finished w.db _ hticking.1 hclock
      (event_advanced w event hticking hother)

/-- A failed turn's row is recorded no later than the chat was updated. -/
def Timely (w : World ν) (event : Event ν) : Prop :=
  ∀ calls chatId agentId, event.operation = .messages (.recordTurnErrorRow calls chatId agentId) →
    Accepts calls chatId agentId w.db → ∀ chat ∈ w.db.chats, chat.id = chatId →
      calls.nowIso 0 ≤ chat.updatedAt

theorem event_recent (w : World ν) (event : Event ν) (hclock : Clocked w) (hrecent : Recent w.db)
    (hticking : Ticking w event) : Recent (step w event).db ↔ Timely w event := by
  by_cases herror : ∃ calls chatId agentId,
      event.operation = .messages (.recordTurnErrorRow calls chatId agentId)
  · obtain ⟨calls, chatId, agentId, hoperation⟩ := herror
    have hdb : (step w event).db = recordTurnErrorRow calls chatId agentId w.db := by
      unfold step
      rw [hoperation]
      rfl
    rw [hdb, errorRow_recent calls chatId agentId w.db hrecent]
    constructor
    · intro h calls' chatId' agentId' hsame
      cases hoperation.symm.trans hsame
      exact h
    · exact fun h => h calls chatId agentId hoperation
  · have hother : ∀ calls chatId agentId,
        event.operation ≠ .messages (.recordTurnErrorRow calls chatId agentId) :=
      fun calls chatId agentId h => herror ⟨calls, chatId, agentId, h⟩
    exact ⟨fun _ calls chatId agentId h => absurd h (hother calls chatId agentId), fun _ =>
      advanced_recent w.clock event.finished w.db _ hclock hrecent
        (event_advanced w event hticking hother)⟩

def atStart (db : Tables ν) (clock : JsString) : World ν := ⟨MessageSequences.blank db, clock⟩

theorem ticking_messages (w : World ν) (action : MessageSequences.Action ν) (now : JsString)
    (hcalls : ∀ n, (callsOf action).nowIso n = now)
    (hoptions : ∀ calls chatId dto options, action = .create calls chatId dto options →
      options.now = none) (hle : w.clock ≤ now) : Ticking w ⟨.messages action, now⟩ := by
  refine ⟨hle, fun read hread => ?_⟩
  rcases hread with ⟨n, -, hread⟩ | ⟨calls, chatId, dto, options, haction, hgiven⟩
  · rw [← hread, hcalls n]
    exact ⟨hle, List.le_refl _⟩
  · rw [hoptions calls chatId dto options haction] at hgiven
    cases hgiven

section Sample

def callsAt (id now : String) : Calls := ⟨fun _ => js id, fun _ => js id, fun _ => js now, fun _ _ => none⟩

def failedTurn : List (Event ℤ) := [
  ⟨.messages (.create (callsAt "q" "2025-01-01T00:00:01.000Z") (js "d") ⟨js "hi", some (js "user"), none⟩
    ⟨none, none⟩), js "2025-01-01T00:00:01.000Z"⟩,
  ⟨.messages (.persistAssistantReply (callsAt "r" "2025-01-01T00:00:02.000Z")
    ⟨js "d", none, some (js "t"), none, none, []⟩ (Completions.sampleAgent "Ann") Completions.sampleExecution
    ⟨js "hello", none⟩), js "2025-01-01T00:00:02.000Z"⟩,
  ⟨.messages (.recordTurnErrorRow (callsAt "e" "2025-01-01T00:00:03.000Z") (js "d") (js "Bob")),
    js "2025-01-01T00:00:03.000Z"⟩]

def beforeTurn : World ℤ :=
  atStart (Completions.sampleTables .sequential) (js "2025-01-01T00:00:00.000Z")

theorem failedTurn_ticking : Allowed step Ticking beforeTurn failedTurn := by
  refine ⟨ticking_messages _ _ _ (fun _ => rfl) ?_ (by decide +kernel),
    ticking_messages _ _ _ (fun _ => rfl) ?_ (by decide +kernel),
    ticking_messages _ _ _ (fun _ => rfl) ?_ (by decide +kernel), trivial⟩
  · rintro calls chatId dto options ⟨⟩
    rfl
  · rintro calls chatId dto options ⟨⟩
  · rintro calls chatId dto options ⟨⟩

end Sample

/-- On a clock that does not go back every chat stays as recent as each of its messages exactly as
long as no failed turn's row is recorded later than the chat's last update. -/
theorem chat_recency (db : Tables ν) (clock : JsString) (events : List (Event ν))
    (hclock : Allowed step Ticking (atStart db clock) events) :
    (∀ w ∈ states step (atStart db clock) events, Recent w.db) ↔
      Allowed step Timely (atStart db clock) events :=
  run_given step Ticking Timely Clocked (fun w => Recent w.db)
    (fun w event hw _ hticking _ => event_clocked w event hw hticking)
    (fun w event hw hrecent hticking => event_recent w event hw hrecent hticking)
    (atStart db clock) events (fun _ hrow => nomatch hrow) (fun _ _ _ hrow => nomatch hrow) hclock

theorem chat_recency_failedTurn : (∀ w ∈ states step beforeTurn failedTurn, Recent w.db) ↔
    Allowed step Timely beforeTurn failedTurn :=
  chat_recency (Completions.sampleTables .sequential) (js "2025-01-01T00:00:00.000Z") failedTurn
    failedTurn_ticking

/-- Bob's row is a second younger than the chat's last update. -/
theorem failed_turn_not_recorded : Allowed step Ticking beforeTurn failedTurn ∧
    ¬∀ w ∈ states step beforeTurn failedTurn, Recent w.db := by
  refine ⟨failedTurn_ticking, fun h => ?_⟩
  have hlate : ∃ chat ∈ (failedTurn.foldl step beforeTurn).db.chats,
      ∃ row ∈ (failedTurn.foldl step beforeTurn).db.messages,
        row.chatId = chat.id ∧ ¬row.createdAt ≤ chat.updatedAt := by
    decide +kernel
  obtain ⟨chat, hchat, row, hrow, hid, hlate⟩ := hlate
  exact hlate (h _ (final_mem step beforeTurn failedTurn) chat hchat row hrow hid)

end Glassbeetle.ChatRecency
