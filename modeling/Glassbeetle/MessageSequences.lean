import Glassbeetle.MessageWrites
import Glassbeetle.Runs

set_option autoImplicit false

namespace Glassbeetle.MessageSequences
open JsText Database ExecutionChain AdapterTypes Inference Transactions MessageWrites

variable {ν : Type}

inductive Action (ν : Type) where
  | create (calls : Calls) (chatId : JsString) (dto : CreateMessageDto) (options : CreateOptions)
  | createPendingMessageRow (calls : Calls) (chatId agentId : JsString)
  | persistAssistantReply (calls : Calls) (chat : ChatRow) (agent : AgentRow ν)
      (execution : Execution ν) (response : CompletionResponse)
  | recordTurnErrorRow (calls : Calls) (chatId agentId : JsString)
  | flushPartial (calls : Calls) (chatId messageId : JsString) (newStatus : MessageStatus)
      (accumulatedContent : JsString) (tokenCount : Option ℤ)
  | deleteAgent (calls : Calls) (id : JsString)
  | deleteChat (calls : Calls) (id : JsString)

def perform (db : Tables ν) : Action ν → Except Failure Unit × Tables ν
  | .create calls chatId dto options => (create calls chatId dto options db).map (·.map fun _ => ()) id
  | .createPendingMessageRow calls chatId agentId =>
    (createPendingMessageRow calls chatId agentId db).map (·.map fun _ => ()) id
  | .persistAssistantReply calls chat agent execution response =>
    (persistAssistantReply calls chat agent execution response db).map (·.map fun _ => ()) id
  | .recordTurnErrorRow calls chatId agentId => (.ok (), recordTurnErrorRow calls chatId agentId db)
  | .flushPartial calls chatId messageId newStatus accumulatedContent tokenCount =>
    flushPartial calls chatId messageId newStatus accumulatedContent tokenCount db
  | .deleteAgent calls id => deleteAgent calls id db
  | .deleteChat calls id => deleteChat calls id db

def step (db : Tables ν) (action : Action ν) : Tables ν := (perform db action).2

def sequences (db : Tables ν) (chatId : JsString) : List ℤ :=
  (db.messages.filter (·.chatId = chatId)).map (·.sequence)

def upTo (n : ℕ) : List ℤ := (List.range n).map fun k : ℕ => (k : ℤ) + 1

structure Numbered (db : Tables ν) : Prop where
  dense : ∀ chatId, ∃ n, sequences db chatId = upTo n
  keyed : (db.messages.map (·.id)).Nodup

def InPlace (f : MessageRow → MessageRow) : Prop :=
  ∀ row, (f row).id = row.id ∧ (f row).chatId = row.chatId ∧ (f row).sequence = row.sequence

def Rewritten (s t : Tables ν) : Prop := ∃ f, InPlace f ∧ t.messages = s.messages.map f

inductive Effect (s t : Tables ν) : Prop
  | rewritten (h : Rewritten s t)
  | appended (row : MessageRow) (hseq : row.sequence = s.maxSequence row.chatId + 1)
      (hid : row.id ∉ s.messages.map (·.id)) (h : t.messages = s.messages ++ [row])
  | dropped (chatId : JsString) (h : t.messages = s.messages.filter (·.chatId ≠ chatId))

theorem rewritten_refl (s t : Tables ν) (h : t.messages = s.messages) : Rewritten s t :=
  ⟨id, fun _ => ⟨rfl, rfl, rfl⟩, by rw [h, List.map_id]⟩

/-- The row an `INSERT` gives back has the next number, a new key, and is the only change. -/
def Inserted (s : Tables ν) (row : MessageRow) (t : Tables ν) : Prop :=
  row.sequence = s.maxSequence row.chatId + 1 ∧ row.id ∉ s.messages.map (·.id) ∧
    t.messages = s.messages ++ [row]

theorem insertMessage_inserted (m : NewMessage) (s : Tables ν) (row : MessageRow) (t : Tables ν)
    (h : insertMessage m s = .ok (row, t)) : Inserted s row t := by
  unfold insertMessage at h
  dsimp only at h
  split_ifs at h with hrole hid hunique href
  cases h
  exact ⟨rfl, hid, rfl⟩

theorem touchChat_messages (chatId now : JsString) (fault : Option SqliteError) (s t : Tables ν)
    (u : Unit) (h : statement fault (touchChat chatId now) s = .ok (u, t)) :
    t.messages = s.messages := by
  obtain ⟨-, rfl⟩ := Prod.mk.inj (Except.ok.inj (statement_ok _ _ _ _ _ h).2)
  rfl

theorem insertUsageEvent_messages (event : UsageEventRow) (fault : Option SqliteError)
    (s t : Tables ν) (u : Unit)
    (h : statement fault (MessageWrites.insertUsageEvent event) s = .ok (u, t)) :
    t.messages = s.messages := by
  have hrun := (statement_ok _ _ _ _ _ h).2
  unfold MessageWrites.insertUsageEvent at hrun
  split_ifs at hrun
  unfold Tables.insertUsageEvent at hrun
  split_ifs at hrun
  cases hrun
  rfl

theorem insertAttempt_atomic (calls : Calls) (m : NewMessage) (now : JsString) (attempt : ℕ)
    (s : Tables ν) : Atomic Inserted s (insertAttempt calls m now attempt s) := by
  refine transaction_atomic Inserted _ _ _ s fun row t hrun => ?_
  obtain ⟨first, mid, hinsert, hrun⟩ := bind_ok _ _ s row t hrun
  obtain ⟨_, after, htouch, hrun⟩ := bind_ok _ _ mid row t hrun
  have hrow := insertMessage_inserted m s first mid (statement_ok _ _ _ _ _ hinsert).2
  have hchat := touchChat_messages _ _ _ _ _ _ htouch
  obtain ⟨rfl, rfl⟩ := pure_ok first row after t hrun
  exact ⟨hrow.1, hrow.2.1, hchat.trans hrow.2.2⟩

theorem persistAttempt_atomic (calls : Calls) (chat : ChatRow) (agent : AgentRow ν)
    (execution : Execution ν) (response : CompletionResponse) (attempt : ℕ) (s : Tables ν) :
    Atomic Inserted s (persistAttempt calls chat agent execution response attempt s) := by
  refine transaction_atomic Inserted _ _ _ s fun row t hrun => ?_
  obtain ⟨first, mid, hinsert, hrun⟩ := bind_ok _ _ s row t hrun
  obtain ⟨_, after, htouch, hrun⟩ := bind_ok _ _ mid row t hrun
  obtain ⟨_, last, husage, hrun⟩ := bind_ok _ _ after row t hrun
  have hrow := insertMessage_inserted _ s first mid (statement_ok _ _ _ _ _ hinsert).2
  have hchat := touchChat_messages _ _ _ _ _ _ htouch
  have hevent := insertUsageEvent_messages _ _ _ _ _ husage
  obtain ⟨rfl, rfl⟩ := pure_ok first row last t hrun
  exact ⟨hrow.1, hrow.2.1, (hevent.trans hchat).trans hrow.2.2⟩

def Tidy {α : Type} (s : Tables ν) (outcome : Except Failure α × Tables ν) : Prop :=
  match outcome with
  | (.error _, after) => Rewritten s after
  | (.ok _, after) => Effect s after

/-- A loop that inserts one row is tidy, whatever the caller makes of its outcome. -/
theorem settle_tidy {ε α : Type} (s : Tables ν) (outcome : Except ε MessageRow × Tables ν)
    (h : Atomic Inserted s outcome) (answer : MessageRow → α) (failure : ε → Failure) :
    Tidy s (settle answer failure outcome) := by
  match outcome, h with
  | (.error error, after), h =>
    obtain rfl : after = s := h
    exact rewritten_refl after after rfl
  | (.ok row, after), h => exact .appended row h.1 h.2.1 h.2.2

theorem create_tidy (calls : Calls) (chatId : JsString) (dto : CreateMessageDto)
    (options : CreateOptions) (s : Tables ν) : Tidy s (create calls chatId dto options s) := by
  unfold create
  cases checkReferences calls chatId dto s with
  | error failure => exact rewritten_refl s s rfl
  | ok _ =>
    exact settle_tidy s _ (retry_atomic Inserted isUniqueConstraint _ s
      (fun n => insertAttempt_atomic calls _ _ n s) _ _) _ _

theorem createPendingMessageRow_tidy (calls : Calls) (chatId agentId : JsString) (s : Tables ν) :
    Tidy s (MessageWrites.createPendingMessageRow calls chatId agentId s) :=
  settle_tidy s _ (retry_atomic Inserted isUniqueConstraint _ s
    (fun n => insertAttempt_atomic calls _ _ n s) _ _) id _

theorem persistAssistantReply_tidy (calls : Calls) (chat : ChatRow) (agent : AgentRow ν)
    (execution : Execution ν) (response : CompletionResponse) (s : Tables ν) :
    Tidy s (MessageWrites.persistAssistantReply calls chat agent execution response s) :=
  settle_tidy s _ (retry_atomic Inserted isUniqueConstraint _ s
    (fun n => persistAttempt_atomic calls chat agent execution response n s) _ _) _ _

theorem inserted_effect {ε : Type} (s : Tables ν) (outcome : Except ε MessageRow × Tables ν)
    (h : Atomic Inserted s outcome) : Effect s outcome.2 := by
  match outcome, h with
  | (.error error, after), h =>
    obtain rfl : after = s := h
    exact .rewritten (rewritten_refl after after rfl)
  | (.ok row, after), h => exact .appended row h.1 h.2.1 h.2.2

theorem recordTurnErrorRow_effect (calls : Calls) (chatId agentId : JsString) (s : Tables ν) :
    Effect s (recordTurnErrorRow calls chatId agentId s) :=
  inserted_effect s _ (autocommit_atomic Inserted _ s fun row t hrun =>
    insertMessage_inserted _ s row t (statement_ok _ _ _ _ _ hrun).2)

theorem writeRow_inPlace (id : JsString) (status : MessageStatus) (content : JsString)
    (tokenCount : Option ℤ) : InPlace (writeRow id status content tokenCount) := by
  intro row
  unfold writeRow
  split_ifs
  · exact ⟨rfl, rfl, rfl⟩
  · exact ⟨rfl, rfl, rfl⟩

theorem flushPartial_rewritten (calls : Calls) (chatId messageId : JsString)
    (newStatus : MessageStatus) (accumulatedContent : JsString) (tokenCount : Option ℤ)
    (s : Tables ν) :
    Rewritten s (MessageWrites.flushPartial calls chatId messageId newStatus accumulatedContent
      tokenCount s).2 := by
  have hwrite : Rewritten s (s.writeMessage messageId newStatus accumulatedContent tokenCount) :=
    ⟨_, writeRow_inPlace messageId newStatus accumulatedContent tokenCount, rfl⟩
  unfold MessageWrites.flushPartial
  cases h0 : calls.fault 0 0 with
  | some error => exact rewritten_refl s s rfl
  | none =>
    cases h1 : calls.fault 0 1 with
    | some error => exact hwrite
    | none => exact hwrite

theorem deleteAgent_rewritten (calls : Calls) (id : JsString) (s : Tables ν) :
    Rewritten s (MessageWrites.deleteAgent calls id s).2 := by
  unfold MessageWrites.deleteAgent
  cases calls.fault 0 0 with
  | some error => exact rewritten_refl s s rfl
  | none =>
    dsimp only
    cases hdelete : TeamMembers.deleteAgent s id with
    | error failure => exact rewritten_refl s s rfl
    | ok after =>
      unfold TeamMembers.deleteAgent Tables.deleteAgent at hdelete
      split_ifs at hdelete
      cases hdelete
      exact ⟨fun row => { row with agentId := cleared id row.agentId }, fun _ => ⟨rfl, rfl, rfl⟩, rfl⟩

theorem deleteChat_tidy (calls : Calls) (id : JsString) (s : Tables ν) :
    Tidy s (MessageWrites.deleteChat calls id s) := by
  unfold MessageWrites.deleteChat
  cases calls.fault 0 0 with
  | some error => exact rewritten_refl s s rfl
  | none =>
    dsimp only
    split_ifs
    · exact rewritten_refl s s rfl
    · exact .dropped id rfl

theorem tidy_of_rewritten {α : Type} (s : Tables ν) (outcome : Except Failure α × Tables ν)
    (h : Rewritten s outcome.2) : Tidy s outcome := by
  match outcome, h with
  | (.error _, after), h => exact h
  | (.ok _, after), h => exact .rewritten h

theorem tidy_unit {α : Type} (s : Tables ν) (outcome : Except Failure α × Tables ν)
    (h : Tidy s outcome) : Tidy s (outcome.map (·.map fun _ => ()) id) := by
  match outcome, h with
  | (.error _, after), h => exact h
  | (.ok _, after), h => exact h

theorem perform_tidy (s : Tables ν) (action : Action ν) : Tidy s (perform s action) := by
  cases action with
  | create calls chatId dto options => exact tidy_unit s _ (create_tidy calls chatId dto options s)
  | createPendingMessageRow calls chatId agentId =>
    exact tidy_unit s _ (createPendingMessageRow_tidy calls chatId agentId s)
  | persistAssistantReply calls chat agent execution response =>
    exact tidy_unit s _ (persistAssistantReply_tidy calls chat agent execution response s)
  | recordTurnErrorRow calls chatId agentId => exact recordTurnErrorRow_effect calls chatId agentId s
  | flushPartial calls chatId messageId newStatus accumulatedContent tokenCount =>
    exact tidy_of_rewritten s _ (flushPartial_rewritten calls chatId messageId newStatus
      accumulatedContent tokenCount s)
  | deleteAgent calls id => exact tidy_of_rewritten s _ (deleteAgent_rewritten calls id s)
  | deleteChat calls id => exact deleteChat_tidy calls id s

theorem upTo_succ (n : ℕ) : upTo (n + 1) = upTo n ++ [(n : ℤ) + 1] := by
  rw [upTo, List.range_succ, List.map_append]
  rfl

theorem max_upTo (n : ℕ) : (upTo n).max?.getD 0 = n := by
  cases n with
  | zero => rfl
  | succ n =>
    have hmax : (upTo (n + 1)).max? = some ((n : ℤ) + 1) := by
      rw [List.max?_eq_some_iff]
      constructor
      · rw [upTo_succ]
        exact List.mem_append_right _ List.mem_cons_self
      · intro k hk
        obtain ⟨j, hj, rfl⟩ := List.mem_map.mp hk
        have := List.mem_range.mp hj
        omega
    rw [hmax]
    rfl

theorem sequences_map (s t : Tables ν) (h : Rewritten s t) (chatId : JsString) :
    sequences t chatId = sequences s chatId := by
  obtain ⟨f, hf, ht⟩ := h
  have hchat : (fun row : MessageRow => decide (row.chatId = chatId)) ∘ f =
      fun row => decide (row.chatId = chatId) := by
    funext row
    exact congrArg (fun c => decide (c = chatId)) (hf row).2.1
  rw [sequences, ht, List.filter_map, List.map_map, hchat]
  exact List.map_congr_left fun row _ => (hf row).2.2

theorem effect_numbered (s t : Tables ν) (h : Effect s t) (hs : Numbered s) : Numbered t := by
  cases h with
  | rewritten h =>
    refine ⟨fun chatId => ?_, ?_⟩
    · rw [sequences_map s t h]
      exact hs.dense chatId
    · obtain ⟨f, hf, ht⟩ := h
      have hids : (fun row : MessageRow => row.id) ∘ f = fun row => row.id :=
        funext fun row => (hf row).1
      rw [ht, List.map_map, hids]
      exact hs.keyed
  | appended row hseq hid ht =>
    refine ⟨fun chatId => ?_, ?_⟩
    · obtain ⟨n, hn⟩ := hs.dense chatId
      rw [sequences, ht, List.filter_append, List.map_append]
      by_cases hrow : row.chatId = chatId
      · refine ⟨n + 1, ?_⟩
        have hnext : row.sequence = (n : ℤ) + 1 := by
          rw [hseq, hrow]
          exact congrArg (· + 1) ((congrArg (·.max?.getD 0) hn).trans (max_upTo n))
        rw [List.filter_cons_of_pos (by simpa using hrow), List.filter_nil, List.map_singleton,
          hnext, upTo_succ]
        exact congrArg (· ++ [(n : ℤ) + 1]) hn
      · refine ⟨n, ?_⟩
        rw [List.filter_cons_of_neg (by simpa using hrow), List.filter_nil, List.map_nil,
          List.append_nil]
        exact hn
    · rw [ht, List.map_append, List.nodup_append]
      refine ⟨hs.keyed, List.nodup_singleton _, fun a ha b hb => ?_⟩
      obtain rfl := List.mem_singleton.mp hb
      rintro rfl
      exact hid ha
  | dropped gone ht =>
    refine ⟨fun chatId => ?_, ?_⟩
    · rw [sequences, ht, List.filter_filter]
      by_cases hchat : chatId = gone
      · refine ⟨0, ?_⟩
        have hnone : s.messages.filter (fun row => decide (row.chatId = chatId) &&
            decide (row.chatId ≠ gone)) = [] := by
          rw [List.filter_eq_nil_iff]
          intro row _ hboth
          simp_all
        rw [hnone]
        rfl
      · have hsame : s.messages.filter (fun row => decide (row.chatId = chatId) &&
            decide (row.chatId ≠ gone)) = s.messages.filter (·.chatId = chatId) := by
          refine List.filter_congr fun row _ => ?_
          by_cases hrow : row.chatId = chatId
          · simp [hrow, hchat]
          · simp [hrow]
        rw [hsame]
        exact hs.dense chatId
    · rw [ht]
      exact hs.keyed.sublist ((List.filter_sublist).map _)

theorem effect_place (s t : Tables ν) (h : Effect s t) (hs : Numbered s) (row later : MessageRow)
    (hrow : row ∈ s.messages) (hlater : later ∈ t.messages) (hid : later.id = row.id) :
    later.chatId = row.chatId ∧ later.sequence = row.sequence := by
  have hunique : ∀ other ∈ s.messages, other.id = row.id → other = row := fun other hother heq =>
    List.inj_on_of_nodup_map hs.keyed hother hrow heq
  cases h with
  | rewritten h =>
    obtain ⟨f, hf, ht⟩ := h
    rw [ht] at hlater
    obtain ⟨other, hother, rfl⟩ := List.mem_map.mp hlater
    obtain ⟨hfid, hfchat, hfseq⟩ := hf other
    obtain rfl := hunique other hother (hfid.symm.trans hid)
    exact ⟨hfchat, hfseq⟩
  | appended new hseq hnew ht =>
    rw [ht] at hlater
    rcases List.mem_append.mp hlater with hlater | hlater
    · rw [hunique later hlater hid]
      exact ⟨rfl, rfl⟩
    · obtain rfl := List.mem_singleton.mp hlater
      exact absurd (hid ▸ List.mem_map_of_mem hrow) hnew
  | dropped gone ht =>
    rw [ht] at hlater
    rw [hunique later (List.mem_of_mem_filter hlater) hid]
    exact ⟨rfl, rfl⟩

theorem tidy_effect {α : Type} (s : Tables ν) (outcome : Except Failure α × Tables ν)
    (h : Tidy s outcome) : Effect s outcome.2 := by
  match outcome, h with
  | (.error _, after), h => exact .rewritten h
  | (.ok _, after), h => exact h

theorem step_effect (s : Tables ν) (action : Action ν) : Effect s (step s action) :=
  tidy_effect s _ (perform_tidy s action)

theorem throwing_ids (s : Tables ν) (action : Action ν) (failure : Failure)
    (h : (perform s action).1 = .error failure) :
    (step s action).messages.map (·.id) = s.messages.map (·.id) := by
  have htidy := perform_tidy s action
  unfold step
  match hperform : perform s action, htidy with
  | (.ok _, after), _ =>
    rw [hperform] at h
    cases h
  | (.error _, after), htidy =>
    obtain ⟨f, hf, hafter⟩ := htidy
    rw [hafter, List.map_map]
    exact List.map_congr_left fun row _ => (hf row).1

theorem run_numbered (s : Tables ν) (actions : List (Action ν)) (hs : Numbered s) :
    Numbered (actions.foldl step s) := by
  induction actions generalizing s with
  | nil => exact hs
  | cons action rest ih => exact ih (step s action) (effect_numbered s _ (step_effect s action) hs)

/-- The induction follows a message through the states in which it is there. -/
theorem run_place (s : Tables ν) (later : List (Action ν)) (hs : Numbered s) (row : MessageRow)
    (hrow : row ∈ s.messages)
    (hlives : ∀ t ∈ Runs.states step s later, ∃ x ∈ t.messages, x.id = row.id) (last : MessageRow)
    (hlast : last ∈ (later.foldl step s).messages) (hid : last.id = row.id) :
    last.chatId = row.chatId ∧ last.sequence = row.sequence := by
  induction later generalizing s row with
  | nil => exact effect_place s s (.rewritten (rewritten_refl s s rfl)) hs row last hrow hlast hid
  | cons action rest ih =>
    have hnumbered := effect_numbered s _ (step_effect s action) hs
    have hnext : ∀ t ∈ Runs.states step (step s action) rest, ∃ x ∈ t.messages, x.id = row.id :=
      fun t ht => hlives t (List.mem_cons_of_mem _ ht)
    obtain ⟨mid, hmid, hmidId⟩ := hnext (step s action) (by cases rest <;> simp [Runs.states])
    obtain ⟨hchat, hseq⟩ := effect_place s _ (step_effect s action) hs row mid hrow hmid hmidId
    obtain ⟨hchat', hseq'⟩ := ih (step s action) hnumbered mid hmid
      (fun t ht => by rw [hmidId]; exact hnext t ht) hlast (hid.trans hmidId.symm)
    exact ⟨hchat'.trans hchat, hseq'.trans hseq⟩

def blank (db : Tables ν) : Tables ν := { db with messages := [] }

theorem blank_numbered (db : Tables ν) : Numbered (blank db) := ⟨fun _ => ⟨0, rfl⟩, List.nodup_nil⟩

/-- In every reachable state a chat's messages are numbered from 1 without gaps, each message keeps
its number as long as it is there, and an operation that throws has inserted none. -/
theorem sequences_dense (db : Tables ν) (actions : List (Action ν)) :
    let s := actions.foldl step (blank db)
    (∀ chatId, ∃ n : ℕ, sequences s chatId = (List.range n).map fun k : ℕ => (k : ℤ) + 1) ∧
    (∀ row ∈ s.messages, ∀ later,
      (∀ t ∈ Runs.states step s later, ∃ x ∈ t.messages, x.id = row.id) →
      ∀ last ∈ (later.foldl step s).messages, last.id = row.id →
        last.chatId = row.chatId ∧ last.sequence = row.sequence) ∧
    ∀ action failure, (perform s action).1 = .error failure →
      (step s action).messages.map (·.id) = s.messages.map (·.id) := by
  intro s
  have hs : Numbered s := run_numbered (blank db) actions (blank_numbered db)
  refine ⟨hs.dense, fun row hrow later hlives last hlast hid => ?_, throwing_ids s⟩
  exact run_place s later hs row hrow hlives last hlast hid

end Glassbeetle.MessageSequences
