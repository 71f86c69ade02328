import Glassbeetle.ChatRecency
import Glassbeetle.ListPagination

set_option autoImplicit false

/-!
# Reading a chat backwards

The pages of a chat's messages, each before the oldest message of the one read
last, while messages are written.
-/
namespace Glassbeetle.MessagePaging
open JsText Database ContextConstruction ExecutionChain AdapterTypes Inference Transactions
open MessageWrites MessageSequences SortedPages ListPagination

variable {ν : Type}

structure ListMessagesQueryDto extends PaginationQueryDto where
  role : Option JsString
  status : Option MessageStatus
  agentId : Option JsString
  before : Option ℤ
  after : Option ℤ

def inDomain (query : ListMessagesQueryDto) (row : MessageRow) : Bool :=
  (truthy query.role).all (fun role => decide (row.role = role)) &&
  query.status.all (fun status => decide (row.status = status)) &&
  query.agentId.all fun agentId =>
    if agentId = js "null" then row.agentId.isNone else decide (row.agentId = some agentId)

def inReach (query : ListMessagesQueryDto) (row : MessageRow) : Bool :=
  query.before.all (fun before => decide (row.sequence < before)) &&
  query.after.all fun after => decide (after < row.sequence)

def allowedMessageSortColumns : List (JsString × JsString) := [(js "sequence", js "sequence")]

def messageColumn (name : JsString) (row : MessageRow) : SqlValue :=
  if name = js "sequence" then .number row.sequence else .null

def paginationOptions (query : PaginationQueryDto) : SqlPaginationOptions where
  query := query
  allowedSortColumns := allowedMessageSortColumns
  defaultSortKey := js "sequence"
  defaultOrder := .asc
  tiebreakerColumn := none

def chatRows (db : Tables ν) (chatId : JsString) : List MessageRow :=
  db.messages.filter (·.chatId = chatId)

def findAll (sorter : Sorter MessageRow SqlValue) (db : Tables ν) (chatId : JsString)
    (query : ListMessagesQueryDto) : Except Failure (PaginatedResponse MessageResponseDto) :=
  if (db.chat chatId).isNone then .error (Completions.chatNotFound chatId)
  else
    match buildPaginationSqlFragment (paginationOptions query.toPaginationQueryDto) with
    | .error failure => .error failure
    | .ok pagination => .ok {
        items := (pagination.select messageColumn sorter (((chatRows db chatId).filter
          (inDomain query)).filter (inReach query))).map mapMessageRowToResponse
        total := ((chatRows db chatId).filter (inDomain query)).length
        limit := query.limit
        offset := query.offset }

/-- A client that reads a chat from its newest message on. -/
structure Reader (ν : Type) where
  db : Tables ν
  before : Option ℤ
  rows : List MessageResponseDto
  /-- How the reading ended, if it has. -/
  outcome : Option (Except Failure Unit)

def start (db : Tables ν) : Reader ν := ⟨db, none, [], none⟩

def request (limit before : Option ℤ) : ListMessagesQueryDto where
  limit := limit
  offset := none
  sort := none
  order := some .desc
  role := none
  status := none
  agentId := none
  before := before
  after := none

def turnPage (s : Reader ν) (items : List MessageResponseDto) : Reader ν :=
  match items.getLast? with
  | none => { s with outcome := some (.ok ()) }
  | some oldest => { s with before := some oldest.sequence, rows := s.rows ++ items }

def read (chatId : JsString) (limit : Option ℤ) (sorter : Sorter MessageRow SqlValue)
    (s : Reader ν) : Reader ν :=
  if s.outcome.isSome then s
  else
    match findAll sorter s.db chatId (request limit s.before) with
    | .error failure => { s with outcome := some (.error failure) }
    | .ok page => turnPage s page.items

inductive Event (ν : Type) where
  | read (sorter : Sorter MessageRow SqlValue)
  | write (action : Action ν)

def step (chatId : JsString) (limit : Option ℤ) (s : Reader ν) : Event ν → Reader ν
  | .read sorter => read chatId limit sorter s
  | .write action => { s with db := MessageSequences.step s.db action }

/-- The action may write messages, but does not delete the chat. -/
def Keeps (chatId : JsString) : Action ν → Prop
  | .deleteChat _ id => id ≠ chatId
  | _ => True

def places (db : Tables ν) (chatId : JsString) : List (JsString × ℤ) :=
  (chatRows db chatId).map fun row => (row.id, row.sequence)

structure Grown (chatId : JsString) (s t : Tables ν) : Prop where
  chat : (t.chat chatId).isSome = (s.chat chatId).isSome
  places : ∃ later, places t chatId = places s chatId ++ later

section Growth
variable (chatId : JsString)

theorem grown_same (s t : Tables ν) (hmessages : t.messages = s.messages)
    (hchats : (t.chat chatId).isSome = (s.chat chatId).isSome) : Grown chatId s t := by
  refine ⟨hchats, [], ?_⟩
  rw [List.append_nil, places, chatRows, hmessages]
  rfl

theorem grown_rewritten (s t : Tables ν) (h : Rewritten s t)
    (hchats : (t.chat chatId).isSome = (s.chat chatId).isSome) : Grown chatId s t := by
  obtain ⟨f, hf, hmessages⟩ := h
  refine ⟨hchats, [], ?_⟩
  have hchat : (fun row : MessageRow => decide (row.chatId = chatId)) ∘ f =
      fun row => decide (row.chatId = chatId) := by
    funext row
    exact congrArg (fun id => decide (id = chatId)) (hf row).2.1
  rw [List.append_nil, places, chatRows, hmessages, List.filter_map, List.map_map, hchat]
  apply List.map_congr_left
  intro row _
  exact Prod.ext (hf row).1 (hf row).2.2

theorem touched_chat (s t : Tables ν) (touched now : JsString)
    (h : t.chats = s.chats.map (touchRow touched now)) :
    (t.chat chatId).isSome = (s.chat chatId).isSome := by
  rw [← touchChat_isSome s touched now chatId, Tables.chat, h]
  rfl

theorem grown_appended (s t : Tables ν) (row : MessageRow) (hmessages : t.messages = s.messages ++ [row])
    (hchats : (t.chat chatId).isSome = (s.chat chatId).isSome) : Grown chatId s t := by
  refine ⟨hchats, ([row].filter (·.chatId = chatId)).map fun row => (row.id, row.sequence), ?_⟩
  rw [places, chatRows, hmessages, List.filter_append, List.map_append]
  rfl

theorem posted_grown (posted earlier later : JsString) (s : Tables ν) (row : MessageRow)
    (t : Tables ν) (h : ChatRecency.Posted posted earlier later s row t) : Grown chatId s t := by
  obtain ⟨-, -, -, hmessages, hchats⟩ := h
  exact grown_appended chatId s t row hmessages (touched_chat chatId s t posted _ hchats)

theorem atomic_grown {ε : Type} (posted earlier later : JsString) (s : Tables ν)
    (outcome : Except ε MessageRow × Tables ν)
    (h : Atomic (ChatRecency.Posted posted earlier later) s outcome) :
    Atomic (fun s _ t => Grown chatId s t) s outcome := by
  match outcome, h with
  | (.error _, _), h => exact h
  | (.ok row, after), h => exact posted_grown chatId posted earlier later s row after h

theorem settled_grown {ε ε' α : Type} (s : Tables ν) (outcome : Except ε MessageRow × Tables ν)
    (h : Atomic (fun s _ t => Grown chatId s t) s outcome) (answer : MessageRow → α)
    (failure : ε → ε') : Grown chatId s (settle answer failure outcome).2 := by
  rw [ChatRecency.settle_snd]
  rcases atomic_state _ s outcome h with hsame | ⟨_, -, hgrown⟩
  · rw [hsame]
    exact grown_same chatId s s rfl rfl
  · exact hgrown

theorem insertAttempt_grown (calls : Calls) (m : NewMessage) (attempt : ℕ) (s : Tables ν) :
    Atomic (fun s _ t => Grown chatId s t) s (insertAttempt calls m m.createdAt attempt s) :=
  atomic_grown chatId m.chatId m.createdAt m.createdAt s _
    (ChatRecency.insertAttempt_posted _ _ calls m m.createdAt attempt s rfl (List.le_refl _)
      (List.le_refl _))

theorem create_grown (calls : Calls) (created : JsString) (dto : CreateMessageDto)
    (options : CreateOptions) (s : Tables ν) :
    Grown chatId s (create calls created dto options s).2 := by
  unfold create
  cases checkReferences calls created dto s with
  | error failure => exact grown_same chatId s s rfl rfl
  | ok _ =>
    dsimp only
    exact settled_grown chatId s _ (retry_atomic _ isUniqueConstraint _ s
      (fun n => insertAttempt_grown chatId calls _ n s) _ _) _ _

theorem createPendingMessageRow_grown (calls : Calls) (created agentId : JsString) (s : Tables ν) :
    Grown chatId s (MessageWrites.createPendingMessageRow calls created agentId s).2 :=
  settled_grown chatId s _ (retry_atomic _ isUniqueConstraint _ s
    (fun n => insertAttempt_grown chatId calls _ n s) _ _) _ _

theorem persistAssistantReply_grown (calls : Calls) (chat : ChatRow) (agent : AgentRow ν)
    (execution : Execution ν) (response : CompletionResponse) (s : Tables ν) :
    Grown chatId s (MessageWrites.persistAssistantReply calls chat agent execution response s).2 :=
  settled_grown chatId s _ (retry_atomic _ isUniqueConstraint _ s
    (fun n => atomic_grown chatId chat.id _ _ s _
      (ChatRecency.persistAttempt_posted _ _ calls chat agent execution response n s
        (List.le_refl _) (List.le_refl _))) _ _) _ _

theorem recordTurnErrorRow_grown (calls : Calls) (created agentId : JsString) (s : Tables ν) :
    Grown chatId s (recordTurnErrorRow calls created agentId s) := by
  by_cases haccepts : ChatRecency.Accepts calls created agentId s
  · obtain ⟨row, -, -, hafter⟩ :=
      ChatRecency.recordTurnErrorRow_accepted calls created agentId s haccepts
    rw [hafter]
    exact grown_appended chatId s _ row rfl rfl
  · rw [ChatRecency.recordTurnErrorRow_refused calls created agentId s haccepts]
    exact grown_same chatId s s rfl rfl

theorem flushPartial_grown (calls : Calls) (flushed messageId : JsString) (newStatus : MessageStatus)
    (accumulatedContent : JsString) (tokenCount : Option ℤ) (s : Tables ν) :
    Grown chatId s (MessageWrites.flushPartial calls flushed messageId newStatus accumulatedContent
      tokenCount s).2 := by
  apply grown_rewritten chatId s _
    (flushPartial_rewritten calls flushed messageId newStatus accumulatedContent tokenCount s)
  unfold MessageWrites.flushPartial
  cases calls.fault 0 0 with
  | some error => rfl
  | none =>
    cases calls.fault 0 1 with
    | some error => rfl
    | none => exact touchChat_isSome _ flushed _ chatId

theorem deleteAgent_grown (calls : Calls) (id : JsString) (s : Tables ν) :
    Grown chatId s (MessageWrites.deleteAgent calls id s).2 := by
  apply grown_rewritten chatId s _ (deleteAgent_rewritten calls id s)
  unfold MessageWrites.deleteAgent
  cases calls.fault 0 0 with
  | some error => rfl
  | none =>
    dsimp only
    cases hdelete : TeamMembers.deleteAgent s id with
    | error failure => rfl
    | ok after =>
      unfold TeamMembers.deleteAgent Tables.deleteAgent at hdelete
      split_ifs at hdelete
      cases hdelete
      rfl

theorem deleteChat_grown (calls : Calls) (id : JsString) (hid : id ≠ chatId) (s : Tables ν) :
    Grown chatId s (MessageWrites.deleteChat calls id s).2 := by
  unfold MessageWrites.deleteChat
  cases calls.fault 0 0 with
  | some error => exact grown_same chatId s s rfl rfl
  | none =>
    dsimp only
    split_ifs
    · exact grown_same chatId s s rfl rfl
    · refine ⟨?_, [], ?_⟩
      · have hkept : (s.chats.filter fun chat => chat.id ≠ id).find? (·.id = chatId) =
            s.chats.find? (·.id = chatId) := by
          rw [List.find?_filter]
          apply congrArg (fun p => s.chats.find? p)
          funext chat
          by_cases hchat : chat.id = chatId
          · simp [hchat, hid.symm]
          · simp [hchat]
        exact congrArg Option.isSome hkept
      · rw [List.append_nil, places, places, chatRows, chatRows]
        change ((s.messages.filter fun row => row.chatId ≠ id).filter (·.chatId = chatId)).map _ = _
        rw [List.filter_filter]
        apply congrArg (List.map _)
        apply List.filter_congr
        intro row _
        by_cases hrow : row.chatId = chatId
        · simp [hrow, hid.symm]
        · simp [hrow]

theorem step_grown (s : Tables ν) (action : Action ν) (h : Keeps chatId action) :
    Grown chatId s (MessageSequences.step s action) := by
  cases action with
  | create calls created dto options => exact create_grown chatId calls created dto options s
  | createPendingMessageRow calls created agentId =>
    exact createPendingMessageRow_grown chatId calls created agentId s
  | persistAssistantReply calls chat agent execution response =>
    exact persistAssistantReply_grown chatId calls chat agent execution response s
  | recordTurnErrorRow calls created agentId =>
    exact recordTurnErrorRow_grown chatId calls created agentId s
  | flushPartial calls flushed messageId newStatus accumulatedContent tokenCount =>
    exact flushPartial_grown chatId calls flushed messageId newStatus accumulatedContent tokenCount s
  | deleteAgent calls id => exact deleteAgent_grown chatId calls id s
  | deleteChat calls id => exact deleteChat_grown chatId calls id h s

end Growth

theorem number_lt (a b : ℤ) (h : a < b) : SqlValue.number a < SqlValue.number b := by
  change toLex ((1 : ℕ), toLex ((a : ℚ), ([] : List ℕ))) <
    toLex ((1 : ℕ), toLex ((b : ℚ), ([] : List ℕ)))
  rw [Prod.Lex.toLex_lt_toLex]
  refine .inr ⟨rfl, ?_⟩
  rw [Prod.Lex.toLex_lt_toLex]
  exact .inl (Rat.intCast_lt_intCast.mpr h)

section Page
variable (db : Tables ν) (hnumbered : Numbered db) (chatId : JsString)
include hnumbered

theorem sequence_at (i : ℕ) (row : MessageRow) (h : (chatRows db chatId)[i]? = some row) :
    row.sequence = i + 1 := by
  obtain ⟨n, hn⟩ := hnumbered.dense chatId
  have hmap : ((chatRows db chatId).map (·.sequence))[i]? = (upTo n)[i]? := congrArg (·[i]?) hn
  rw [List.getElem?_map, h, upTo, List.getElem?_map] at hmap
  obtain ⟨k, hk, hsequence⟩ := Option.map_eq_some_iff.mp hmap.symm
  obtain ⟨_, hindex⟩ := List.getElem?_eq_some_iff.mp hk
  rw [List.getElem_range] at hindex
  rw [hindex]
  exact hsequence.symm

theorem chatRows_increasing : (chatRows db chatId).Pairwise (·.sequence < ·.sequence) := by
  rw [List.pairwise_iff_getElem]
  intro i j hi hj hij
  have hfirst := sequence_at db hnumbered chatId i _ (List.getElem?_eq_getElem hi)
  have hsecond := sequence_at db hnumbered chatId j _ (List.getElem?_eq_getElem hj)
  omega

theorem filter_before (m : ℕ) :
    (chatRows db chatId).filter (fun row => decide (row.sequence < (m : ℤ) + 1)) =
      (chatRows db chatId).take m := by
  have hkept : ∀ row ∈ (chatRows db chatId).take m, row.sequence < (m : ℤ) + 1 := by
    intro row hrow
    obtain ⟨i, hi⟩ := List.mem_iff_getElem?.mp hrow
    rw [List.getElem?_take] at hi
    split_ifs at hi with hlt
    have hat := sequence_at db hnumbered chatId i row hi
    omega
  have hleft : ∀ row ∈ (chatRows db chatId).drop m, ¬row.sequence < (m : ℤ) + 1 := by
    intro row hrow
    obtain ⟨i, hi⟩ := List.mem_iff_getElem?.mp hrow
    rw [List.getElem?_drop] at hi
    have hat := sequence_at db hnumbered chatId (m + i) row hi
    omega
  conv_lhs => rw [← List.take_append_drop m (chatRows db chatId)]
  rw [List.filter_append, List.filter_eq_self.mpr fun row hrow => decide_eq_true (hkept row hrow),
    List.filter_eq_nil_iff.mpr fun row hrow => by simpa using hleft row hrow, List.append_nil]

/-- Sorted by falling sequence the first messages stand the other way round. -/
theorem arrange_reverse (sorter : Sorter MessageRow SqlValue) (m : ℕ) :
    sorter.arrange [⟨messageColumn (js "sequence"), true⟩] ((chatRows db chatId).take m) =
      ((chatRows db chatId).take m).reverse := by
  have hincreasing := (chatRows_increasing db hnumbered chatId).sublist
    (List.take_sublist m (chatRows db chatId))
  apply arrange_eq sorter _ _ _ (List.reverse_perm _)
  · rw [List.pairwise_reverse]
    exact hincreasing.imp fun h => .inl (number_lt _ _ h)
  · refine ⟨_, List.mem_singleton_self _, ?_⟩
    intro x hx y hy hsame
    have hnodup : (((chatRows db chatId).take m).map (·.sequence)).Nodup :=
      List.pairwise_map.mpr (hincreasing.imp fun h => h.ne)
    have hnumber : SqlValue.number x.sequence = SqlValue.number y.sequence := hsame
    exact List.inj_on_of_nodup_map hnodup hx hy (Rat.intCast_inj.mp (SqlValue.number.inj hnumber))

theorem inReach_before (limit before : Option ℤ) (m : ℕ)
    (hbefore : before = some ((m : ℤ) + 1) ∨ before = none ∧ m = (chatRows db chatId).length) :
    (chatRows db chatId).filter (inReach (request limit before)) = (chatRows db chatId).take m := by
  rcases hbefore with rfl | ⟨rfl, rfl⟩
  · rw [← filter_before db hnumbered chatId m]
    apply List.filter_congr
    intro row _
    exact Bool.and_true _
  · rw [List.take_length]
    exact List.filter_eq_self.mpr fun _ _ => rfl

theorem findAll_page (sorter : Sorter MessageRow SqlValue) (hchat : (db.chat chatId).isSome = true)
    (limit before : Option ℤ) (m : ℕ)
    (hbefore : before = some ((m : ℤ) + 1) ∨ before = none ∧ m = (chatRows db chatId).length) :
    ∃ page, findAll sorter db chatId (request limit before) = .ok page ∧
      page.items = ((((chatRows db chatId).take m).reverse.take
        (request limit before).pageSize.toNat)).map mapMessageRowToResponse := by
  have hsome : (db.chat chatId).isNone = false := by rw [← Option.not_isSome, hchat]; rfl
  have hbuilt : buildPaginationSqlFragment
      (paginationOptions (request limit before).toPaginationQueryDto) =
      .ok ⟨[js "sequence"], .desc, (request limit before).pageSize, 0⟩ := rfl
  have hdomain : (chatRows db chatId).filter (inDomain (request limit before)) =
      chatRows db chatId := List.filter_eq_self.mpr fun _ _ => rfl
  unfold findAll
  rw [if_neg (by rw [hsome]; exact Bool.false_ne_true), hbuilt]
  refine ⟨_, rfl, ?_⟩
  dsimp only
  rw [hdomain, inReach_before db hnumbered chatId limit before m hbefore]
  apply congrArg (List.map mapMessageRowToResponse)
  change slice (sorter.arrange [⟨messageColumn (js "sequence"), true⟩] _) _ 0 = _
  rw [arrange_reverse db hnumbered chatId sorter m]
  rfl

end Page

section Reading
variable (chatId : JsString) (limit : Option ℤ)

def place (message : MessageResponseDto) : JsString × ℤ := (message.id, message.sequence)

/-- How far the reading of the messages that stood at `existing` has come: all but the first `left`
have been read from the newest on, or all of them and the reading is over. -/
def Progress (existing : List (JsString × ℤ)) (pages : ℕ) (s : Reader ν) : Prop :=
  (∃ left : ℕ, left + pages ≤ existing.length ∧ s.outcome = none ∧
    s.before = some ((left : ℤ) + 1) ∧ s.rows.map place = (existing.drop left).reverse) ∨
  s.outcome = some (.ok ()) ∧ s.rows.map place = existing.reverse

/-- The chat is there, with what stood at `existing` at its head, and `pages` pages are read. -/
structure Reading (existing : List (JsString × ℤ)) (pages : ℕ) (s : Reader ν) : Prop where
  numbered : Numbered s.db
  chat : (s.db.chat chatId).isSome = true
  grown : ∃ later, places s.db chatId = existing ++ later
  progress : Progress existing pages s

theorem page_places (db : Tables ν) (existing : List (JsString × ℤ)) (left size : ℕ)
    (hgrown : ∃ later, places db chatId = existing ++ later) (hleft : left ≤ existing.length) :
    (((((chatRows db chatId).take left).reverse.take size)).map mapMessageRowToResponse).map place =
      ((existing.take left).drop (left - size)).reverse := by
  obtain ⟨later, hplaces⟩ := hgrown
  have htake : (existing ++ later).take left = existing.take left :=
    List.take_append_of_le_length hleft
  have hlength : (existing.take left).length = left := by
    rw [List.length_take]
    omega
  rw [List.map_map, List.map_take, List.map_reverse, List.map_take]
  change (((places db chatId).take left).reverse).take size = _
  rw [hplaces, htake, List.take_reverse, hlength]

theorem page_oldest (db : Tables ν) (hnumbered : Numbered db) (left size : ℕ) (hsize : 0 < size)
    (hpos : 0 < left) (hleft : left ≤ (chatRows db chatId).length) :
    ∃ oldest, ((((chatRows db chatId).take left).reverse.take size).map
      mapMessageRowToResponse).getLast? = some oldest ∧
      oldest.sequence = ((left - size : ℕ) : ℤ) + 1 := by
  have hlength : ((chatRows db chatId).take left).length = left := by
    rw [List.length_take]
    omega
  have hlt : left - size < (chatRows db chatId).length := by omega
  have hrow := List.getElem?_eq_getElem hlt
  refine ⟨mapMessageRowToResponse (chatRows db chatId)[left - size], ?_,
    sequence_at db hnumbered chatId _ _ hrow⟩
  have hlast : (((chatRows db chatId).take left).reverse.take size).getLast? =
      (chatRows db chatId)[left - size]? := by
    rw [List.take_reverse, hlength, List.getLast?_reverse, List.head?_drop]
    exact List.getElem?_take_of_lt (by omega)
  rw [List.getLast?_map, hlast, hrow]
  rfl

theorem read_progress (existing : List (JsString × ℤ)) (pages left : ℕ) (s : Reader ν)
    (sorter : Sorter MessageRow SqlValue) (hnumbered : Numbered s.db)
    (hchat : (s.db.chat chatId).isSome = true)
    (hgrown : ∃ later, places s.db chatId = existing ++ later)
    (hleft : left + pages ≤ existing.length) (hopen : s.outcome = none)
    (hbefore : s.before = some ((left : ℤ) + 1) ∨
      s.before = none ∧ left = (chatRows s.db chatId).length)
    (hrows : s.rows.map place = (existing.drop left).reverse) :
    Progress existing (pages + 1) (read chatId limit sorter s) := by
  obtain ⟨page, hpage, hitems⟩ :=
    findAll_page s.db hnumbered chatId sorter hchat limit s.before left hbefore
  have hsize : 0 < (request limit s.before).pageSize.toNat := by
    have hpos := pageSize_pos (request limit s.before).toPaginationQueryDto
    omega
  have hplaces := page_places chatId s.db existing left (request limit s.before).pageSize.toNat
    hgrown (by omega)
  have hread : read chatId limit sorter s = turnPage s page.items := by
    unfold read
    rw [hopen, hpage]
    rfl
  rw [hread]
  by_cases hpos : 0 < left
  · have hrowsLeft : left ≤ (chatRows s.db chatId).length := by
      have hlength : (places s.db chatId).length = (chatRows s.db chatId).length :=
        List.length_map _
      obtain ⟨later, hlater⟩ := hgrown
      rw [hlater, List.length_append] at hlength
      omega
    obtain ⟨oldest, holdest, hsequence⟩ := page_oldest chatId s.db hnumbered left
      (request limit s.before).pageSize.toNat hsize hpos hrowsLeft
    rw [← hitems] at holdest
    refine .inl ⟨left - (request limit s.before).pageSize.toNat, by omega, ?_⟩
    unfold turnPage
    rw [holdest]
    refine ⟨hopen, congrArg some hsequence, ?_⟩
    have hdrop : existing.drop (left - (request limit s.before).pageSize.toNat) =
        (existing.take left).drop (left - (request limit s.before).pageSize.toNat) ++
          existing.drop left := by
      conv_lhs => rw [← List.take_append_drop left existing]
      apply List.drop_append_of_le_length
      rw [List.length_take]
      omega
    dsimp only
    rw [List.map_append, hrows, hitems, hplaces, hdrop, List.reverse_append]
  · obtain rfl : left = 0 := by omega
    have hnone : page.items = [] := by
      rw [hitems, List.take_zero, List.reverse_nil, List.take_nil, List.map_nil]
    refine .inr ?_
    unfold turnPage
    rw [hnone]
    exact ⟨rfl, hrows⟩

theorem read_db (s : Reader ν) (sorter : Sorter MessageRow SqlValue) :
    (read chatId limit sorter s).db = s.db := by
  unfold read
  split_ifs
  · rfl
  · cases findAll sorter s.db chatId (request limit s.before) with
    | error failure => rfl
    | ok page =>
      change (turnPage s page.items).db = s.db
      unfold turnPage
      cases page.items.getLast? with
      | none => rfl
      | some oldest => rfl

theorem reading_read (existing : List (JsString × ℤ)) (pages : ℕ) (s : Reader ν)
    (h : Reading chatId existing pages s) (sorter : Sorter MessageRow SqlValue) :
    Reading chatId existing (pages + 1) (read chatId limit sorter s) := by
  have hdb := read_db chatId limit s sorter
  refine ⟨hdb ▸ h.numbered, hdb ▸ h.chat, hdb ▸ h.grown, ?_⟩
  rcases h.progress with ⟨left, hleft, hopen, hbefore, hrows⟩ | ⟨hdone, hrows⟩
  · exact read_progress chatId limit existing pages left s sorter h.numbered h.chat h.grown hleft
      hopen (.inl hbefore) hrows
  · have hsame : read chatId limit sorter s = s := by
      unfold read
      rw [hdone]
      rfl
    rw [hsame]
    exact .inr ⟨hdone, hrows⟩

theorem reading_first (db : Tables ν) (hnumbered : Numbered db)
    (hchat : (db.chat chatId).isSome = true) (sorter : Sorter MessageRow SqlValue) :
    Reading chatId (places db chatId) 1 (read chatId limit sorter (start db)) := by
  have hdb := read_db chatId limit (start db) sorter
  have hlength : (places db chatId).length = (chatRows db chatId).length := List.length_map _
  have hgrown : ∃ later, places db chatId = places db chatId ++ later :=
    ⟨[], (List.append_nil _).symm⟩
  refine ⟨hdb ▸ hnumbered, hdb ▸ hchat, hdb ▸ hgrown, ?_⟩
  apply read_progress chatId limit (places db chatId) 0 (chatRows db chatId).length (start db)
    sorter hnumbered hchat hgrown hlength.ge rfl (.inr ⟨rfl, rfl⟩)
  rw [← hlength, List.drop_length]
  rfl

theorem reading_write (existing : List (JsString × ℤ)) (pages : ℕ) (s : Reader ν)
    (h : Reading chatId existing pages s) (action : Action ν) (hkeeps : Keeps chatId action) :
    Reading chatId existing pages { s with db := MessageSequences.step s.db action } := by
  have hgrown := step_grown chatId s.db action hkeeps
  refine ⟨effect_numbered s.db _ (step_effect s.db action) h.numbered, hgrown.chat.trans h.chat,
    ?_, h.progress⟩
  obtain ⟨later, hlater⟩ := h.grown
  obtain ⟨added, hadded⟩ := hgrown.places
  exact ⟨later ++ added, by rw [hadded, hlater, List.append_assoc]⟩

def Event.Keeps : Event ν → Prop
  | .read _ => True
  | .write action => MessagePaging.Keeps chatId action

def Event.isRead : Event ν → Bool
  | .read _ => true
  | .write _ => false

/-- The induction follows the pages that are read, with whatever is written between them. -/
theorem run_reading (existing : List (JsString × ℤ)) (events : List (Event ν))
    (hkeeps : ∀ event ∈ events, event.Keeps chatId) (pages : ℕ) (s : Reader ν)
    (h : Reading chatId existing pages s) :
    Reading chatId existing (pages + events.countP Event.isRead)
      (events.foldl (step chatId limit) s) := by
  induction events generalizing pages s with
  | nil => exact h
  | cons event rest ih =>
    have hrest : ∀ event ∈ rest, event.Keeps chatId :=
      fun other hother => hkeeps other (List.mem_cons_of_mem _ hother)
    cases event with
    | read sorter =>
      have hnext := ih hrest (pages + 1) _ (reading_read chatId limit existing pages s h sorter)
      rw [List.countP_cons_of_pos rfl, Nat.add_comm _ 1, ← Nat.add_assoc]
      exact hnext
    | write action =>
      rw [List.countP_cons_of_neg Bool.false_ne_true]
      exact ih hrest pages _ (reading_write chatId existing pages s h action
        (hkeeps _ List.mem_cons_self))

end Reading

theorem places_decreasing (db : Tables ν) (hnumbered : Numbered db) (chatId : JsString)
    (rows : List MessageResponseDto) (h : rows.map place = (places db chatId).reverse) :
    rows.Pairwise (·.sequence > ·.sequence) := by
  have hsorted : (rows.map place).Pairwise (·.2 > ·.2) := by
    rw [h, List.pairwise_reverse, places, List.pairwise_map]
    exact chatRows_increasing db hnumbered chatId
  rw [List.pairwise_map] at hsorted
  exact hsorted

/-- A chat is read backwards with other messages being written in between, and any list is read
page by page: each row comes once. -/
theorem paging_visits_once :
    (∀ (tables : Tables ν) (prior : List (Action ν)) (chatId : JsString) (limit : Option ℤ)
      (sorter : Sorter MessageRow SqlValue) (events : List (Event ν)),
      let db := prior.foldl MessageSequences.step (blank tables)
      (db.chat chatId).isSome = true → (∀ event ∈ events, event.Keeps chatId) →
      let existing := db.messages.filter (·.chatId = chatId)
      let s := (Event.read sorter :: events).foldl (step chatId limit) (start db)
      (s.outcome = none ∧ (∃ before, s.before = some before ∧ 1 ≤ before) ∨
        s.outcome = some (.ok ())) ∧
      (existing.length ≤ events.countP Event.isRead → s.outcome = some (.ok ())) ∧
      (s.outcome = some (.ok ()) →
        (s.rows.map fun message => (message.id, message.sequence)).Perm
          (existing.map fun row => (row.id, row.sequence)) ∧
        s.rows.Pairwise (·.sequence > ·.sequence))) ∧
    ∀ (c : Collection) (table : List Row) (fixed : JsString → SqlValue) (filter : Row → Bool)
      (query : PaginationQueryDto) (sorter : ℕ → Sorter Row SqlValue),
      c.Keyed table → c.Allows query.sort →
      ∃ pages : ℕ → List Row,
        (∀ k, c.rows (sorter k) fixed filter table
          { query with offset := some (k * query.pageSize) } = .ok (pages k)) ∧
        (∀ k, (pages k).Nodup) ∧
        (∀ j k, j ≠ k → ∀ row ∈ pages j, row ∉ pages k) ∧
        ∀ row, row ∈ c.matching fixed filter table ↔ ∃ k, row ∈ pages k := by
  constructor
  · intro tables prior chatId limit sorter events db hchat hkeeps existing s
    have hnumbered : Numbered db := run_numbered _ prior (blank_numbered tables)
    have hreading := run_reading chatId limit (places db chatId) events hkeeps 1 _
      (reading_first chatId limit db hnumbered hchat sorter)
    have hlength : (places db chatId).length = existing.length := List.length_map _
    refine ⟨?_, fun hread => ?_, fun hdone => ?_⟩
    · rcases hreading.progress with ⟨left, -, hopen, hbefore, -⟩ | ⟨hdone, -⟩
      · exact .inl ⟨hopen, _, hbefore, by omega⟩
      · exact .inr hdone
    · rcases hreading.progress with ⟨left, hleft, -⟩ | ⟨hdone, -⟩
      · omega
      · exact hdone
    · rcases hreading.progress with ⟨_, -, hopen, -⟩ | ⟨-, hrows⟩
      · exact absurd (hopen.symm.trans hdone) (by simp)
      · constructor
        · rw [show (s.rows.map fun message => (message.id, message.sequence)) =
            (places db chatId).reverse from hrows]
          exact List.reverse_perm _
        · exact places_decreasing db hnumbered chatId s.rows hrows
  · intro c table fixed filter query sorter hkeyed hsort
    exact c.pages_partition table hkeyed fixed filter query hsort sorter

def post (id : String) : Action ℤ :=
  .create (ChatRecency.callsAt id "") (js "c") ⟨js "hi", none, none⟩ ⟨none, none⟩

def reading : List (Event ℤ) :=
  [.read stable, .write (post "third"), .read stable, .read stable]

def sameInstant : List Row :=
  ["first", "second", "third"].map fun id column => sqlText (js (if column = js "id" then id else ""))

theorem paging_visits_once_reading :
    (let s := reading.foldl (step (js "c") (some 1))
      (start ([post "first", post "second"].foldl MessageSequences.step
        (blank (Completions.sampleTables .sequential))))
    s.outcome = some (.ok ()) ∧ s.rows.length = 2) ∧
    ∃ pages : ℕ → List Row,
      (∀ k : ℕ, agents.rows stable (fun _ => .null) (fun _ => true) sameInstant
        ⟨some 1, some k, none, none⟩ = .ok (pages k)) ∧
      (∀ j k, j ≠ k → ∀ row ∈ pages j, row ∉ pages k) ∧
      ∀ row ∈ sameInstant, ∃ k, row ∈ pages k := by
  obtain ⟨hmessages, hlists⟩ := paging_visits_once (ν := ℤ)
  constructor
  · have hkeeps : ∀ event ∈ reading.tail, event.Keeps (js "c") := by
      intro event hevent
      rcases List.mem_cons.mp hevent with rfl | hevent
      · trivial
      · rcases List.mem_cons.mp hevent with rfl | hevent
        · trivial
        · rw [List.mem_singleton.mp hevent]
          trivial
    obtain ⟨-, hended, hread⟩ := hmessages (Completions.sampleTables .sequential)
      [post "first", post "second"] (js "c") (some 1) stable reading.tail (by decide +kernel) hkeeps
    have hdone := hended (by decide +kernel)
    refine ⟨hdone, ?_⟩
    have hlength := (hread hdone).1.length_eq
    rw [List.length_map, List.length_map] at hlength
    exact hlength.trans (by decide +kernel)
  · have hkeyed : agents.Keyed sameInstant := by
      unfold Collection.Keyed
      decide +kernel
    obtain ⟨pages, hpages, -, hdistinct, hall⟩ := hlists agents sameInstant (fun _ => .null)
      (fun _ => true) ⟨some 1, none, none, none⟩ (fun _ => stable) hkeyed (fun _ h => nomatch h)
    refine ⟨pages, fun k => ?_, hdistinct, fun row hrow => (hall row).mp ?_⟩
    · have hpage := hpages k
      rwa [show (⟨some 1, none, none, none⟩ : PaginationQueryDto).pageSize = 1 from rfl,
        mul_one] at hpage
    · exact List.mem_filter.mpr ⟨hrow, rfl⟩

end Glassbeetle.MessagePaging
