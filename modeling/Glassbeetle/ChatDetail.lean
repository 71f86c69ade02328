import Glassbeetle.JsText
import Mathlib.Data.List.Nodup

set_option autoImplicit false

/-!
# The transcript of a chat on screen

`chat-detail.ts`, with the server that answers its requests.
-/
namespace Glassbeetle.ChatDetail
open JsText

def MESSAGE_PAGE_SIZE : ℕ := 50

structure Message where
  id : JsString
  chatId : JsString
  sequence : ℕ
  deriving DecidableEq

structure Page where
  items : List Message
  total : ℕ

/-- The messages of all chats as they were appended; within a chat their sequences increase. -/
structure Server where
  messages : List Message
  ids : (messages.map (·.id)).Nodup
  ordered : messages.Pairwise fun a b => a.chatId = b.chatId → a.sequence < b.sequence

def Server.chat (server : Server) (chatId : JsString) : List Message :=
  server.messages.filter (·.chatId = chatId)

def Server.nextSequence (server : Server) (chatId : JsString) : ℕ :=
  ((server.chat chatId).map (·.sequence)).foldr max 0 + 1

theorem le_foldr_max (xs : List ℕ) (x : ℕ) (hx : x ∈ xs) : x ≤ xs.foldr max 0 := by
  induction xs with
  | nil => cases hx
  | cons y ys ih =>
    rw [List.foldr_cons]
    rcases List.mem_cons.mp hx with rfl | hx
    · exact Nat.le_max_left _ _
    · exact (ih hx).trans (Nat.le_max_right _ _)

theorem Server.lt_nextSequence (server : Server) (m : Message) (hm : m ∈ server.messages)
    (chatId : JsString) (hchat : m.chatId = chatId) : m.sequence < server.nextSequence chatId := by
  have hin : m ∈ server.chat chatId := List.mem_filter.mpr ⟨hm, decide_eq_true hchat⟩
  have := le_foldr_max _ _ (List.mem_map_of_mem (f := (·.sequence)) hin)
  unfold Server.nextSequence
  omega

def Server.append (server : Server) (id chatId : JsString) : Server :=
  if h : id ∈ server.messages.map (·.id) then server
  else {
    messages := server.messages ++ [⟨id, chatId, server.nextSequence chatId⟩]
    ids := by
      rw [List.map_append, List.nodup_append]
      refine ⟨server.ids, List.nodup_singleton _, ?_⟩
      rintro a ha b hb rfl
      obtain rfl := List.mem_singleton.mp hb
      exact h ha
    ordered := by
      rw [List.pairwise_append]
      refine ⟨server.ordered, List.pairwise_singleton _ _, fun a ha b hb heq => ?_⟩
      obtain rfl := List.mem_singleton.mp hb
      exact server.lt_nextSequence a ha chatId heq }

/-- `GET /chats/:chatId/messages` with `order: 'desc'` -/
def Server.list (server : Server) (chatId : JsString) (before : Option ℕ) : Page where
  items := ((server.chat chatId).filter fun m =>
    before.all (fun b => decide (m.sequence < b))).reverse.take MESSAGE_PAGE_SIZE
  total := (server.chat chatId).length

structure Request where
  chatId : JsString
  before : Option ℕ
  answer : Option (Option Page)

def Request.answered (server : Server) (ok : Bool) (request : Request) : Request :=
  match request.answer with
  | some _ => request
  | none =>
    { request with
      answer := some (if ok then some (server.list request.chatId request.before) else none) }

/-- The screen. The transcript request is the latest one; those for older pages are never dropped. -/
structure State where
  server : Server
  chatId : JsString
  messages : List Message
  messageTotal : ℕ
  messagesLoading : Bool
  messagesError : Bool
  loadingOlder : Bool
  transcriptLoad : Option Request
  olderLoads : List Request

def load (s : State) (chatId : JsString) : State :=
  { s with
    chatId := chatId
    messages := []
    messageTotal := 0
    messagesLoading := true
    messagesError := false
    transcriptLoad := some ⟨chatId, none, none⟩ }

def showTranscript (s : State) (page : Option Page) : State :=
  { s with
    messagesLoading := false
    messagesError := page.isNone
    messages := (page.map (·.items.reverse)).getD []
    messageTotal := (page.map (·.total)).getD 0
    transcriptLoad := none }

def loadOlder (s : State) : State :=
  match s.messages.head? with
  | none => s
  | some oldest =>
    if s.loadingOlder then s
    else { s with
      loadingOlder := true
      olderLoads := s.olderLoads ++ [⟨s.chatId, some oldest.sequence, none⟩] }

def showOlder (s : State) (i : ℕ) (page : Option Page) : State :=
  { s with
    messages := (page.map (·.items.reverse)).getD [] ++ s.messages
    messageTotal := (page.map (·.total)).getD s.messageTotal
    loadingOlder := false
    olderLoads := s.olderLoads.eraseIdx i }

inductive Event where
  /-- To another chat, or to the same one again. -/
  | navigate (chatId : JsString)
  | transcriptAnswer (ok : Bool)
  | transcriptResponse
  | loadOlder
  | olderAnswer (i : ℕ) (ok : Bool)
  | olderResponse (i : ℕ)
  | append (id chatId : JsString)

/-- A response that is not there yet changes nothing. -/
def step (s : State) : Event → State
  | .navigate chatId => load s chatId
  | .transcriptAnswer ok =>
    { s with transcriptLoad := s.transcriptLoad.map (Request.answered s.server ok) }
  | .transcriptResponse =>
    match s.transcriptLoad.bind (·.answer) with
    | some page => showTranscript s page
    | none => s
  | .loadOlder => loadOlder s
  | .olderAnswer i ok =>
    { s with olderLoads := s.olderLoads.modify i (Request.answered s.server ok) }
  | .olderResponse i =>
    match s.olderLoads[i]?.bind (·.answer) with
    | some page => showOlder s i page
    | none => s
  | .append id chatId => { s with server := s.server.append id chatId }

def start (server : Server) (chatId : JsString) : State :=
  load ⟨server, chatId, [], 0, true, false, false, none, []⟩ chatId

end Glassbeetle.ChatDetail
