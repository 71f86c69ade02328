import Mathlib.Data.List.TakeDrop
import Glassbeetle.TranscriptDisplay

set_option autoImplicit false

namespace Glassbeetle.OlderControl
open JsText ChatDetail Runs

/-- `messages().length < messageTotal()` -/
def hasOlder (s : State) : Bool := decide (s.messages.length < s.messageTotal)

/-- The server holds a message of the chat from before the oldest one on screen. -/
def HeldBack (s : State) : Prop :=
  ∃ oldest, s.messages.head? = some oldest ∧
    ∃ m ∈ s.server.chat s.chatId, m.sequence < oldest.sequence

def Exact (s : State) : Prop := hasOlder s = true ↔ HeldBack s

/-- Nobody goes elsewhere while a request is under way. -/
def Calm (s : State) : Event → Prop
  | .navigate _ => s.transcriptLoad = none ∧ s.olderLoads = []
  | _ => True

/-- An older page leaves older messages behind, or its total counts none after the newest message on
screen. -/
def Undisturbed (s : State) : Event → Prop
  | .olderResponse i => ∀ request page, s.olderLoads[i]? = some request →
      request.answer = some (some page) →
      (∃ m ∈ s.server.chat s.chatId, ∀ shown ∈ page.items.reverse ++ s.messages,
        m.sequence < shown.sequence) ∨
      ∀ newest, s.messages.getLast? = some newest → page.total =
        ((s.server.chat s.chatId).filter (·.sequence ≤ newest.sequence)).length
  | _ => True

section Windows

/-- A page and what is on screen below it are the messages of the chat from some point on, but for
the later ones; the total counts some of these as well. -/
structure Taken (chat : List Message) (page : Page) (shown : List Message) (counted : ℕ) : Prop where
  window : ∃ older later, chat = older ++ (page.items.reverse ++ shown) ++ later ∧
    page.total = older.length + (page.items.length + shown.length) + counted ∧
    counted ≤ later.length ∧ (page.items = [] → older = [])

theorem taken_append (chat more shown : List Message) (page : Page) (counted : ℕ)
    (h : Taken chat page shown counted) : Taken (chat ++ more) page shown counted := by
  obtain ⟨older, later, hchat, htotal, hcounted, hempty⟩ := h.window
  refine ⟨older, later ++ more, ?_, htotal, ?_, hempty⟩
  · rw [hchat, List.append_assoc]
  · rw [List.length_append]
    omega

abbrev Ordered (chat : List Message) : Prop := chat.Pairwise fun a b => a.sequence < b.sequence

theorem chat_ordered (server : Server) (chatId : JsString) : Ordered (server.chat chatId) := by
  refine List.Pairwise.imp_of_mem ?_ (server.ordered.filter _)
  intro a b ha hb hlt
  have hac := of_decide_eq_true (List.mem_filter.mp ha).2
  have hbc := of_decide_eq_true (List.mem_filter.mp hb).2
  exact hlt (hac.trans hbc.symm)

theorem take_reverse (rows : List Message) : ∃ older,
    rows = older ++ (rows.reverse.take MESSAGE_PAGE_SIZE).reverse ∧
    (rows.reverse.take MESSAGE_PAGE_SIZE = [] → older = []) := by
  refine ⟨rows.take (rows.length - MESSAGE_PAGE_SIZE), ?_, ?_⟩
  · rw [List.reverse_take, List.reverse_reverse, List.length_reverse, List.take_append_drop]
  · intro hempty
    have hrows : rows = [] := by
      rcases List.take_eq_nil_iff.mp hempty with hsize | hnil
      · exact absurd hsize (by decide)
      · exact List.reverse_eq_nil_iff.mp hnil
    rw [hrows]
    rfl

theorem taken_newest (server : Server) (chatId : JsString) :
    Taken (server.chat chatId) (server.list chatId none) [] 0 := by
  obtain ⟨older, hrows, hempty⟩ := take_reverse (server.chat chatId)
  have hitems : (server.list chatId none).items =
      (server.chat chatId).reverse.take MESSAGE_PAGE_SIZE := by
    unfold Server.list
    simp only [Option.all_none, List.filter_true]
  refine ⟨older, [], ?_, ?_, Nat.le_refl 0, ?_⟩
  · rw [hitems, List.append_nil, List.append_nil]
    exact hrows
  · have hlength := congrArg List.length hrows
    rw [List.length_append, List.length_reverse] at hlength
    rw [hitems]
    exact hlength
  · rw [hitems]
    exact hempty

theorem window_order (older shown later : List Message) (oldest : Message)
    (h : Ordered (older ++ (oldest :: shown) ++ later)) :
    (∀ m ∈ older, m.sequence < oldest.sequence) ∧
      ∀ m ∈ (oldest :: shown) ++ later, oldest.sequence ≤ m.sequence := by
  rw [Ordered, List.append_assoc, List.pairwise_append] at h
  obtain ⟨-, hshown, habove⟩ := h
  rw [List.cons_append, List.pairwise_cons] at hshown
  refine ⟨fun m hm => habove m hm oldest List.mem_cons_self, fun m hm => ?_⟩
  rcases List.mem_cons.mp hm with rfl | hrest
  · exact Nat.le_refl _
  · exact Nat.le_of_lt (hshown.1 m hrest)

theorem rows_before (older shown later : List Message) (oldest : Message)
    (h : Ordered (older ++ (oldest :: shown) ++ later)) :
    ((older ++ (oldest :: shown) ++ later).filter fun m => decide (m.sequence < oldest.sequence)) =
      older := by
  obtain ⟨hbelow, habove⟩ := window_order older shown later oldest h
  rw [List.append_assoc, List.filter_append]
  have hfront : older.filter (fun m => decide (m.sequence < oldest.sequence)) = older :=
    List.filter_eq_self.mpr fun m hm => decide_eq_true (hbelow m hm)
  have hback : (oldest :: shown ++ later).filter
      (fun m => decide (m.sequence < oldest.sequence)) = [] := by
    refine List.filter_eq_nil_iff.mpr fun m hm => ?_
    rw [decide_eq_true_eq]
    exact Nat.not_lt.mpr (habove m hm)
  rw [hfront, hback, List.append_nil]

theorem taken_older (server : Server) (chatId : JsString) (older shown later : List Message)
    (oldest : Message) (hchat : server.chat chatId = older ++ (oldest :: shown) ++ later) :
    Taken (server.chat chatId) (server.list chatId (some oldest.sequence)) (oldest :: shown)
      later.length := by
  have hitems : (server.list chatId (some oldest.sequence)).items =
      older.reverse.take MESSAGE_PAGE_SIZE := by
    unfold Server.list
    simp only [Option.all_some]
    rw [hchat, rows_before older shown later oldest (hchat ▸ chat_ordered server chatId)]
  have htotal : (server.list chatId (some oldest.sequence)).total =
      (older ++ (oldest :: shown) ++ later).length := by
    rw [← hchat]
    rfl
  obtain ⟨front, hrows, hempty⟩ := take_reverse older
  refine ⟨front, later, ?_, ?_, Nat.le_refl _, ?_⟩
  · rw [hitems, hchat, ← List.append_assoc, ← hrows]
  · have hlength := congrArg List.length hrows
    rw [List.length_append, List.length_reverse] at hlength
    rw [htotal, hitems, List.length_append, List.length_append, hlength]
    omega
  · rw [hitems]
    exact hempty

/-- There are messages above the window just when the window does not start the chat. -/
theorem older_iff (chat older shown later : List Message) (oldest : Message) (h : Ordered chat)
    (hchat : chat = older ++ (oldest :: shown) ++ later) :
    (∃ m ∈ chat, m.sequence < oldest.sequence) ↔ older ≠ [] := by
  rw [hchat] at h ⊢
  obtain ⟨hbelow, habove⟩ := window_order older shown later oldest h
  constructor
  · rintro ⟨m, hm, hlt⟩ rfl
    rw [List.nil_append] at hm
    exact absurd hlt (Nat.not_lt.mpr (habove m hm))
  · intro hne
    obtain ⟨m, hm⟩ := List.exists_mem_of_ne_nil older hne
    exact ⟨m, List.mem_append_left _ (List.mem_append_left _ hm), hbelow m hm⟩

theorem counted_length (older shown later : List Message) (newest : Message)
    (h : Ordered (older ++ shown ++ later)) (hnewest : shown.getLast? = some newest) :
    ((older ++ shown ++ later).filter (·.sequence ≤ newest.sequence)).length =
      older.length + shown.length := by
  obtain ⟨front, rfl⟩ := List.getLast?_eq_some_iff.mp hnewest
  rw [Ordered, List.pairwise_append] at h
  obtain ⟨hfront, -, hlater⟩ := h
  rw [← List.append_assoc, List.pairwise_append] at hfront
  have hall : (older ++ (front ++ [newest])).filter (·.sequence ≤ newest.sequence) =
      older ++ (front ++ [newest]) := by
    refine List.filter_eq_self.mpr fun m hm => decide_eq_true ?_
    rw [← List.append_assoc] at hm
    rcases List.mem_append.mp hm with hm | hm
    · exact Nat.le_of_lt (hfront.2.2 m hm newest (List.mem_singleton_self _))
    · rw [List.mem_singleton.mp hm]
  have hnone : later.filter (·.sequence ≤ newest.sequence) = [] := by
    refine List.filter_eq_nil_iff.mpr fun m hm => ?_
    rw [decide_eq_true_eq]
    refine Nat.not_le.mpr (hlater newest ?_ m hm)
    simp
  rw [List.filter_append, hall, hnone, List.append_nil, List.length_append]

end Windows

/-- The screen shows a window of the chat, and every answer that may still be shown fits it. -/
structure Windowed (s : State) : Prop where
  latest : ∀ request, s.transcriptLoad = some request → request.chatId = s.chatId ∧
    request.before = none ∧ s.messages = [] ∧
    ∀ page, request.answer = some (some page) → Taken (s.server.chat s.chatId) page [] 0
  window : ∃ older later, s.server.chat s.chatId = older ++ s.messages ++ later
  silent : s.messages = [] → s.messageTotal = 0 ∧ s.olderLoads = []
  loads : ∀ request ∈ s.olderLoads, request.chatId = s.chatId ∧
    (∃ oldest, s.messages.head? = some oldest ∧ request.before = some oldest.sequence) ∧
    ∀ page, request.answer = some (some page) →
      ∃ counted, Taken (s.server.chat s.chatId) page s.messages counted
  single : s.olderLoads.length = if s.loadingOlder then 1 else 0

theorem exact_iff (s : State) (older later : List Message)
    (hwindow : s.server.chat s.chatId = older ++ s.messages ++ later) (hne : s.messages ≠ []) :
    Exact s ↔ (s.messages.length < s.messageTotal ↔ older ≠ []) := by
  obtain ⟨oldest, shown, hshown⟩ := List.exists_cons_of_ne_nil hne
  rw [hshown] at hwindow
  have hheld : HeldBack s ↔ older ≠ [] := by
    rw [← older_iff _ older shown later oldest (chat_ordered s.server s.chatId) hwindow, HeldBack,
      hshown]
    exact ⟨fun ⟨_, hhead, hm⟩ => Option.some.inj hhead ▸ hm, fun hm => ⟨oldest, rfl, hm⟩⟩
  rw [Exact, hasOlder, decide_eq_true_eq, hheld]

theorem exact_silent (s : State) (hnone : s.messages = []) (htotal : s.messageTotal = 0) :
    Exact s := by
  rw [Exact, hasOlder, decide_eq_true_eq, hnone, htotal]
  refine iff_of_false (Nat.lt_irrefl 0) ?_
  rintro ⟨oldest, hhead, -⟩
  rw [hnone] at hhead
  cases hhead

theorem chat_append (server : Server) (id other chatId : JsString) :
    ∃ more, (server.append id other).chat chatId = server.chat chatId ++ more := by
  unfold Server.append
  split_ifs
  · exact ⟨[], (List.append_nil _).symm⟩
  · exact ⟨_, List.filter_append _ _⟩

section Steps
variable (s : State) (h : Windowed s)
include h

theorem windowed_load (chatId : JsString) (hcalm : s.transcriptLoad = none ∧ s.olderLoads = []) :
    Windowed (load s chatId) where
  latest request hrequest := by
    cases hrequest
    exact ⟨rfl, rfl, rfl, fun _ hpage => (nomatch hpage)⟩
  window := ⟨s.server.chat chatId, [], by rw [List.append_nil]; exact (List.append_nil _).symm⟩
  silent _ := ⟨rfl, hcalm.2⟩
  loads request hrequest := by
    have hnone : request ∈ ([] : List Request) := hcalm.2 ▸ hrequest
    cases hnone
  single := h.single

theorem windowed_transcriptAnswer (ok : Bool) : Windowed (step s (.transcriptAnswer ok)) := by
  refine ⟨fun request hrequest => ?_, h.window, h.silent, h.loads, h.single⟩
  obtain ⟨before, hbefore, rfl⟩ := Option.map_eq_some_iff.mp hrequest
  obtain ⟨hchat, hnone, hmessages, htaken⟩ := h.latest before hbefore
  obtain ⟨hsame, hcursor, hpage⟩ := TranscriptDisplay.answered_cases s.server ok before
  refine ⟨hsame.trans hchat, hcursor.trans hnone, hmessages, fun page hanswer => ?_⟩
  rcases hpage page hanswer with hold | rfl
  · exact htaken page hold
  · rw [hchat, hnone]
    exact taken_newest s.server s.chatId

theorem windowed_showTranscript (request : Request) (page : Option Page)
    (hrequest : s.transcriptLoad = some request) (hanswer : request.answer = some page) :
    Windowed (showTranscript s page) := by
  obtain ⟨-, -, hmessages, htaken⟩ := h.latest request hrequest
  obtain ⟨-, hloads⟩ := h.silent hmessages
  have hnobody : ∀ other, other ∉ (showTranscript s page).olderLoads := fun other hother => by
    have hnone : other ∈ ([] : List Request) := hloads ▸ hother
    cases hnone
  refine ⟨fun _ hload => (nomatch hload), ?_, fun hempty => ⟨?_, hloads⟩,
    fun other hother => absurd hother (hnobody other), h.single⟩
  · cases page with
    | none =>
      exact ⟨s.server.chat s.chatId, [], by rw [List.append_nil]; exact (List.append_nil _).symm⟩
    | some shown =>
      obtain ⟨older, later, hchat, -⟩ := (htaken shown hanswer).window
      rw [List.append_nil] at hchat
      exact ⟨older, later, hchat⟩
  · cases page with
    | none => rfl
    | some shown =>
      obtain ⟨older, later, -, htotal, -, hfirst⟩ := (htaken shown hanswer).window
      have hitems : shown.items = [] := List.reverse_eq_nil_iff.mp hempty
      rw [hfirst hitems, hitems] at htotal
      exact htotal

theorem windowed_loadOlder : Windowed (loadOlder s) := by
  unfold loadOlder
  cases hhead : s.messages.head? with
  | none => exact h
  | some oldest =>
    have hne : s.messages ≠ [] := by
      rintro hnone
      rw [hnone] at hhead
      cases hhead
    dsimp only
    split_ifs with hloading
    · exact h
    · have hnone : s.olderLoads = [] := by
        have hsingle := h.single
        rw [if_neg hloading] at hsingle
        exact List.eq_nil_of_length_eq_zero hsingle
      refine ⟨h.latest, h.window, fun hempty => absurd hempty hne, fun request hrequest => ?_, ?_⟩
      · dsimp only at hrequest
        rw [hnone, List.nil_append, List.mem_singleton] at hrequest
        rw [hrequest]
        exact ⟨rfl, ⟨oldest, hhead, rfl⟩, fun _ hpage => (nomatch hpage)⟩
      · dsimp only
        rw [hnone]
        rfl

theorem windowed_olderAnswer (i : ℕ) (ok : Bool) : Windowed (step s (.olderAnswer i ok)) := by
  refine ⟨h.latest, h.window, fun hempty => ?_, fun request hrequest => ?_, ?_⟩
  · obtain ⟨htotal, hloads⟩ := h.silent hempty
    refine ⟨htotal, ?_⟩
    change s.olderLoads.modify i _ = []
    rw [hloads, List.modify_nil]
  · obtain ⟨before, hbefore, hchat, hcursor, hpage⟩ :=
      TranscriptDisplay.mem_modify _ i s.server ok request hrequest
    obtain ⟨hsame, ⟨oldest, hhead, hoffset⟩, htaken⟩ := h.loads before hbefore
    refine ⟨hchat.trans hsame, ⟨oldest, hhead, hcursor.trans hoffset⟩, fun page hanswer => ?_⟩
    rcases hpage page hanswer with hold | rfl
    · exact htaken page hold
    · obtain ⟨older, later, hwindow⟩ := h.window
      obtain ⟨shown, hshown⟩ := List.head?_eq_some_iff.mp hhead
      rw [hshown] at hwindow
      change ∃ counted, Taken (s.server.chat s.chatId) _ s.messages counted
      rw [hsame, hoffset, hshown]
      exact ⟨_, taken_older s.server s.chatId older shown later oldest hwindow⟩
  · change (s.olderLoads.modify i _).length = _
    rw [List.length_modify]
    exact h.single

theorem only_older (i : ℕ) (request : Request) (hi : s.olderLoads[i]? = some request) :
    s.olderLoads.eraseIdx i = [] := by
  obtain ⟨hlt, -⟩ := List.getElem?_eq_some_iff.mp hi
  have hle : s.olderLoads.length ≤ 1 := by
    rw [h.single]
    split_ifs <;> omega
  apply List.eq_nil_of_length_eq_zero
  rw [List.length_eraseIdx]
  split_ifs
  omega

theorem windowed_showOlder (i : ℕ) (request : Request) (page : Option Page)
    (hi : s.olderLoads[i]? = some request) (hanswer : request.answer = some page) :
    Windowed (showOlder s i page) := by
  obtain ⟨-, ⟨oldest, hhead, -⟩, htaken⟩ := h.loads request (List.mem_of_getElem? hi)
  have hne : s.messages ≠ [] := by
    rintro hnone
    rw [hnone] at hhead
    cases hhead
  have hnone := only_older s h i request hi
  have hnobody : ∀ other, other ∉ (showOlder s i page).olderLoads := fun other hother => by
    have hempty : other ∈ ([] : List Request) := hnone ▸ hother
    cases hempty
  refine ⟨fun load hload => absurd (h.latest load hload).2.2.1 hne, ?_, fun hempty => ?_,
    fun other hother => absurd hother (hnobody other), ?_⟩
  · cases page with
    | none => exact h.window
    | some shown =>
      obtain ⟨counted, htaken⟩ := htaken shown hanswer
      obtain ⟨older, later, hchat, -⟩ := htaken.window
      exact ⟨older, later, hchat⟩
  · exact absurd (List.append_eq_nil_iff.mp hempty).2 hne
  · change (s.olderLoads.eraseIdx i).length = 0
    rw [hnone]
    rfl

theorem windowed_append (id chatId : JsString) : Windowed (step s (.append id chatId)) := by
  obtain ⟨more, hmore⟩ := chat_append s.server id chatId s.chatId
  have hchat : (step s (.append id chatId)).server.chat s.chatId =
      s.server.chat s.chatId ++ more := hmore
  refine ⟨fun request hrequest => ?_, ?_, h.silent, fun request hrequest => ?_, h.single⟩
  · obtain ⟨hsame, hcursor, hmessages, htaken⟩ := h.latest request hrequest
    refine ⟨hsame, hcursor, hmessages, fun page hpage => ?_⟩
    change Taken ((step s (.append id chatId)).server.chat s.chatId) _ _ _
    rw [hchat]
    exact taken_append _ more _ page 0 (htaken page hpage)
  · obtain ⟨older, later, hwindow⟩ := h.window
    refine ⟨older, later ++ more, hchat.trans ?_⟩
    change _ = older ++ s.messages ++ (later ++ more)
    rw [hwindow, List.append_assoc _ later]
  · obtain ⟨hsame, hcursor, htaken⟩ := h.loads request hrequest
    refine ⟨hsame, hcursor, fun page hpage => ?_⟩
    obtain ⟨counted, htaken⟩ := htaken page hpage
    refine ⟨counted, ?_⟩
    change Taken ((step s (.append id chatId)).server.chat s.chatId) _ _ _
    rw [hchat]
    exact taken_append _ more _ page counted htaken

theorem windowed_step (event : Event) (hcalm : Calm s event) : Windowed (step s event) := by
  cases event with
  | navigate chatId => exact windowed_load s h chatId hcalm
  | transcriptAnswer ok => exact windowed_transcriptAnswer s h ok
  | transcriptResponse =>
    dsimp only [step]
    split
    next page hpage =>
      obtain ⟨request, hrequest, hanswer⟩ := Option.bind_eq_some_iff.mp hpage
      exact windowed_showTranscript s h request page hrequest hanswer
    next => exact h
  | loadOlder => exact windowed_loadOlder s h
  | olderAnswer i ok => exact windowed_olderAnswer s h i ok
  | append id chatId => exact windowed_append s h id chatId
  | olderResponse i =>
    dsimp only [step]
    split
    next page hpage =>
      obtain ⟨request, hi, hanswer⟩ := Option.bind_eq_some_iff.mp hpage
      exact windowed_showOlder s h i request page hi hanswer
    next => exact h

end Steps

section Control
variable (s : State) (h : Windowed s)
include h

theorem exact_showTranscript (request : Request) (page : Option Page)
    (hrequest : s.transcriptLoad = some request) (hanswer : request.answer = some page) :
    Exact (showTranscript s page) := by
  cases page with
  | none => exact exact_silent _ rfl rfl
  | some shown =>
    obtain ⟨-, -, -, htaken⟩ := h.latest request hrequest
    obtain ⟨older, later, hchat, htotal, -, hfirst⟩ := (htaken shown hanswer).window
    rw [List.append_nil] at hchat
    by_cases hitems : shown.items = []
    · refine exact_silent _ (List.reverse_eq_nil_iff.mpr hitems) ?_
      rw [hfirst hitems, hitems] at htotal
      exact htotal
    · refine (exact_iff _ older later hchat fun hempty =>
        hitems (List.reverse_eq_nil_iff.mp hempty)).mpr ?_
      change shown.items.reverse.length < shown.total ↔ _
      rw [List.length_reverse, htotal, ← List.length_pos_iff]
      simp only [List.length_nil]
      omega

/-- The total of an older page tells whether there is more above it, unless it counts messages from
below the window. -/
theorem exact_showOlder (i : ℕ) (request : Request) (shown : Page)
    (hi : s.olderLoads[i]? = some request) (hanswer : request.answer = some (some shown)) :
    Exact (showOlder s i (some shown)) ↔
      (∃ m ∈ s.server.chat s.chatId, ∀ other ∈ shown.items.reverse ++ s.messages,
        m.sequence < other.sequence) ∨
      ∀ newest, s.messages.getLast? = some newest → shown.total =
        ((s.server.chat s.chatId).filter (·.sequence ≤ newest.sequence)).length := by
  obtain ⟨-, ⟨oldest, hhead, -⟩, htaken⟩ := h.loads request (List.mem_of_getElem? hi)
  obtain ⟨counted, htaken⟩ := htaken shown hanswer
  obtain ⟨older, later, hchat, htotal, hcounted, -⟩ := htaken.window
  have hne : s.messages ≠ [] := by
    rintro hnone
    rw [hnone] at hhead
    cases hhead
  have hall : shown.items.reverse ++ s.messages ≠ [] := fun hempty =>
    hne (List.append_eq_nil_iff.mp hempty).2
  have hordered := chat_ordered s.server s.chatId
  have habove : (∃ m ∈ s.server.chat s.chatId, ∀ other ∈ shown.items.reverse ++ s.messages,
      m.sequence < other.sequence) ↔ older ≠ [] := by
    obtain ⟨first, rest, hfirst⟩ := List.exists_cons_of_ne_nil hall
    rw [hfirst] at hchat ⊢
    rw [← older_iff _ older rest later first hordered hchat]
    constructor
    · rintro ⟨m, hm, hbelow⟩
      exact ⟨m, hm, hbelow first List.mem_cons_self⟩
    · rintro ⟨m, hm, hbelow⟩
      refine ⟨m, hm, fun other hother => hbelow.trans_le ?_⟩
      exact (window_order older rest later first (hchat ▸ hordered)).2 other
        (List.mem_append_left _ hother)
  have hcount : (∀ newest, s.messages.getLast? = some newest → shown.total =
      ((s.server.chat s.chatId).filter (·.sequence ≤ newest.sequence)).length) ↔ counted = 0 := by
    obtain ⟨newest, hnewest⟩ : ∃ newest, s.messages.getLast? = some newest :=
      ⟨_, List.getLast?_eq_some_getLast hne⟩
    have hlast : (shown.items.reverse ++ s.messages).getLast? = some newest := by
      rw [List.getLast?_append, hnewest]
      rfl
    have hlength : ((s.server.chat s.chatId).filter (·.sequence ≤ newest.sequence)).length =
        older.length + (shown.items.length + s.messages.length) := by
      rw [hchat, counted_length older _ later newest (hchat ▸ hordered) hlast, List.length_append,
        List.length_reverse]
    constructor
    · intro hsame
      have := hsame newest hnewest
      rw [hlength] at this
      omega
    · rintro rfl other hother
      obtain rfl := Option.some.inj (hnewest.symm.trans hother)
      rw [hlength, htotal]
      omega
  rw [habove, hcount, exact_iff _ older later hchat hall]
  change ((shown.items.reverse ++ s.messages).length < shown.total ↔ _) ↔ _
  rw [List.length_append, List.length_reverse, htotal, ← List.length_pos_iff]
  omega

theorem exact_append (id chatId : JsString) : Exact (step s (.append id chatId)) ↔ Exact s := by
  by_cases hne : s.messages = []
  · obtain ⟨htotal, -⟩ := h.silent hne
    exact iff_of_true (exact_silent _ hne htotal) (exact_silent s hne htotal)
  · obtain ⟨older, later, hwindow⟩ := h.window
    obtain ⟨more, hmore⟩ := chat_append s.server id chatId s.chatId
    have hnext : (step s (.append id chatId)).server.chat s.chatId =
        older ++ s.messages ++ (later ++ more) := by
      rw [← List.append_assoc, ← hwindow]
      exact hmore
    exact (exact_iff (step s (.append id chatId)) older (later ++ more) hnext hne).trans
      (exact_iff s older later hwindow hne).symm

theorem exact_step (hexact : Exact s) (event : Event) :
    Exact (step s event) ↔ Undisturbed s event := by
  cases event with
  | navigate chatId => exact iff_of_true (exact_silent _ rfl rfl) trivial
  | transcriptAnswer ok => exact iff_of_true hexact trivial
  | transcriptResponse =>
    refine iff_of_true ?_ trivial
    dsimp only [step]
    split
    next page hpage =>
      obtain ⟨request, hrequest, hanswer⟩ := Option.bind_eq_some_iff.mp hpage
      exact exact_showTranscript s h request page hrequest hanswer
    next => exact hexact
  | loadOlder =>
    refine iff_of_true ?_ trivial
    dsimp only [step]
    unfold loadOlder
    split
    · exact hexact
    · split_ifs
      · exact hexact
      · exact hexact
  | olderAnswer i ok => exact iff_of_true hexact trivial
  | append id chatId => exact iff_of_true ((exact_append s h id chatId).mpr hexact) trivial
  | olderResponse i =>
    dsimp only [step, Undisturbed]
    cases hi : s.olderLoads[i]? with
    | none => exact iff_of_true hexact fun _ _ hrequest => nomatch hrequest
    | some request =>
      cases hanswer : request.answer with
      | none =>
        have hnone : (some request).bind (·.answer) = none := hanswer
        rw [hnone]
        refine iff_of_true hexact fun _ page hrequest hpage => ?_
        cases hrequest
        cases hanswer.symm.trans hpage
      | some page =>
        have hsome : (some request).bind (·.answer) = some page := hanswer
        rw [hsome]
        cases page with
        | none =>
          refine iff_of_true hexact fun _ page hrequest hpage => ?_
          cases hrequest
          cases hanswer.symm.trans hpage
        | some shown =>
          refine (exact_showOlder s h i request shown hi hanswer).trans ⟨?_, ?_⟩
          · intro hcondition _ page hrequest hpage
            cases hrequest
            cases hanswer.symm.trans hpage
            exact hcondition
          · exact fun hcondition => hcondition request shown rfl hanswer

end Control

theorem windowed_start (server : Server) (chatId : JsString) : Windowed (start server chatId) where
  latest request hrequest := by
    cases hrequest
    exact ⟨rfl, rfl, rfl, fun _ hpage => (nomatch hpage)⟩
  window := ⟨server.chat chatId, [], by rw [List.append_nil]; exact (List.append_nil _).symm⟩
  silent _ := ⟨rfl, rfl⟩
  loads _ hrequest := (nomatch hrequest)
  single := rfl

/-- The control tells throughout a run whether there are older messages exactly when every older page
leaves some behind or comes with a total from before the messages that were appended since. -/
theorem older_control (server : Server) (chatId : JsString) (events : List Event)
    (hcalm : Allowed step Calm (start server chatId) events) :
    (∀ s ∈ states step (start server chatId) events, Exact s) ↔
      Allowed step Undisturbed (start server chatId) events :=
  run_given step Calm Undisturbed Windowed Exact
    (fun s event h _ hcalm _ => windowed_step s h event hcalm)
    (fun s event h hexact _ => exact_step s h hexact event) _ events (windowed_start server chatId)
    (exact_silent _ rfl rfl) hcalm

def reading : List Event :=
  [.transcriptAnswer true, .transcriptResponse, .loadOlder, .olderAnswer 0 true, .olderResponse 0]

def writing : List Event :=
  [.transcriptAnswer true, .transcriptResponse, .append (js "new") (js "long"), .loadOlder,
    .olderAnswer 0 true, .olderResponse 0]

def answered : State :=
  (reading.take 4).foldl step (start TranscriptDisplay.longChat (js "long"))

theorem older_control_reading :
    Exact (reading.foldl step (start TranscriptDisplay.longChat (js "long"))) := by
  refine (older_control TranscriptDisplay.longChat (js "long") reading
    ⟨trivial, trivial, trivial, trivial, trivial, trivial⟩).mpr
    ⟨trivial, trivial, trivial, trivial, ?_, trivial⟩ _ (final_mem step _ reading)
  rintro request page hrequest hanswer
  refine .inr fun newest hnewest => ?_
  have hall : ∀ newest ∈ answered.messages.getLast?,
      (answered.olderLoads[0]?.bind (·.answer)).join.all (fun page => decide (page.total =
        ((answered.server.chat answered.chatId).filter (·.sequence ≤ newest.sequence)).length)) =
      true := by
    decide +kernel
  have hpage : (answered.olderLoads[0]?.bind (·.answer)).join = some page := by
    have hload : answered.olderLoads[0]? = some request := hrequest
    rw [hload, Option.bind_some, hanswer]
    rfl
  have hsame := hall newest hnewest
  rw [hpage] at hsame
  exact of_decide_eq_true hsame

/-- Every message is on screen, and there are said to be older ones. -/
theorem control_after_append :
    Allowed step Calm (start TranscriptDisplay.longChat (js "long")) writing ∧
    ¬∀ s ∈ states step (start TranscriptDisplay.longChat (js "long")) writing, Exact s := by
  refine ⟨⟨trivial, trivial, trivial, trivial, trivial, trivial, trivial⟩, fun h => ?_⟩
  have hexact := h _ (final_mem step _ writing)
  have hshown :
      hasOlder (writing.foldl step (start TranscriptDisplay.longChat (js "long"))) = true := by
    decide +kernel
  obtain ⟨oldest, hhead, m, hm, hlt⟩ := hexact.mp hshown
  have hnone : ∀ oldest ∈ (writing.foldl step
      (start TranscriptDisplay.longChat (js "long"))).messages.head?,
      ∀ m ∈ (writing.foldl step (start TranscriptDisplay.longChat (js "long"))).server.chat
        (writing.foldl step (start TranscriptDisplay.longChat (js "long"))).chatId,
      ¬m.sequence < oldest.sequence := by
    decide +kernel
  exact hnone oldest hhead m hm hlt

end Glassbeetle.OlderControl
