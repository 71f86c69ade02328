import Glassbeetle.ChatDetail
import Glassbeetle.Runs

set_option autoImplicit false

namespace Glassbeetle.TranscriptDisplay
open JsText ChatDetail Runs

section Pages
variable (server : Server)

theorem mem_list (chatId : JsString) (before : Option ℕ) (m : Message)
    (h : m ∈ (server.list chatId before).items) :
    m ∈ server.messages ∧ m.chatId = chatId ∧ ∀ b, before = some b → m.sequence < b := by
  have hrows := List.mem_reverse.mp (List.mem_of_mem_take h)
  obtain ⟨hchat, hbefore⟩ := List.mem_filter.mp hrows
  obtain ⟨hmem, hid⟩ := List.mem_filter.mp hchat
  refine ⟨hmem, of_decide_eq_true hid, ?_⟩
  rintro b rfl
  simpa using hbefore

theorem list_descending (chatId : JsString) (before : Option ℕ) :
    (server.list chatId before).items.Pairwise fun a b => b.sequence < a.sequence := by
  refine List.Pairwise.sublist (List.take_sublist _ _) ?_
  rw [List.pairwise_reverse]
  refine List.Pairwise.filter _ ?_
  refine List.Pairwise.imp_of_mem ?_ (server.ordered.filter _)
  intro a b ha hb hlt
  have hac := of_decide_eq_true (List.mem_filter.mp ha).2
  have hbc := of_decide_eq_true (List.mem_filter.mp hb).2
  exact hlt (hac.trans hbc.symm)

/-- The newest page of a chat that grew has only messages of the page before and a later one. -/
theorem list_append (id other chatId : JsString) (m : Message)
    (h : m ∈ ((server.append id other).list chatId none).items) :
    m ∈ (server.list chatId none).items ∨
      ∀ old ∈ server.messages, old.chatId = chatId → old.sequence < m.sequence := by
  unfold Server.append at h
  split_ifs at h with hused
  · exact .inl h
  · unfold Server.list Server.chat at h ⊢
    dsimp only at h ⊢
    simp only [Option.all_none, List.filter_true] at h ⊢
    rw [List.filter_append, List.reverse_append, List.filter_singleton] at h
    dsimp only at h
    by_cases hchat : other = chatId
    · rw [decide_eq_true hchat, cond_true, List.reverse_singleton, List.singleton_append] at h
      change m ∈ List.take (49 + 1) _ at h
      rw [List.take_succ_cons] at h
      rcases List.mem_cons.mp h with rfl | h
      · refine .inr fun old hold heq => ?_
        exact server.lt_nextSequence old hold other (heq.trans hchat.symm)
      · exact .inl (List.take_subset_take_left _ (by decide) h)
    · rw [decide_eq_false hchat, cond_false, List.reverse_nil, List.nil_append] at h
      exact .inl h

theorem mem_append (id chatId : JsString) (m : Message) (h : m ∈ server.messages) :
    m ∈ (server.append id chatId).messages := by
  unfold Server.append
  split_ifs
  · exact h
  · exact List.mem_append_left _ h

end Pages

/-- The newest messages of a chat that may still be shown: those that the server has now, and those
of an answer on its way. -/
def Newest (s : State) (chatId : JsString) (m : Message) : Prop :=
  m ∈ (s.server.list chatId none).items ∨ ∃ request page, s.transcriptLoad = some request ∧
    request.chatId = chatId ∧ request.answer = some (some page) ∧ m ∈ page.items

structure Answered (server : Server) (request : Request) (page : Page) : Prop where
  rows : ∀ m ∈ page.items, m ∈ server.messages ∧ m.chatId = request.chatId ∧
    ∀ b, request.before = some b → m.sequence < b
  descending : page.items.Pairwise fun a b => b.sequence < a.sequence

/-- The displayed messages are the chat's own, each once, in order. -/
structure Shown (s : State) : Prop where
  own : ∀ m ∈ s.messages, m.chatId = s.chatId
  ordered : s.messages.Pairwise fun a b => a.sequence < b.sequence
  once : (s.messages.map (·.id)).Nodup

structure Consistent (s : State) : Prop where
  stored : ∀ m ∈ s.messages, m ∈ s.server.messages
  latest : ∀ request, s.transcriptLoad = some request →
    request.chatId = s.chatId ∧ request.before = none
  transcript : ∀ request page, s.transcriptLoad = some request →
    request.answer = some (some page) → Answered s.server request page
  older : ∀ request ∈ s.olderLoads, ∀ page, request.answer = some (some page) →
    Answered s.server request page
  single : s.olderLoads.length = if s.loadingOlder then 1 else 0
  cursor : ∀ request ∈ s.olderLoads, ∃ m ∈ s.server.messages, m.chatId = request.chatId ∧
    request.before = some m.sequence
  above : ∀ request ∈ s.olderLoads, ∀ b, request.before = some b →
    ∀ m, Newest s request.chatId m → b ≤ m.sequence
  shownAbove : ∀ request ∈ s.olderLoads, request.chatId = s.chatId →
    ∀ b, request.before = some b → ∀ m ∈ s.messages, b ≤ m.sequence
  oldest : ∀ m, s.messages.head? = some m → ∀ n, Newest s s.chatId n → m.sequence ≤ n.sequence
  tail : ∀ request page, s.transcriptLoad = some request → request.answer = some (some page) →
    ∀ m, page.items.getLast? = some m →
      ∀ n ∈ (s.server.list request.chatId none).items, m.sequence ≤ n.sequence

theorem last_least (items : List Message)
    (h : items.Pairwise fun a b => b.sequence < a.sequence) (last : Message)
    (hlast : items.getLast? = some last) (m : Message) (hm : m ∈ items) :
    last.sequence ≤ m.sequence := by
  obtain ⟨front, rfl⟩ := List.getLast?_eq_some_iff.mp hlast
  rcases List.mem_append.mp hm with hm | hm
  · exact Nat.le_of_lt ((List.pairwise_append.mp h).2.2 m hm last (List.mem_singleton_self _))
  · rw [List.mem_singleton.mp hm]

theorem head_least (messages : List Message)
    (h : messages.Pairwise fun a b => a.sequence < b.sequence) (oldest : Message)
    (hhead : messages.head? = some oldest) (m : Message) (hm : m ∈ messages) :
    oldest.sequence ≤ m.sequence := by
  obtain ⟨rest, rfl⟩ := List.head?_eq_some_iff.mp hhead
  rcases List.mem_cons.mp hm with rfl | hm
  · exact Nat.le_refl _
  · exact Nat.le_of_lt ((List.pairwise_cons.mp h).1 m hm)

theorem answered_cases (server : Server) (ok : Bool) (request : Request) :
    (request.answered server ok).chatId = request.chatId ∧
      (request.answered server ok).before = request.before ∧
      ∀ page, (request.answered server ok).answer = some (some page) →
        request.answer = some (some page) ∨
          page = server.list request.chatId request.before := by
  unfold Request.answered
  cases hanswer : request.answer with
  | some answer => exact ⟨rfl, rfl, fun page hpage => .inl (hanswer ▸ hpage)⟩
  | none =>
    refine ⟨rfl, rfl, fun page hpage => ?_⟩
    cases ok with
    | true =>
      cases hpage
      exact .inr rfl
    | false => cases hpage

theorem answered_list (server : Server) (request : Request) :
    Answered server request (server.list request.chatId request.before) :=
  ⟨fun m hm => mem_list server request.chatId request.before m hm,
    list_descending server request.chatId request.before⟩

section Steps
variable (s : State) (h : Consistent s)

include h

theorem consistent_load (chatId : JsString) : Consistent (load s chatId) where
  stored _ hm := absurd hm List.not_mem_nil
  latest request hrequest := by
    cases hrequest
    exact ⟨rfl, rfl⟩
  transcript request page hrequest hanswer := by
    cases hrequest
    cases hanswer
  older := h.older
  single := h.single
  cursor := h.cursor
  above request hrequest b hb m hm := by
    rcases hm with hm | ⟨load, page, hload, -, hanswer, -⟩
    · exact h.above request hrequest b hb m (.inl hm)
    · cases hload
      cases hanswer
  shownAbove _ _ _ _ _ _ hm := absurd hm List.not_mem_nil
  oldest _ hm := nomatch hm
  tail request page hrequest hanswer := by
    cases hrequest
    cases hanswer

theorem consistent_transcriptAnswer (ok : Bool) : Consistent (step s (.transcriptAnswer ok)) := by
  have hload : ∀ request, s.transcriptLoad.map (Request.answered s.server ok) = some request →
      ∃ before, s.transcriptLoad = some before ∧ before.answered s.server ok = request :=
    fun request hrequest => Option.map_eq_some_iff.mp hrequest
  have hnewest : ∀ chatId m, Newest (step s (.transcriptAnswer ok)) chatId m →
      Newest s chatId m := by
    rintro chatId m (hm | ⟨request, page, hrequest, hchat, hanswer, hm⟩)
    · exact .inl hm
    · obtain ⟨before, hbefore, rfl⟩ := hload request hrequest
      obtain ⟨hsame, -, hpage⟩ := answered_cases s.server ok before
      rcases hpage page hanswer with hold | rfl
      · exact .inr ⟨before, page, hbefore, hsame ▸ hchat, hold, hm⟩
      · rw [(h.latest before hbefore).2, ← hsame, hchat] at hm
        exact .inl hm
  refine ⟨h.stored, fun request hrequest => ?_, fun request page hrequest hanswer => ?_, h.older,
    h.single, h.cursor, fun request hrequest b hb m hm =>
      h.above request hrequest b hb m (hnewest _ m hm), h.shownAbove,
    fun m hm n hn => h.oldest m hm n (hnewest _ n hn), fun request page hrequest hanswer m hm n hn => ?_⟩
  · obtain ⟨before, hbefore, rfl⟩ := hload request hrequest
    obtain ⟨hchat, hcursor, -⟩ := answered_cases s.server ok before
    rw [hchat, hcursor]
    exact h.latest before hbefore
  · obtain ⟨before, hbefore, rfl⟩ := hload request hrequest
    obtain ⟨hchat, hcursor, hpage⟩ := answered_cases s.server ok before
    have hanswered : Answered s.server before page := by
      rcases hpage page hanswer with hold | rfl
      · exact h.transcript before page hbefore hold
      · exact answered_list s.server before
    exact ⟨by rw [hchat, hcursor]; exact hanswered.rows, hanswered.descending⟩
  · obtain ⟨before, hbefore, rfl⟩ := hload request hrequest
    obtain ⟨hchat, -, hpage⟩ := answered_cases s.server ok before
    rw [hchat] at hn
    rcases hpage page hanswer with hold | rfl
    · exact h.tail before page hbefore hold m hm n hn
    · rw [(h.latest before hbefore).2] at hm
      exact last_least _ (list_descending s.server _ none) m hm n hn

theorem consistent_showTranscript (request : Request) (page : Option Page)
    (hrequest : s.transcriptLoad = some request) (hanswer : request.answer = some page) :
    Consistent (showTranscript s page) := by
  have hitems : ∀ m, m ∈ (page.map (·.items.reverse)).getD [] →
      ∃ shown, page = some shown ∧ m ∈ shown.items := by
    intro m hm
    cases page with
    | none => exact absurd hm List.not_mem_nil
    | some shown => exact ⟨shown, rfl, List.mem_reverse.mp hm⟩
  have hchat := (h.latest request hrequest).1
  have hnone : ∀ load, (showTranscript s page).transcriptLoad ≠ some load := fun _ hload =>
    nomatch hload
  refine ⟨fun m hm => ?_, fun load hload => absurd hload (hnone load),
    fun load _ hload => absurd hload (hnone load), h.older, h.single, h.cursor,
    fun older holder b hb m hm => ?_, fun older holder hsame b hb m hm => ?_, fun m hm n hn => ?_,
    fun load _ hload => absurd hload (hnone load)⟩
  · obtain ⟨shown, rfl, hin⟩ := hitems m hm
    exact ((h.transcript request shown hrequest hanswer).rows m hin).1
  · rcases hm with hm | ⟨load, _, hload, -⟩
    · exact h.above older holder b hb m (.inl hm)
    · cases hload
  · obtain ⟨shown, rfl, hin⟩ := hitems m hm
    exact h.above older holder b hb m (.inr ⟨request, shown, hrequest, hchat.trans hsame.symm,
      hanswer, hin⟩)
  · cases page with
    | none => cases hm
    | some shown =>
      change shown.items.reverse.head? = some m at hm
      rw [List.head?_reverse] at hm
      rcases hn with hn | ⟨load, _, hload, -⟩
      · exact h.tail request shown hrequest hanswer m hm n (hchat ▸ hn)
      · cases hload

theorem consistent_loadOlder (hs : Shown s) : Consistent (loadOlder s) := by
  unfold loadOlder
  cases hhead : s.messages.head? with
  | none => exact h
  | some oldest =>
    dsimp only
    split_ifs with hloading
    · exact h
    · have hmem := List.mem_of_mem_head? hhead
      have hnone : s.olderLoads = [] := by
        have hsingle := h.single
        rw [if_neg hloading] at hsingle
        exact List.eq_nil_of_length_eq_zero hsingle
      have honly : ∀ request ∈ s.olderLoads ++ [⟨s.chatId, some oldest.sequence, none⟩],
          request = ⟨s.chatId, some oldest.sequence, none⟩ := fun request hrequest => by
        rw [hnone] at hrequest
        exact List.mem_singleton.mp hrequest
      refine ⟨h.stored, h.latest, h.transcript, fun request hrequest page hanswer => ?_, ?_,
        fun request hrequest => ?_, fun request hrequest b hb m hm => ?_,
        fun request hrequest _ b hb m hm => ?_, h.oldest, h.tail⟩
      · rw [honly request hrequest] at hanswer
        cases hanswer
      · dsimp only
        rw [hnone]
        rfl
      · rw [honly request hrequest]
        exact ⟨oldest, h.stored oldest hmem, hs.own oldest hmem, rfl⟩
      · rw [honly request hrequest] at hb hm
        cases hb
        exact h.oldest oldest hhead m hm
      · rw [honly request hrequest] at hb
        cases hb
        exact head_least s.messages hs.ordered oldest hhead m hm

omit h in
theorem mem_modify (requests : List Request) (i : ℕ) (server : Server) (ok : Bool)
    (request : Request) (hrequest : request ∈ requests.modify i (Request.answered server ok)) :
    ∃ before ∈ requests, request.chatId = before.chatId ∧ request.before = before.before ∧
      ∀ page, request.answer = some (some page) → before.answer = some (some page) ∨
        page = server.list before.chatId before.before := by
  obtain ⟨j, hlt, rfl⟩ := List.mem_iff_getElem.mp hrequest
  rw [List.length_modify] at hlt
  rw [List.getElem_modify]
  refine ⟨requests[j], List.getElem_mem hlt, ?_⟩
  split_ifs
  · exact answered_cases server ok requests[j]
  · exact ⟨rfl, rfl, fun _ hpage => .inl hpage⟩

theorem consistent_olderAnswer (i : ℕ) (ok : Bool) : Consistent (step s (.olderAnswer i ok)) := by
  refine ⟨h.stored, h.latest, h.transcript, fun request hrequest page hanswer => ?_, ?_,
    fun request hrequest => ?_, fun request hrequest b hb m hm => ?_,
    fun request hrequest hchat b hb m hm => ?_, h.oldest, h.tail⟩
  · obtain ⟨before, hbefore, hchat, hcursor, hpage⟩ := mem_modify _ i s.server ok request hrequest
    have hanswered : Answered s.server before page := by
      rcases hpage page hanswer with hold | rfl
      · exact h.older before hbefore page hold
      · exact answered_list s.server before
    exact ⟨by rw [hchat, hcursor]; exact hanswered.rows, hanswered.descending⟩
  · change (s.olderLoads.modify i _).length = _
    rw [List.length_modify]
    exact h.single
  · obtain ⟨before, hbefore, hchat, hcursor, -⟩ := mem_modify _ i s.server ok request hrequest
    rw [hchat, hcursor]
    exact h.cursor before hbefore
  · obtain ⟨before, hbefore, hchat, hcursor, -⟩ := mem_modify _ i s.server ok request hrequest
    rw [hchat] at hm
    exact h.above before hbefore b (hcursor ▸ hb) m hm
  · obtain ⟨before, hbefore, hsame, hcursor, -⟩ := mem_modify _ i s.server ok request hrequest
    exact h.shownAbove before hbefore (hsame.symm.trans hchat) b (hcursor ▸ hb) m hm

theorem consistent_append (hs : Shown s) (id chatId : JsString) :
    Consistent (step s (.append id chatId)) := by
  have hrows : ∀ request page, Answered s.server request page →
      Answered (s.server.append id chatId) request page := fun request page hanswered =>
    ⟨fun m hm => ⟨mem_append s.server id chatId m (hanswered.rows m hm).1, (hanswered.rows m hm).2⟩,
      hanswered.descending⟩
  have hnewest : ∀ c m, Newest (step s (.append id chatId)) c m → Newest s c m ∨
      ∀ old ∈ s.server.messages, old.chatId = c → old.sequence < m.sequence := by
    rintro c m (hm | hanswered)
    · exact (list_append s.server id chatId c m hm).imp_left .inl
    · exact .inl (.inr hanswered)
  refine ⟨fun m hm => mem_append s.server id chatId m (h.stored m hm), h.latest,
    fun request page hrequest hanswer => hrows _ _ (h.transcript request page hrequest hanswer),
    fun request hrequest page hanswer => hrows _ _ (h.older request hrequest page hanswer),
    h.single, fun request hrequest => ?_, fun request hrequest b hb m hm => ?_, h.shownAbove,
    fun m hm n hn => ?_, fun request page hrequest hanswer m hm n hn => ?_⟩
  · obtain ⟨m, hm, hsame, hcursor⟩ := h.cursor request hrequest
    exact ⟨m, mem_append s.server id chatId m hm, hsame, hcursor⟩
  · rcases hnewest request.chatId m hm with hm | hlater
    · exact h.above request hrequest b hb m hm
    · obtain ⟨old, hold, hsame, hcursor⟩ := h.cursor request hrequest
      obtain rfl : b = old.sequence := Option.some.inj (hb.symm.trans hcursor)
      exact Nat.le_of_lt (hlater old hold hsame)
  · have hin := List.mem_of_mem_head? hm
    rcases hnewest s.chatId n hn with hn | hlater
    · exact h.oldest m hm n hn
    · exact Nat.le_of_lt (hlater m (h.stored m hin) (hs.own m hin))
  · rcases list_append s.server id chatId request.chatId n hn with hn | hlater
    · exact h.tail request page hrequest hanswer m hm n hn
    · obtain ⟨hstored, hsame, -⟩ := (h.transcript request page hrequest hanswer).rows m
        (List.mem_of_getLast? hm)
      exact Nat.le_of_lt (hlater m hstored hsame)

theorem only_older (i : ℕ) (request : Request) (hi : s.olderLoads[i]? = some request) :
    s.olderLoads = [request] ∧ i = 0 := by
  obtain ⟨hlt, hget⟩ := List.getElem?_eq_some_iff.mp hi
  have hle : s.olderLoads.length ≤ 1 := by
    rw [h.single]
    split_ifs <;> omega
  obtain ⟨only, honly⟩ := List.length_eq_one_iff.mp (Nat.le_antisymm hle (by omega))
  obtain rfl : i = 0 := by omega
  refine ⟨?_, rfl⟩
  rw [honly] at hi ⊢
  exact congrArg (fun r => [r]) (Option.some.inj hi)

theorem consistent_showOlder (i : ℕ) (request : Request) (page : Option Page)
    (hi : s.olderLoads[i]? = some request) (hanswer : request.answer = some page)
    (hcurrent : ∀ shown, page = some shown → shown.items ≠ [] → request.chatId = s.chatId) :
    Consistent (showOlder s i page) := by
  obtain ⟨honly, rfl⟩ := only_older s h i request hi
  have hrequest : request ∈ s.olderLoads := honly ▸ List.mem_singleton_self request
  have hempty : (showOlder s 0 page).olderLoads = [] := by
    change s.olderLoads.eraseIdx 0 = []
    rw [honly]
    rfl
  have hnobody : ∀ other, other ∉ (showOlder s 0 page).olderLoads := fun other hother => by
    rw [hempty] at hother
    exact absurd hother List.not_mem_nil
  refine ⟨fun m hm => ?_, h.latest, h.transcript, fun other hother => absurd hother (hnobody other),
    by rw [hempty]; rfl, fun other hother => absurd hother (hnobody other),
    fun other hother => absurd hother (hnobody other),
    fun other hother => absurd hother (hnobody other), fun m hm n hn => ?_, h.tail⟩
  · rcases List.mem_append.mp hm with hm | hm
    · cases page with
      | none => exact absurd hm List.not_mem_nil
      | some shown =>
        exact ((h.older request hrequest shown hanswer).rows m (List.mem_reverse.mp hm)).1
    · exact h.stored m hm
  · cases page with
    | none => exact h.oldest m hm n hn
    | some shown =>
      change (shown.items.reverse ++ s.messages).head? = some m at hm
      by_cases hitems : shown.items = []
      · rw [hitems] at hm
        exact h.oldest m hm n hn
      · have hchat := hcurrent shown rfl hitems
        have hfirst : m ∈ shown.items := by
          rw [List.head?_append_of_ne_nil _ (by simpa using hitems)] at hm
          exact List.mem_reverse.mp (List.mem_of_mem_head? hm)
        obtain ⟨old, -, -, hcursor⟩ := h.cursor request hrequest
        have hlt := ((h.older request hrequest shown hanswer).rows m hfirst).2.2 _ hcursor
        have hle := h.above request hrequest _ hcursor n (hchat ▸ hn)
        omega

end Steps

section Display
variable (s : State) (h : Consistent s)

include h

omit h in
/-- Messages of the server under increasing sequences have different identifiers. -/
theorem shown_once (messages : List Message) (hstored : ∀ m ∈ messages, m ∈ s.server.messages)
    (hordered : messages.Pairwise fun a b => a.sequence < b.sequence) :
    (messages.map (·.id)).Nodup := by
  have hnodup : messages.Nodup := hordered.imp fun hlt heq => by
    rw [heq] at hlt
    exact Nat.lt_irrefl _ hlt
  refine (List.nodup_map_iff_inj_on hnodup).mpr fun a ha b hb heq => ?_
  exact List.inj_on_of_nodup_map s.server.ids (hstored a ha) (hstored b hb) heq

theorem shown_transcript (request : Request) (page : Option Page)
    (hrequest : s.transcriptLoad = some request) (hanswer : request.answer = some page) :
    Shown (showTranscript s page) := by
  cases page with
  | none => exact ⟨fun _ hm => absurd hm List.not_mem_nil, List.Pairwise.nil, List.nodup_nil⟩
  | some shown =>
    have hanswered := h.transcript request shown hrequest hanswer
    have hordered : shown.items.reverse.Pairwise fun a b => a.sequence < b.sequence :=
      List.pairwise_reverse.mpr hanswered.descending
    refine ⟨fun m hm => ?_, hordered, shown_once s _ (fun m hm => ?_) hordered⟩
    · exact (hanswered.rows m (List.mem_reverse.mp hm)).2.1.trans (h.latest request hrequest).1
    · exact (hanswered.rows m (List.mem_reverse.mp hm)).1

/-- An older page may be shown exactly when it is empty or for the current chat. -/
theorem shown_older (hs : Shown s) (i : ℕ) (request : Request) (page : Option Page)
    (hi : s.olderLoads[i]? = some request) (hanswer : request.answer = some page) :
    Shown (showOlder s i page) ↔
      ∀ shown, page = some shown → shown.items ≠ [] → request.chatId = s.chatId := by
  have hrequest := List.mem_of_getElem? hi
  constructor
  · rintro hshown shown rfl hitems
    obtain ⟨m, hm⟩ := List.exists_mem_of_ne_nil _ hitems
    have hown := hshown.own m (List.mem_append_left _ (List.mem_reverse.mpr hm))
    exact ((h.older request hrequest shown hanswer).rows m hm).2.1.symm.trans hown
  · intro hcurrent
    cases page with
    | none => exact ⟨hs.own, hs.ordered, hs.once⟩
    | some shown =>
      have hanswered := h.older request hrequest shown hanswer
      have hordered : (shown.items.reverse ++ s.messages).Pairwise
          fun a b => a.sequence < b.sequence := by
        rw [List.pairwise_append]
        refine ⟨List.pairwise_reverse.mpr hanswered.descending, hs.ordered, fun a ha b hb => ?_⟩
        have hin := List.mem_reverse.mp ha
        obtain ⟨old, -, -, hcursor⟩ := h.cursor request hrequest
        have hlt := (hanswered.rows a hin).2.2 _ hcursor
        have hle := h.shownAbove request hrequest
          (hcurrent shown rfl (List.ne_nil_of_mem hin)) _ hcursor b hb
        omega
      refine ⟨fun m hm => ?_, hordered, shown_once s _ (fun m hm => ?_) hordered⟩
      · rcases List.mem_append.mp hm with hm | hm
        · have hin := List.mem_reverse.mp hm
          exact (hanswered.rows m hin).2.1.trans (hcurrent shown rfl (List.ne_nil_of_mem hin))
        · exact hs.own m hm
      · rcases List.mem_append.mp hm with hm | hm
        · exact (hanswered.rows m (List.mem_reverse.mp hm)).1
        · exact h.stored m hm

end Display

/-- Older messages arrive while the chat they were asked for is the current one. -/
def Current (s : State) : Event → Prop
  | .olderResponse i => ∀ request page, s.olderLoads[i]? = some request →
      request.answer = some (some page) → page.items ≠ [] → request.chatId = s.chatId
  | _ => True

theorem current_iff (s : State) (h : Consistent s) (hs : Shown s) (event : Event) :
    Shown (step s event) ↔ Current s event := by
  have hsame : ∀ s' : State, s'.messages = s.messages → s'.chatId = s.chatId → Shown s' :=
    fun s' hmessages hchat => ⟨by rw [hmessages, hchat]; exact hs.own, hmessages ▸ hs.ordered,
      hmessages ▸ hs.once⟩
  cases event with
  | navigate chatId =>
    exact iff_of_true
      ⟨fun _ hm => absurd hm List.not_mem_nil, List.Pairwise.nil, List.nodup_nil⟩ trivial
  | transcriptAnswer ok => exact iff_of_true (hsame _ rfl rfl) trivial
  | transcriptResponse =>
    refine iff_of_true ?_ trivial
    dsimp only [step]
    split
    next page hpage =>
      obtain ⟨request, hrequest, hanswer⟩ := Option.bind_eq_some_iff.mp hpage
      exact shown_transcript s h request page hrequest hanswer
    next => exact hs
  | loadOlder =>
    refine iff_of_true ?_ trivial
    dsimp only [step]
    unfold loadOlder
    split
    · exact hs
    · split_ifs
      · exact hs
      · exact hsame _ rfl rfl
  | olderAnswer i ok => exact iff_of_true (hsame _ rfl rfl) trivial
  | append id chatId => exact iff_of_true (hsame _ rfl rfl) trivial
  | olderResponse i =>
    dsimp only [step, Current]
    cases hi : s.olderLoads[i]? with
    | none => exact iff_of_true hs fun _ _ hrequest => nomatch hrequest
    | some request =>
      cases hanswer : request.answer with
      | none =>
        have hnone : (some request).bind (·.answer) = none := hanswer
        rw [hnone]
        refine iff_of_true hs fun _ page hrequest hpage => ?_
        cases hrequest
        cases hanswer.symm.trans hpage
      | some page =>
        have hsome : (some request).bind (·.answer) = some page := hanswer
        rw [hsome]
        refine (shown_older s h hs i request page hi hanswer).trans ⟨?_, ?_⟩
        · intro hcurrent _ shown hrequest hpage
          cases hrequest
          exact hcurrent shown (Option.some.inj (hanswer.symm.trans hpage))
        · rintro hcurrent shown rfl
          exact hcurrent request shown rfl hanswer

theorem consistent_step (s : State) (h : Consistent s) (hs : Shown s) (event : Event)
    (hnext : Shown (step s event)) : Consistent (step s event) := by
  cases event with
  | navigate chatId => exact consistent_load s h chatId
  | transcriptAnswer ok => exact consistent_transcriptAnswer s h ok
  | transcriptResponse =>
    dsimp only [step]
    split
    next page hpage =>
      obtain ⟨request, hrequest, hanswer⟩ := Option.bind_eq_some_iff.mp hpage
      exact consistent_showTranscript s h request page hrequest hanswer
    next => exact h
  | loadOlder => exact consistent_loadOlder s h hs
  | olderAnswer i ok => exact consistent_olderAnswer s h i ok
  | append id chatId => exact consistent_append s h hs id chatId
  | olderResponse i =>
    have hcurrent := (current_iff s h hs (.olderResponse i)).mp hnext
    dsimp only [step]
    split
    next page hpage =>
      obtain ⟨request, hi, hanswer⟩ := Option.bind_eq_some_iff.mp hpage
      refine consistent_showOlder s h i request page hi hanswer ?_
      rintro shown rfl
      exact hcurrent request shown hi hanswer
    next => exact h

/-- In a run the transcript stays that of the current chat exactly when no older page arrives after
the reader has gone elsewhere. -/
theorem transcript_of_current_chat (server : Server) (chatId : JsString) (events : List Event) :
    (∀ s ∈ states step (start server chatId) events, Shown s) ↔
      Allowed step Current (start server chatId) events := by
  refine run_exact step Current Consistent Shown
    (fun s event h hs hnext => consistent_step s h hs event hnext)
    (fun s event h hs => current_iff s h hs event) _ events ?_ ?_
  · refine consistent_load _ ?_ chatId
    refine ⟨?_, ?_, ?_, ?_, rfl, ?_, ?_, ?_, ?_, ?_⟩
    · exact fun _ hm => absurd hm List.not_mem_nil
    · exact fun _ hload => nomatch hload
    · exact fun _ _ hload => nomatch hload
    · exact fun _ hrequest => absurd hrequest List.not_mem_nil
    · exact fun _ hrequest => absurd hrequest List.not_mem_nil
    · exact fun _ hrequest => absurd hrequest List.not_mem_nil
    · exact fun _ hrequest => absurd hrequest List.not_mem_nil
    · exact fun _ hm => nomatch hm
    · exact fun _ _ hload => nomatch hload
  · exact ⟨fun _ hm => absurd hm List.not_mem_nil, List.Pairwise.nil, List.nodup_nil⟩

def opening : Message := ⟨[0], js "long", 1⟩

def longChat : Server where
  messages := opening :: (List.range 50).map fun n => ⟨[UInt16.ofNat n, 1], js "long", n + 2⟩
  ids := by decide +kernel
  ordered := by decide +kernel

def leaving : List Event :=
  [.transcriptAnswer true, .transcriptResponse, .loadOlder, .navigate (js "other"),
    .olderAnswer 0 true, .olderResponse 0]

theorem older_page_in_other_chat :
    ¬∀ s ∈ states step (start longChat (js "long")) leaving, Shown s := by
  intro h
  have hshown := h _ (final_mem step _ leaving)
  have hin : opening ∈ (leaving.foldl step (start longChat (js "long"))).messages := by
    decide +kernel
  have hchat : (leaving.foldl step (start longChat (js "long"))).chatId = js "other" := rfl
  have hown := hshown.own opening hin
  rw [hchat] at hown
  revert hown
  decide

end Glassbeetle.TranscriptDisplay
