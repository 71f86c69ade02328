import Glassbeetle.CompactionRetention

set_option autoImplicit false

namespace Glassbeetle.RecentTurns
open JsText Database ContextConstruction ContextAccounting ChatCompaction CompactionRetention

section Tails

variable {α : Type}

/-- All of the last `k` elements come after the cut exactly if there are `k` after it. -/
theorem recent_iff (front tail : List α) (k : ℕ) (hfront : front ≠ []) (htail : tail.length ≤ k)
    (hdisjoint : ∀ x ∈ front, x ∉ tail) :
    (∀ x ∈ (front ++ tail).drop ((front ++ tail).length - k), x ∈ tail) ↔ tail.length = k := by
  have hlength : (front ++ tail).length = front.length + tail.length := List.length_append
  constructor
  · intro h
    by_contra hne
    have hcut : (front ++ tail).length - k < front.length := by
      have hpos := List.length_pos_of_ne_nil hfront
      omega
    have hrest : front.drop ((front ++ tail).length - k) ≠ [] := by
      rw [Ne, List.drop_eq_nil_iff]
      omega
    obtain ⟨x, hx⟩ := List.exists_mem_of_ne_nil _ hrest
    refine hdisjoint x (List.mem_of_mem_drop hx) (h x ?_)
    rw [List.drop_append_of_le_length hcut.le]
    exact List.mem_append_left _ hx
  · intro h x hx
    have hcut : (front ++ tail).length - k = front.length := by omega
    rwa [hcut, List.drop_left] at hx

end Tails

section Building

def rowReading (row : Row) : ℤ × JsString × JsString := (row.sequence, row.content, row.status.text)

def messageReading (msg : ContextInputMessage) : ℤ × JsString × JsString :=
  (msg.sequence, msg.content, msg.status)

structure BuildsFrom (input : BuildContextInput) (chat : Chat) : Prop where
  messages : input.messages.map messageReading = chat.rows.map rowReading
  boundary : input.compactedBeforeSequence = chat.compactedBeforeSequence
  whole : ∀ bound ∈ input.maxSequence, ∀ row ∈ chat.rows, row.sequence ≤ bound

/-- Nothing has been left out for want of room. -/
def Untruncated (context : AssembledContext) : Prop :=
  ∀ out ∈ context.excludedMessages, out.reason ≠ .truncatedForWindow

/-- The row is part of the request word for word; in a team's chat a banner may precede it. -/
def Included (input : BuildContextInput) (context : AssembledContext) (row : Row) : Prop :=
  ∃ detail ∈ context.messageDetails, detail.sequence = row.sequence ∧
    row.content <:+ detail.content ∧ (input.isTeamChat = false → detail.content = row.content)

theorem formattedContent_suffix (input : BuildContextInput) (msg : ContextInputMessage) :
    msg.content <:+ formattedContent input msg := by
  unfold formattedContent
  dsimp only
  split_ifs
  · exact List.suffix_rfl
  · exact List.suffix_append _ _
  · exact List.suffix_append _ _
  · exact List.suffix_rfl

theorem formattedContent_alone (input : BuildContextInput) (msg : ContextInputMessage)
    (h : input.isTeamChat = false) : formattedContent input msg = msg.content := by
  unfold formattedContent
  rw [h, if_neg fun hboth => Bool.false_ne_true hboth.1]

theorem untruncated_details (input : BuildContextInput) (context : AssembledContext)
    (h : buildContextPure input = .ok context) (hwhole : Untruncated context) :
    context.messageDetails = (eligible input).map fun msg => messageDetail (candidate input msg) := by
  obtain ⟨active, dropped, rfl, ⟨front, hfront, hids, hdropped⟩, -, -⟩ :=
    buildContextPure_ok input context h
  have hnone : dropped = [] := by
    refine List.eq_nil_iff_forall_not_mem.mpr fun out hout => ?_
    obtain ⟨item, -, detail, rfl⟩ := hdropped out hout
    exact hwhole _ (List.mem_append_right _ hout) rfl
  rw [hnone, List.map_nil] at hids
  rw [List.map_eq_nil_iff.mp hids.symm, List.nil_append] at hfront
  change active.map messageDetail = _
  rw [hfront, List.map_map]
  rfl

theorem included_iff (input : BuildContextInput) (context : AssembledContext) (chat : Chat)
    (hinput : BuildsFrom input chat) (h : buildContextPure input = .ok context)
    (hwhole : Untruncated context) (row : Row) (hrow : row ∈ chat.rows) (hspoken : row.spoken) :
    Included input context row ↔ ∀ b ∈ chat.compactedBeforeSequence, b ≤ row.sequence := by
  unfold Included
  rw [untruncated_details input context h hwhole]
  constructor
  · rintro ⟨detail, hdetail, hsequence, -⟩ b hb
    obtain ⟨msg, hmsg, rfl⟩ := List.mem_map.mp hdetail
    have heligible := of_decide_eq_true (List.mem_filter.mp hmsg).2
    have hbefore := ((eligible_iff input msg).mp heligible).2.2.1
    rw [hinput.boundary] at hbefore
    have hle : b ≤ msg.sequence := by simpa using Option.filter_eq_none_iff.mp hbefore b hb
    rw [← hsequence]
    exact hle
  · intro hb
    have hmem : rowReading row ∈ input.messages.map messageReading := by
      rw [hinput.messages]
      exact List.mem_map_of_mem hrow
    obtain ⟨msg, hmsg, hreading⟩ := List.mem_map.mp hmem
    obtain ⟨hsequence, hrest⟩ := Prod.mk.inj hreading
    obtain ⟨hcontent, hstatus⟩ := Prod.mk.inj hrest
    have hparts : row.status = .complete ∧ trim row.content ≠ [] := by
      simpa only [Row.spoken, decide_eq_true_eq] using hspoken
    have heligible : Eligible input msg := by
      refine (eligible_iff input msg).mpr ⟨?_, ?_, ?_, ?_⟩
      · rw [hstatus, hparts.1]
        rfl
      · rw [hcontent]
        exact hparts.2
      · rw [hinput.boundary]
        refine Option.filter_eq_none_iff.mpr fun b hbound => ?_
        rw [hsequence, decide_eq_true_eq]
        exact not_lt.mpr (hb b hbound)
      · refine Option.filter_eq_none_iff.mpr fun b hbound => ?_
        rw [hsequence, decide_eq_true_eq]
        exact not_lt.mpr (hinput.whole b hbound row hrow)
    have hraw : msg ∈ eligible input :=
      List.mem_filter.mpr ⟨(List.mem_insertionSort _).mpr hmsg, decide_eq_true heligible⟩
    refine ⟨_, List.mem_map_of_mem hraw, hsequence, ?_, fun halone => ?_⟩
    · rw [← hcontent]
      exact formattedContent_suffix input msg
    · rw [← hcontent]
      exact formattedContent_alone input msg halone

def plainInput (chat : Chat) : BuildContextInput where
  sources := ⟨none, none, none, none⟩
  messages := chat.rows.map CompactionRetention.message
  contextWindow := none
  fittingStrategy := none
  compactedBeforeSequence := chat.compactedBeforeSequence
  memorySeam := none
  isTeamChat := false
  currentAgentId := none
  maxSequence := none

theorem plainInput_builds (chat : Chat) : BuildsFrom (plainInput chat) chat := by
  refine ⟨?_, rfl, fun _ h => nomatch h⟩
  change (chat.rows.map CompactionRetention.message).map messageReading = _
  rw [List.map_map]
  rfl

theorem sift_untruncated (input : BuildContextInput) (msgs : List ContextInputMessage) :
    ∀ out ∈ (sift input msgs).2, out.reason ≠ .truncatedForWindow := by
  induction msgs with
  | nil => exact fun _ h => absurd h List.not_mem_nil
  | cons msg rest ih =>
    unfold sift
    rcases consider_cases input msg with ⟨out, hout, haccounted, hnot⟩ | ⟨hin, -⟩
    · rw [hout]
      intro other hother
      rcases List.mem_cons.mp hother with rfl | hother
      · intro hreason
        have hfirst := haccounted.2
        rw [hreason] at hfirst
        exact hnot hfirst
      · exact ih other hother
    · rw [hin]
      exact ih

theorem plainInput_ok (chat : Chat) :
    ∃ context, buildContextPure (plainInput chat) = .ok context ∧ Untruncated context := by
  refine ⟨assemble (plainInput chat) (sift (plainInput chat) (rawMessages (plainInput chat))).1
    ((sift (plainInput chat) (rawMessages (plainInput chat))).2 ++ []), rfl, fun out hout => ?_⟩
  change out ∈ (sift (plainInput chat) (rawMessages (plainInput chat))).2 ++ [] at hout
  rw [List.append_nil] at hout
  exact sift_untruncated _ _ out hout

end Building

def compactAlone (s : State) (preserveRecentCount : ℤ) (reply : JsString) : State :=
  step (step s (.compactRead preserveRecentCount)) (.compactWrite s.jobs.length reply)

/-- The most recent turns at or after the boundary, `k` of them if there are as many. -/
def recentTurns (chat : Chat) (k : ℕ) : List Row :=
  let turns := (uncompacted chat).filter Row.spoken
  turns.drop (turns.length - k)

/-- Every request for the history of the chat as it is after has the recent turns of before. -/
def RecentVerbatim (before after : Chat) (k : ℕ) : Prop :=
  ∀ input context, BuildsFrom input after → buildContextPure input = .ok context →
    Untruncated context → ∀ row ∈ recentTurns before k, Included input context row

theorem compactAlone_chat (s : State) (k : ℤ) (reply : JsString) (request : CompactionRequest)
    (h : readHistory s.chat k = .ok request) : (compactAlone s k reply).chat =
      { s.chat with
        contextSummary := some (trim reply)
        compactedBeforeSequence := some request.newCompactedBeforeSequence } := by
  unfold compactAlone
  simp only [step, h, List.getElem?_concat_length]

theorem uncompacted_increasing (chat : Chat) (hdistinct : (chat.rows.map (·.sequence)).Nodup) :
    (uncompacted chat).Pairwise fun a b => a.sequence < b.sequence := by
  have hsorted : (chat.rows.insertionSort fun a b => a.sequence ≤ b.sequence).Pairwise
      fun a b => a.sequence ≤ b.sequence :=
    List.pairwise_insertionSort (fun a b : Row => a.sequence ≤ b.sequence) _
  have hnodup : ((chat.rows.insertionSort fun a b => a.sequence ≤ b.sequence).map
      (·.sequence)).Nodup :=
    ((List.perm_insertionSort _ _).map _).nodup_iff.mpr hdistinct
  have hincreasing := (hsorted.and (List.pairwise_map.mp hnodup)).imp fun h => lt_of_le_of_ne h.1 h.2
  unfold uncompacted
  dsimp only
  split
  · split_ifs
    · exact hincreasing
    · exact hincreasing.filter _
  · exact hincreasing

theorem uncompacted_mem (chat : Chat) (row : Row) (h : row ∈ uncompacted chat) :
    row ∈ chat.rows := by
  unfold uncompacted at h
  dsimp only at h
  split at h
  · split_ifs at h
    · exact (List.mem_insertionSort _).mp h
    · exact (List.mem_insertionSort _).mp (List.mem_of_mem_filter h)
  · exact (List.mem_insertionSort _).mp h

theorem readHistory_cut (chat : Chat) (k : ℤ) (request : CompactionRequest)
    (h : readHistory chat k = .ok request) :
    k.toNat < (uncompacted chat).length ∧
      ((uncompacted chat).take ((uncompacted chat).length - k.toNat)).filter Row.spoken ≠ [] ∧
      ∃ last, ((uncompacted chat).take ((uncompacted chat).length - k.toNat)).getLast? = some last ∧
        request.newCompactedBeforeSequence = last.sequence + 1 := by
  unfold readHistory at h
  dsimp only at h
  split_ifs at h with hneg hfew
  split at h
  · rename_i first rest last hvalid hlast
    obtain rfl := Except.ok.inj h
    refine ⟨by omega, ?_, last, hlast, rfl⟩
    rw [hvalid]
    exact List.cons_ne_nil _ _
  · cases h

section Cut

variable (s : State) (k : ℤ) (reply : JsString) (request : CompactionRequest)
  (hdistinct : (s.chat.rows.map (·.sequence)).Nodup) (hread : readHistory s.chat k = .ok request)

def spared (chat : Chat) (k : ℕ) : List Row :=
  (uncompacted chat).drop ((uncompacted chat).length - k)

def folded (chat : Chat) (k : ℕ) : List Row :=
  (uncompacted chat).take ((uncompacted chat).length - k)

theorem recentTurns_split (chat : Chat) (k : ℕ) : (uncompacted chat).filter Row.spoken =
    (folded chat k).filter Row.spoken ++ (spared chat k).filter Row.spoken := by
  rw [← List.filter_append]
  unfold folded spared
  rw [List.take_append_drop]

theorem spared_after (chat : Chat) (k : ℕ) (hdistinct : (chat.rows.map (·.sequence)).Nodup)
    (a b : Row) (ha : a ∈ folded chat k) (hb : b ∈ spared chat k) : a.sequence < b.sequence := by
  have hincreasing := uncompacted_increasing chat hdistinct
  rw [← List.take_append_drop ((uncompacted chat).length - k) (uncompacted chat)] at hincreasing
  exact (List.pairwise_append.mp hincreasing).2.2 a ha b hb

include hdistinct hread

theorem spared_iff (row : Row) (hrow : row ∈ uncompacted s.chat) :
    (∀ b ∈ (compactAlone s k reply).chat.compactedBeforeSequence, b ≤ row.sequence) ↔
      row ∈ spared s.chat k.toNat := by
  obtain ⟨-, -, last, hlast, hboundary⟩ := readHistory_cut s.chat k request hread
  have hcut := mem_take_iff _ (uncompacted_increasing s.chat hdistinct) _ last row hlast hrow
  rw [compactAlone_chat s k reply request hread, hboundary]
  constructor
  · intro h
    have hle := h _ rfl
    rw [← List.take_append_drop ((uncompacted s.chat).length - k.toNat) (uncompacted s.chat)] at hrow
    refine (List.mem_append.mp hrow).resolve_left fun hfolded => ?_
    have hlt := hcut.mp hfolded
    omega
  · intro h b hb
    obtain rfl := Option.some.inj hb
    have hlt := spared_after s.chat k.toNat hdistinct last row (List.mem_of_getLast? hlast) h
    omega

theorem verbatim_iff : RecentVerbatim s.chat (compactAlone s k reply).chat k.toNat ↔
    ∀ row ∈ recentTurns s.chat k.toNat, row ∈ (spared s.chat k.toNat).filter Row.spoken := by
  have hrows : (compactAlone s k reply).chat.rows = s.chat.rows := by
    rw [compactAlone_chat s k reply request hread]
  have hturn (row : Row) (hrow : row ∈ recentTurns s.chat k.toNat) :
      row ∈ uncompacted s.chat ∧ row.spoken :=
    List.mem_filter.mp (List.mem_of_mem_drop hrow)
  have hincluded (input : BuildContextInput) (context : AssembledContext)
      (hinput : BuildsFrom input (compactAlone s k reply).chat)
      (hok : buildContextPure input = .ok context) (hwhole : Untruncated context) (row : Row)
      (hrow : row ∈ recentTurns s.chat k.toNat) :
      Included input context row ↔ row ∈ (spared s.chat k.toNat).filter Row.spoken := by
    obtain ⟨hin, hspoken⟩ := hturn row hrow
    rw [included_iff input context _ hinput hok hwhole row
      (hrows ▸ uncompacted_mem s.chat row hin) hspoken, spared_iff s k reply request hdistinct hread
      row hin, List.mem_filter]
    exact (and_iff_left hspoken).symm
  constructor
  · intro h row hrow
    obtain ⟨context, hok, hwhole⟩ := plainInput_ok (compactAlone s k reply).chat
    have hinput := plainInput_builds (compactAlone s k reply).chat
    exact (hincluded _ context hinput hok hwhole row hrow).mp (h _ context hinput hok hwhole row hrow)
  · intro h input context hinput hok hwhole row hrow
    exact (hincluded input context hinput hok hwhole row hrow).mpr (h row hrow)

/-- The recent turns are kept word for word exactly if each of the rows that compaction spares is
a turn that says something. -/
theorem recent_turns_kept :
    RecentVerbatim s.chat (compactAlone s k reply).chat k.toNat ↔
      ∀ row ∈ (uncompacted s.chat).drop ((uncompacted s.chat).length - k.toNat), row.spoken := by
  obtain ⟨hlt, hfront, -⟩ := readHistory_cut s.chat k request hread
  have hlength : (spared s.chat k.toNat).length = k.toNat := by
    unfold spared
    rw [List.length_drop]
    omega
  have hfew : ((spared s.chat k.toNat).filter Row.spoken).length ≤ k.toNat :=
    (List.length_filter_le _ _).trans hlength.le
  rw [verbatim_iff s k reply request hdistinct hread]
  have hdisjoint : ∀ row ∈ (folded s.chat k.toNat).filter Row.spoken,
      row ∉ (spared s.chat k.toNat).filter Row.spoken := fun row hrow hspared =>
    lt_irrefl _ (spared_after s.chat k.toNat hdistinct row row (List.mem_of_mem_filter hrow)
      (List.mem_of_mem_filter hspared))
  unfold recentTurns
  dsimp only
  rw [recentTurns_split s.chat k.toNat]
  refine (recent_iff _ _ k.toNat hfront hfew hdisjoint).trans ?_
  nth_rewrite 2 [← hlength]
  exact List.length_filter_eq_length_iff

end Cut

def uncut (rows : List Row) : State := { initial with chat := ⟨rows, none, none⟩ }

theorem recent_turns_kept_question :
    RecentVerbatim
      (uncut [⟨1, js "user", js "one", .complete⟩, ⟨2, js "assistant", js "1", .complete⟩,
        ⟨3, js "user", js "two", .complete⟩]).chat
      (compactAlone (uncut [⟨1, js "user", js "one", .complete⟩,
        ⟨2, js "assistant", js "1", .complete⟩, ⟨3, js "user", js "two", .complete⟩]) 1
          (js "counting")).chat 1 :=
  (recent_turns_kept (uncut [⟨1, js "user", js "one", .complete⟩,
    ⟨2, js "assistant", js "1", .complete⟩, ⟨3, js "user", js "two", .complete⟩]) 1 (js "counting") _
    (by decide) rfl).mpr (by decide)

/-- The question before a failed reply is folded, since the failed reply is what is spared. -/
theorem question_folded :
    (∃ request, readHistory (uncut [⟨1, js "user", js "one", .complete⟩,
      ⟨2, js "assistant", js "1", .complete⟩, ⟨3, js "user", js "two", .complete⟩,
      ⟨4, js "assistant", [], .error⟩]).chat 1 = .ok request) ∧
    ¬RecentVerbatim
      (uncut [⟨1, js "user", js "one", .complete⟩, ⟨2, js "assistant", js "1", .complete⟩,
        ⟨3, js "user", js "two", .complete⟩, ⟨4, js "assistant", [], .error⟩]).chat
      (compactAlone (uncut [⟨1, js "user", js "one", .complete⟩,
        ⟨2, js "assistant", js "1", .complete⟩, ⟨3, js "user", js "two", .complete⟩,
        ⟨4, js "assistant", [], .error⟩]) 1 (js "counting")).chat 1 := by
  refine ⟨⟨_, rfl⟩, fun h => ?_⟩
  obtain ⟨context, hok, hwhole⟩ := plainInput_ok (compactAlone (uncut
    [⟨1, js "user", js "one", .complete⟩, ⟨2, js "assistant", js "1", .complete⟩,
      ⟨3, js "user", js "two", .complete⟩, ⟨4, js "assistant", [], .error⟩]) 1 (js "counting")).chat
  have hincluded := h _ context (plainInput_builds _) hok hwhole
    ⟨3, js "user", js "two", .complete⟩ (by decide)
  have hbound := (included_iff _ context _ (plainInput_builds _) hok hwhole
    ⟨3, js "user", js "two", .complete⟩ (by decide) (by decide)).mp hincluded 4 rfl
  exact absurd hbound (by decide)

end Glassbeetle.RecentTurns
