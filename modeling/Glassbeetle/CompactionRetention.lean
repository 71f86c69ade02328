import Glassbeetle.ChatCompaction
import Glassbeetle.ContextAccounting

set_option autoImplicit false

namespace Glassbeetle.CompactionRetention
open JsText Database ContextConstruction ContextAccounting ChatCompaction Runs

structure Waiting (rows : List Row) (job : Job) : Prop where
  positive : 1 ≤ job.newCompactedBeforeSequence
  bounded : job.newCompactedBeforeSequence ≤ nextSequence rows
  finished : ∀ q, job.chain.Holds q →
    (∃ row ∈ rows, row.sequence = q ∧ row.status = .complete) ∧ q ∉ job.inFlight
  prompted : ∃ row ∈ rows, row.spoken ∧ row.sequence < job.newCompactedBeforeSequence
  flying : ∀ row ∈ rows, row.inFlight → row.sequence < job.newCompactedBeforeSequence →
    row.sequence ∈ job.inFlight
  covers : ∀ row ∈ rows, row.spoken → row.sequence < job.newCompactedBeforeSequence →
    job.chain.Holds row.sequence ∨ row.sequence ∈ job.inFlight

structure Invariant (s : State) : Prop where
  ordered : s.chat.rows.Pairwise fun a b => a.sequence < b.sequence
  positive : ∀ row ∈ s.chat.rows, 1 ≤ row.sequence
  boundary : ∀ b ∈ s.chat.compactedBeforeSequence, 1 ≤ b ∧ b ≤ nextSequence s.chat.rows
  chain : ∀ chain ∈ s.chain, ∀ q, chain.Holds q →
    ∃ row ∈ s.chat.rows, row.sequence = q ∧ row.status = .complete
  jobs : ∀ job ∈ s.jobs, Waiting s.chat.rows job

theorem spoken_complete (row : Row) (h : row.spoken) : row.status = .complete := by
  simp only [Row.spoken, decide_eq_true_eq] at h
  exact h.1

theorem inFlight_not_complete (row : Row) (h : row.inFlight) : row.status ≠ .complete := by
  intro hc
  simp [Row.inFlight, MessageStatus.inFlight, hc] at h

theorem lt_nextSequence (rows : List Row) (row : Row) (h : row ∈ rows) :
    row.sequence < nextSequence rows := by
  have hm : row.sequence ∈ rows.map (·.sequence) := List.mem_map_of_mem h
  cases hmax : (rows.map (·.sequence)).max? with
  | none => simp [List.max?_eq_none_iff.mp hmax] at hm
  | some top =>
    have hle := (List.max?_eq_some_iff.mp hmax).2 _ hm
    simp only [nextSequence, hmax, Option.getD_some]
    omega

theorem one_le_nextSequence (rows : List Row) (h : ∀ row ∈ rows, 1 ≤ row.sequence) :
    1 ≤ nextSequence rows := by
  cases rows with
  | nil => decide
  | cons row rest =>
    have := h row List.mem_cons_self
    have := lt_nextSequence (row :: rest) row List.mem_cons_self
    omega

theorem nextSequence_append (rows : List Row) (role content : JsString) (status : MessageStatus) :
    nextSequence rows ≤ nextSequence (rows ++ [⟨nextSequence rows, role, content, status⟩]) :=
  (lt_nextSequence _ ⟨nextSequence rows, role, content, status⟩ (by simp)).le

theorem same_row (rows : List Row) (h : rows.Pairwise fun a b => a.sequence < b.sequence)
    (a b : Row) (ha : a ∈ rows) (hb : b ∈ rows) (he : a.sequence = b.sequence) : a = b := by
  have hnodup : (rows.map (·.sequence)).Nodup := List.pairwise_map.mpr (h.imp ne_of_lt)
  exact List.inj_on_of_nodup_map hnodup ha hb he

/-! ## Adding and flushing rows -/

theorem waiting_addRow (rows : List Row) (job : Job) (role content : JsString)
    (status : MessageStatus) (h : Waiting rows job) :
    Waiting (rows ++ [⟨nextSequence rows, role, content, status⟩]) job := by
  have hb := h.bounded
  have hnew := nextSequence_append rows role content status
  refine ⟨h.positive, hb.trans hnew, fun q hq => ?_, ?_, fun row hm hf hlt => ?_,
    fun row hm hs hlt => ?_⟩
  · obtain ⟨⟨row, hm, hr⟩, hn⟩ := h.finished q hq
    exact ⟨⟨row, List.mem_append_left _ hm, hr⟩, hn⟩
  · obtain ⟨row, hm, hr⟩ := h.prompted
    exact ⟨row, List.mem_append_left _ hm, hr⟩
  · rcases List.mem_append.mp hm with hm | hm
    · exact h.flying row hm hf hlt
    · obtain rfl := List.mem_singleton.mp hm
      exact absurd hb (not_le.mpr hlt)
  · rcases List.mem_append.mp hm with hm | hm
    · exact h.covers row hm hs hlt
    · obtain rfl := List.mem_singleton.mp hm
      exact absurd hb (not_le.mpr hlt)

theorem invariant_addRow (s : State) (role content : JsString) (status : MessageStatus)
    (h : Invariant s) : Invariant (addRow s role content status) := by
  have hone := one_le_nextSequence s.chat.rows h.positive
  refine ⟨?_, ?_, fun b hb => ?_, fun chain hc q hq => ?_, fun job hj => ?_⟩
  · refine List.pairwise_append.mpr ⟨h.ordered, List.pairwise_singleton _ _, ?_⟩
    intro a ha b hb
    obtain rfl := List.mem_singleton.mp hb
    exact lt_nextSequence _ a ha
  · intro row hm
    rcases List.mem_append.mp hm with hm | hm
    · exact h.positive row hm
    · obtain rfl := List.mem_singleton.mp hm
      exact hone
  · obtain ⟨h1, h2⟩ := h.boundary b hb
    exact ⟨h1, h2.trans (nextSequence_append _ _ _ _)⟩
  · obtain ⟨row, hm, hr⟩ := h.chain chain hc q hq
    exact ⟨row, List.mem_append_left _ hm, hr⟩
  · exact waiting_addRow _ job role content status (h.jobs job hj)

theorem kept_addRow (s : State) (role content : JsString) (status : MessageStatus)
    (h : Invariant s) (hk : Kept s) : Kept (addRow s role content status) := by
  intro row hm hs
  rcases List.mem_append.mp hm with hm | hm
  · exact hk row hm hs
  · obtain rfl := List.mem_singleton.mp hm
    exact .inl fun b hb => (h.boundary b hb).2

theorem flushRow_sequence (sequence : ℤ) (status : MessageStatus) (content : JsString) (row : Row) :
    (flushRow sequence status content row).sequence = row.sequence := by
  unfold flushRow
  split_ifs <;> rfl

theorem flushRow_final (sequence : ℤ) (status : MessageStatus) (content : JsString) (row : Row)
    (h : ¬ row.inFlight) : flushRow sequence status content row = row :=
  if_neg fun hr => h hr.2

theorem flushRow_cases (sequence : ℤ) (status : MessageStatus) (content : JsString) (row : Row) :
    flushRow sequence status content row = row ∨
      row.inFlight ∧ row.sequence = sequence ∧
        flushRow sequence status content row = { row with status := status, content := content } := by
  by_cases h : row.sequence = sequence ∧ row.inFlight
  · exact .inr ⟨h.2, h.1, if_pos h⟩
  · exact .inl (if_neg h)

theorem complete_flush (rows : List Row) (sequence q : ℤ) (status : MessageStatus)
    (content : JsString) (h : ∃ row ∈ rows, row.sequence = q ∧ row.status = .complete) :
    ∃ row ∈ rows.map (flushRow sequence status content),
      row.sequence = q ∧ row.status = .complete := by
  obtain ⟨row, hm, hq, hc⟩ := h
  refine ⟨_, List.mem_map_of_mem hm, ?_⟩
  rw [flushRow_final _ _ _ _ fun hf => inFlight_not_complete row hf hc]
  exact ⟨hq, hc⟩

theorem nextSequence_flush (rows : List Row) (sequence : ℤ) (status : MessageStatus)
    (content : JsString) :
    nextSequence (rows.map (flushRow sequence status content)) = nextSequence rows := by
  have hmap : (rows.map (flushRow sequence status content)).map (·.sequence) =
      rows.map (·.sequence) := by
    simp [Function.comp_def, flushRow_sequence]
  rw [nextSequence, hmap, nextSequence]

theorem waiting_flush (rows : List Row) (job : Job) (sequence : ℤ) (status : MessageStatus)
    (content : JsString) (h : Waiting rows job) :
    Waiting (rows.map (flushRow sequence status content)) job := by
  refine ⟨h.positive, by rw [nextSequence_flush]; exact h.bounded, fun q hq => ?_, ?_, ?_, ?_⟩
  · obtain ⟨hc, hn⟩ := h.finished q hq
    exact ⟨complete_flush rows sequence q status content hc, hn⟩
  · obtain ⟨row, hm, hs, hlt⟩ := h.prompted
    refine ⟨_, List.mem_map_of_mem hm, ?_⟩
    rw [flushRow_final _ _ _ _ fun hf => inFlight_not_complete row hf (spoken_complete row hs)]
    exact ⟨hs, hlt⟩
  · intro row' hm hf hlt
    obtain ⟨row, hrow, rfl⟩ := List.mem_map.mp hm
    rw [flushRow_sequence] at hlt ⊢
    rcases flushRow_cases sequence status content row with he | ⟨hr, -, -⟩
    · exact h.flying row hrow (he ▸ hf) hlt
    · exact h.flying row hrow hr hlt
  · intro row' hm hs hlt
    obtain ⟨row, hrow, rfl⟩ := List.mem_map.mp hm
    rw [flushRow_sequence] at hlt ⊢
    rcases flushRow_cases sequence status content row with he | ⟨hr, -, -⟩
    · exact h.covers row hrow (he ▸ hs) hlt
    · exact .inr (h.flying row hrow hr hlt)

theorem invariant_flush (s : State) (sequence : ℤ) (status : MessageStatus) (content : JsString)
    (h : Invariant s) : Invariant (step s (.flush sequence status content)) := by
  refine ⟨?_, ?_, fun b hb => ?_, fun chain hc q hq => ?_, fun job hj => ?_⟩
  · refine List.pairwise_map.mpr (h.ordered.imp fun hlt => ?_)
    simpa only [flushRow_sequence] using hlt
  · intro row' hm
    obtain ⟨row, hrow, rfl⟩ := List.mem_map.mp hm
    rw [flushRow_sequence]
    exact h.positive row hrow
  · have hb := h.boundary b hb
    exact ⟨hb.1, hb.2.trans (nextSequence_flush ..).ge⟩
  · exact complete_flush _ _ _ _ _ (h.chain chain hc q hq)
  · exact waiting_flush _ job _ _ _ (h.jobs job hj)

theorem kept_flush (s : State) (sequence : ℤ) (status : MessageStatus) (content : JsString)
    (h : Invariant s) (hk : Kept s) :
    Kept (step s (.flush sequence status content)) ↔ Harmless s (.flush sequence status content) := by
  constructor
  · rintro hk' ⟨row, hm, hq, hf⟩ rfl hblank
    have hnew : flushRow sequence .complete content row =
        { row with status := .complete, content := content } := if_pos ⟨hq, hf⟩
    have hspoken : (flushRow sequence .complete content row).spoken := by
      rw [hnew]
      simpa [Row.spoken] using hblank
    rcases hk' _ (List.mem_map_of_mem hm) hspoken with hb | ⟨-, chain, hc, hq'⟩
    · rw [flushRow_sequence, hq] at hb
      exact hb
    · obtain ⟨other, hm', he, hcomplete⟩ := h.chain chain hc _ hq'
      rw [flushRow_sequence] at he
      obtain rfl := same_row _ h.ordered other row hm' hm he
      exact absurd hcomplete (inFlight_not_complete other hf)
  · intro hsafe row' hm hs
    obtain ⟨row, hrow, rfl⟩ := List.mem_map.mp hm
    rcases flushRow_cases sequence status content row with he | ⟨hf, hq, he⟩
    · rw [he] at hs ⊢
      exact hk row hrow hs
    · rw [he] at hs
      simp only [Row.spoken, decide_eq_true_eq] at hs
      rw [flushRow_sequence, hq]
      exact .inl (hsafe ⟨row, hrow, hq, hf⟩ hs.1 hs.2)

/-! ## Reading the history -/

theorem mem_take_iff (rows : List Row) (h : rows.Pairwise fun a b => a.sequence < b.sequence)
    (n : ℕ) (last row : Row) (hlast : (rows.take n).getLast? = some last) (hm : row ∈ rows) :
    row ∈ rows.take n ↔ row.sequence < last.sequence + 1 := by
  have hsplit := List.pairwise_append.mp ((List.take_append_drop n rows).symm ▸ h)
  have hl : last ∈ rows.take n := List.mem_of_getLast? hlast
  constructor
  · intro ht
    obtain ⟨front, hfront⟩ := List.getLast?_eq_some_iff.mp hlast
    rw [hfront] at ht hsplit
    rcases List.mem_append.mp ht with ht | ht
    · have := (List.pairwise_append.mp hsplit.1).2.2 row ht last (by simp)
      omega
    · obtain rfl := List.mem_singleton.mp ht
      omega
  · intro hlt
    rw [← List.take_append_drop n rows] at hm
    rcases List.mem_append.mp hm with hm | hm
    · exact hm
    · have := hsplit.2.2 last hl row hm
      omega

theorem uncompacted_eq (s : State) (h : Invariant s) : uncompacted s.chat =
    s.chat.rows.filter fun row => ∀ b ∈ s.chat.compactedBeforeSequence, b ≤ row.sequence := by
  have hsort : (s.chat.rows.insertionSort fun a b => a.sequence ≤ b.sequence) = s.chat.rows :=
    List.Pairwise.insertionSort_eq (h.ordered.imp le_of_lt)
  unfold uncompacted
  rw [hsort]
  cases hb : s.chat.compactedBeforeSequence with
  | none => simp
  | some b =>
    have hne : b ≠ 0 := by
      have := (h.boundary b hb).1
      omega
    simp [hne]

theorem readHistory_ok (s : State) (preserve : ℤ) (request : CompactionRequest) (h : Invariant s)
    (hr : readHistory s.chat preserve = .ok request) :
    request.messages ≠ [] ∧ (∃ last ∈ s.chat.rows,
        request.newCompactedBeforeSequence = last.sequence + 1) ∧
      ∀ row, row ∈ request.messages ↔ row ∈ s.chat.rows ∧ row.spoken ∧
        row.sequence < request.newCompactedBeforeSequence ∧
        ∀ b ∈ s.chat.compactedBeforeSequence, b ≤ row.sequence := by
  simp only [readHistory] at hr
  split_ifs at hr with hneg hfew
  generalize hn : (uncompacted s.chat).length - preserve.toNat = n at hr
  split at hr
  · rename_i first rest last hvalid hlast
    obtain rfl := Except.ok.inj hr
    have horder : (uncompacted s.chat).Pairwise fun a b => a.sequence < b.sequence := by
      rw [uncompacted_eq s h]
      exact h.ordered.filter _
    have hmem : ∀ row, row ∈ uncompacted s.chat ↔ row ∈ s.chat.rows ∧
        ∀ b ∈ s.chat.compactedBeforeSequence, b ≤ row.sequence := by
      intro row
      rw [uncompacted_eq s h]
      simp [List.mem_filter]
    have hin : last ∈ uncompacted s.chat :=
      List.mem_of_mem_take (List.mem_of_getLast? hlast)
    refine ⟨List.cons_ne_nil _ _, ⟨last, ((hmem last).mp hin).1, rfl⟩, fun row => ?_⟩
    rw [← hvalid, List.mem_filter]
    constructor
    · rintro ⟨ht, hs⟩
      have hu := List.mem_of_mem_take ht
      exact ⟨((hmem row).mp hu).1, hs, (mem_take_iff _ horder n last row hlast hu).mp ht,
        ((hmem row).mp hu).2⟩
    · rintro ⟨hm, hs, hlt, hb⟩
      exact ⟨(mem_take_iff _ horder n last row hlast ((hmem row).mpr ⟨hm, hb⟩)).mpr hlt, hs⟩
  · cases hr

theorem chainOf_holds (s : State) (prompted : List Row) (q : ℤ) :
    (chainOf s prompted).Holds q ↔ (∃ row ∈ prompted, row.sequence = q) ∨
      includesSummary s.chat.contextSummary ∧ ∃ chain ∈ s.chain, chain.Holds q := by
  unfold chainOf
  cases s.chain with
  | none => simp [Chain.Holds]
  | some prior =>
    cases hsum : includesSummary s.chat.contextSummary <;> simp [Chain.Holds]

/-- A read in a state that keeps everything prompts or folds all that lies below its boundary. -/
theorem waiting_read (s : State) (preserve : ℤ) (request : CompactionRequest) (h : Invariant s)
    (hk : Kept s) (hr : readHistory s.chat preserve = .ok request) :
    Waiting s.chat.rows {
      newCompactedBeforeSequence := request.newCompactedBeforeSequence
      userPrompt := request.userPrompt
      chain := chainOf s request.messages
      inFlight := (s.chat.rows.filter Row.inFlight).map (·.sequence) } := by
  obtain ⟨hne, ⟨last, hlast, hb⟩, hmem⟩ := readHistory_ok s preserve request h hr
  have hflying : ∀ row ∈ s.chat.rows, row.inFlight →
      row.sequence ∈ (s.chat.rows.filter Row.inFlight).map (·.sequence) := fun row hm hf =>
    List.mem_map_of_mem (List.mem_filter.mpr ⟨hm, hf⟩)
  refine ⟨?_, ?_, fun q hq => ?_, ?_, fun row hm hf _ => hflying row hm hf, fun row hm hs hlt => ?_⟩
  · have := h.positive last hlast
    change 1 ≤ request.newCompactedBeforeSequence
    omega
  · have := lt_nextSequence _ last hlast
    change request.newCompactedBeforeSequence ≤ _
    omega
  · have hcomplete : ∃ row ∈ s.chat.rows, row.sequence = q ∧ row.status = .complete := by
      rcases (chainOf_holds s request.messages q).mp hq with ⟨row, hm, rfl⟩ | ⟨-, chain, hc, hq⟩
      · exact ⟨row, ((hmem row).mp hm).1, rfl, spoken_complete row ((hmem row).mp hm).2.1⟩
      · exact h.chain chain hc q hq
    refine ⟨hcomplete, fun hin => ?_⟩
    obtain ⟨row, hm, rfl, hc⟩ := hcomplete
    obtain ⟨other, ho, he⟩ := List.mem_map.mp hin
    obtain ⟨ho, hf⟩ := List.mem_filter.mp ho
    obtain rfl := same_row _ h.ordered other row ho hm he
    exact inFlight_not_complete other hf hc
  · obtain ⟨row, hm⟩ := List.exists_mem_of_ne_nil _ hne
    obtain ⟨hm, hs, hlt, -⟩ := (hmem row).mp hm
    exact ⟨row, hm, hs, hlt⟩
  · refine .inl ((chainOf_holds s request.messages _).mpr ?_)
    by_cases hold : ∀ b ∈ s.chat.compactedBeforeSequence, b ≤ row.sequence
    · exact .inl ⟨row, (hmem row).mpr ⟨hm, hs, hlt, hold⟩, rfl⟩
    · exact .inr ((hk row hm hs).resolve_left hold)

theorem invariant_read (s : State) (preserve : ℤ) (h : Invariant s) (hk : Kept s) :
    Invariant (step s (.compactRead preserve)) := by
  simp only [step]
  split
  · rename_i request hr
    refine ⟨h.ordered, h.positive, h.boundary, h.chain, fun job hj => ?_⟩
    rcases List.mem_append.mp hj with hj | hj
    · exact h.jobs job hj
    · obtain rfl := List.mem_singleton.mp hj
      exact waiting_read s preserve request h hk hr
  · exact h

theorem kept_read (s : State) (preserve : ℤ) (hk : Kept s) :
    Kept (step s (.compactRead preserve)) := by
  simp only [step]
  split <;> exact hk

/-! ## Writing the summary -/

theorem invariant_write (s : State) (index : ℕ) (reply : JsString) (h : Invariant s) :
    Invariant (step s (.compactWrite index reply)) := by
  simp only [step]
  split
  · rename_i job hj
    have hw := h.jobs job (List.mem_of_getElem? hj)
    refine ⟨h.ordered, h.positive, fun b hb => ?_, fun chain hc q hq => ?_, fun other ho => ?_⟩
    · obtain rfl : job.newCompactedBeforeSequence = b := by simpa using hb
      exact ⟨hw.positive, hw.bounded⟩
    · obtain rfl : job.chain = chain := by simpa using hc
      exact (hw.finished q hq).1
    · exact h.jobs other (List.mem_of_mem_eraseIdx ho)
  · exact h

/-- A write does harm exactly when its summary is blank or a turn it never saw is below it. -/
theorem kept_write (s : State) (index : ℕ) (reply : JsString) (h : Invariant s) (hk : Kept s) :
    Kept (step s (.compactWrite index reply)) ↔ Harmless s (.compactWrite index reply) := by
  simp only [step, Harmless]
  split
  · rename_i job hj
    have hw := h.jobs job (List.mem_of_getElem? hj)
    simp only [hj, Option.mem_def, Option.some.injEq, forall_eq']
    constructor
    · intro hk'
      have hold : ∀ row ∈ s.chat.rows, row.spoken → row.sequence < job.newCompactedBeforeSequence →
          includesSummary (some (trim reply)) ∧ job.chain.Holds row.sequence := by
        intro row hm hs hlt
        rcases hk' row hm hs with hb | ⟨hsum, chain, hc, hq⟩
        · exact absurd (hb _ rfl) (not_le.mpr hlt)
        · obtain rfl : job.chain = chain := by simpa using hc
          exact ⟨hsum, hq⟩
      refine ⟨?_, fun row hm hlt hin hs => ?_⟩
      · obtain ⟨row, hm, hs, hlt⟩ := hw.prompted
        have hsum := (hold row hm hs hlt).1
        simpa [includesSummary, trim_trim] using hsum
      · exact (hw.finished _ (hold row hm hs hlt).2).2 hin
    · rintro ⟨hreply, hlate⟩ row hm hs
      by_cases hb : job.newCompactedBeforeSequence ≤ row.sequence
      · exact .inl fun b hm => by
          obtain rfl : job.newCompactedBeforeSequence = b := by simpa using hm
          exact hb
      · have hlt := not_le.mp hb
        refine .inr ⟨by simpa [includesSummary, trim_trim] using hreply, job.chain, rfl, ?_⟩
        exact (hw.covers row hm hs hlt).resolve_right fun hin => hlate row hm hlt hin hs
  · rename_i hj
    simp [hj, hk]

/-! ## Runs -/

def message (row : Row) : ContextInputMessage :=
  { id := none, sequence := row.sequence, role := row.role, content := row.content
    status := row.status.text, agentId := none, agentName := none, agentRole := none }

/-- At or above the boundary a turn is history for every request built from the chat. -/
theorem offered_iff (s : State) (row : Row) (input : BuildContextInput) (hs : row.spoken)
    (hb : input.compactedBeforeSequence = s.chat.compactedBeforeSequence)
    (hm : input.maxSequence = none) :
    Eligible input (message row) ↔ ∀ b ∈ s.chat.compactedBeforeSequence, b ≤ row.sequence := by
  have hc : row.status.text = ContextConstruction.complete := by
    rw [spoken_complete row hs]
    rfl
  have ht : trim row.content ≠ [] := by
    simp only [Row.spoken, decide_eq_true_eq] at hs
    exact hs.2
  rw [eligible_iff, hb, hm]
  simp [hc, message, ht, before, after, Option.filter_eq_none_iff]

theorem invariant_step (s : State) (action : Action) (h : Invariant s) (hk : Kept s) :
    Invariant (step s action) := by
  cases action with
  | append role content => exact invariant_addRow s role content .complete h
  | insertPending => exact invariant_addRow s _ _ .pending h
  | flush sequence status content => exact invariant_flush s sequence status content h
  | compactRead preserve => exact invariant_read s preserve h hk
  | compactWrite index reply => exact invariant_write s index reply h
  | compactFail index =>
    exact ⟨h.ordered, h.positive, h.boundary, h.chain,
      fun job hj => h.jobs job (List.mem_of_mem_eraseIdx hj)⟩

theorem kept_step (s : State) (action : Action) (h : Invariant s) (hk : Kept s) :
    Kept (step s action) ↔ Harmless s action := by
  cases action with
  | append role content => exact iff_of_true (kept_addRow s role content .complete h hk) trivial
  | insertPending => exact iff_of_true (kept_addRow s _ _ .pending h hk) trivial
  | flush sequence status content => exact kept_flush s sequence status content h hk
  | compactRead preserve => exact iff_of_true (kept_read s preserve hk) trivial
  | compactWrite index reply => exact kept_write s index reply h hk
  | compactFail index => exact iff_of_true hk trivial

theorem invariant_initial : Invariant initial :=
  ⟨List.Pairwise.nil, by simp [initial], by simp [initial], by simp [initial], by simp [initial]⟩

theorem kept_initial : Kept initial := by simp [Kept, initial]

/-- Whatever is interleaved, no turn is lost exactly as long as every step is harmless. -/
theorem compaction_keeps_turns (actions : List Action) :
    (∀ s ∈ states step initial actions, Kept s) ↔ Allowed step Harmless initial actions :=
  run_iff step Harmless Invariant Kept invariant_step kept_step initial actions invariant_initial
    kept_initial

/-- Both messages are below the boundary the compaction writes, and the second one completes
after its prompt was built. -/
def lateTurn : List Action :=
  [.append (js "user") (js "question"), .insertPending, .append (js "user") (js "more"),
    .compactRead 1, .compactWrite 0 (js "summary"), .flush 2 .complete (js "answer")]

theorem late_turn_lost : ¬ ∀ s ∈ states step initial lateTurn, Kept s := by
  decide +kernel

example : ¬ ∀ s ∈ states step initial
    [.append (js "user") (js "question"), .compactRead 0, .compactWrite 0 (js " ")], Kept s := by
  decide +kernel

end Glassbeetle.CompactionRetention
