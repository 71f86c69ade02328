import Glassbeetle.ContextConstruction

set_option autoImplicit false

namespace Glassbeetle.ContextAccounting
open JsText SuffixFitting ContextConstruction

/-- The rules that leave a message out; for the window, any message may be. -/
def Applies (input : BuildContextInput) (msg : ContextInputMessage) : ExclusionReason → Prop
  | .statusNotComplete => msg.status ≠ complete
  | .emptyContent => trim msg.content = []
  | .compactedHistory => ∃ bound ∈ input.compactedBeforeSequence, msg.sequence < bound
  | .maxSequenceBoundary => ∃ bound ∈ input.maxSequence, bound < msg.sequence
  | .truncatedForWindow => True

def rank : ExclusionReason → ℕ
  | .statusNotComplete => 0
  | .emptyContent => 1
  | .compactedHistory => 2
  | .maxSequenceBoundary => 3
  | .truncatedForWindow => 4

def First (input : BuildContextInput) (msg : ContextInputMessage) (reason : ExclusionReason) : Prop :=
  Applies input msg reason ∧ ∀ earlier, rank earlier < rank reason → ¬ Applies input msg earlier

/-- No rule but the window's can leave the message out. -/
def Eligible (input : BuildContextInput) (msg : ContextInputMessage) : Prop :=
  First input msg .truncatedForWindow

theorem eligible_iff (input : BuildContextInput) (msg : ContextInputMessage) :
    Eligible input msg ↔ msg.status = complete ∧ trim msg.content ≠ [] ∧
      before input.compactedBeforeSequence msg.sequence = none ∧
      after input.maxSequence msg.sequence = none := by
  simp only [Eligible, First, Applies, true_and, before, after, Option.filter_eq_none_iff,
    Option.mem_def, decide_eq_true_eq]
  constructor
  · intro h
    exact ⟨not_not.mp (h .statusNotComplete (by decide)), h .emptyContent (by decide),
      fun bound hb hlt => h .compactedHistory (by decide) ⟨bound, hb, hlt⟩,
      fun bound hb hlt => h .maxSequenceBoundary (by decide) ⟨bound, hb, hlt⟩⟩
  · rintro ⟨h1, h2, h3, h4⟩ (_ | _ | _ | _ | _) hr
    · exact not_not.mpr h1
    · exact h2
    · rintro ⟨bound, hb, hlt⟩
      exact h3 bound hb hlt
    · rintro ⟨bound, hb, hlt⟩
      exact h4 bound hb hlt
    · exact absurd hr (by decide)

instance (input : BuildContextInput) (msg : ContextInputMessage) : Decidable (Eligible input msg) :=
  decidable_of_iff _ (eligible_iff input msg).symm

def eligible (input : BuildContextInput) : List ContextInputMessage :=
  (rawMessages input).filter fun msg => Eligible input msg

def cost (input : BuildContextInput) (msg : ContextInputMessage) : ℕ :=
  (candidate input msg).estimatedTokens

def Accounted (input : BuildContextInput) (msg : ContextInputMessage)
    (out : ContextExcludedMessage) : Prop :=
  (∃ detail, out = excluded msg out.reason detail) ∧ First input msg out.reason

theorem accounted_excluded (input : BuildContextInput) (msg : ContextInputMessage)
    (reason : ExclusionReason) (detail : JsString) (hr : rank reason < 4)
    (h : First input msg reason) :
    Accounted input msg (excluded msg reason detail) ∧ ¬ Eligible input msg :=
  ⟨⟨⟨detail, rfl⟩, h⟩, fun he => he.2 reason hr h.1⟩

theorem consider_cases (input : BuildContextInput) (msg : ContextInputMessage) :
    (∃ out, consider input msg = .inl out ∧ Accounted input msg out ∧ ¬ Eligible input msg) ∨
      (consider input msg = .inr (candidate input msg) ∧ Eligible input msg) := by
  unfold consider
  split_ifs with h1 h2
  · exact .inl ⟨_, rfl, accounted_excluded input msg _ _ (by decide)
      ⟨h1, fun r hr => absurd hr (Nat.not_lt_zero _)⟩⟩
  · have blank : trim msg.content = [] := by
      rcases h2 with h2 | h2
      · rw [h2]; rfl
      · exact h2
    refine .inl ⟨_, rfl, accounted_excluded input msg _ _ (by decide) ⟨blank, ?_⟩⟩
    rintro (_ | _ | _ | _ | _) hr <;> first | exact h1 | exact absurd hr (by decide)
  · have hc : trim msg.content ≠ [] := fun h => h2 (.inr h)
    split
    · rename_i bound h3
      have hb := Option.filter_eq_some_iff.mp h3
      refine .inl ⟨_, rfl, accounted_excluded input msg _ _ (by decide)
        ⟨⟨bound, hb.1, by simpa using hb.2⟩, ?_⟩⟩
      rintro (_ | _ | _ | _ | _) hr <;>
        first | exact h1 | exact hc | exact absurd hr (by decide)
    · rename_i h3
      split
      · rename_i bound h4
        have hb := Option.filter_eq_some_iff.mp h4
        have late : ¬ Applies input msg .compactedHistory := by
          rintro ⟨low, hl, hlt⟩
          exact absurd (decide_eq_true hlt) (Option.filter_eq_none_iff.mp h3 low hl)
        refine .inl ⟨_, rfl, accounted_excluded input msg _ _ (by decide)
          ⟨⟨bound, hb.1, by simpa using hb.2⟩, ?_⟩⟩
        rintro (_ | _ | _ | _ | _) hr <;>
          first | exact h1 | exact hc | exact late | exact absurd hr (by decide)
      · rename_i h4
        exact .inr ⟨rfl, (eligible_iff input msg).mpr ⟨not_not.mp h1, hc, h3, h4⟩⟩

theorem sift_candidates (input : BuildContextInput) (msgs : List ContextInputMessage) :
    (sift input msgs).1 = (msgs.filter fun msg => Eligible input msg).map (candidate input) := by
  induction msgs with
  | nil => rfl
  | cons msg rest ih =>
    rcases consider_cases input msg with ⟨out, hc, -, hn⟩ | ⟨hc, he⟩
    · simp [sift, hc, hn, ih]
    · simp [sift, hc, he, ih]

theorem sift_excluded (input : BuildContextInput) (msgs : List ContextInputMessage) :
    ∀ out ∈ (sift input msgs).2, ∃ msg ∈ msgs, Accounted input msg out := by
  induction msgs with
  | nil => simp [sift]
  | cons msg rest ih =>
    intro out hm
    rcases consider_cases input msg with ⟨other, hc, ha, -⟩ | ⟨hc, -⟩
    · simp only [sift, hc, List.mem_cons] at hm
      rcases hm with rfl | hm
      · exact ⟨msg, List.mem_cons_self, ha⟩
      · obtain ⟨m, hmem, h⟩ := ih out hm
        exact ⟨m, List.mem_cons_of_mem _ hmem, h⟩
    · simp only [sift, hc] at hm
      obtain ⟨m, hmem, h⟩ := ih out hm
      exact ⟨m, List.mem_cons_of_mem _ hmem, h⟩

theorem sift_ids (input : BuildContextInput) (msgs : List ContextInputMessage) :
    ((sift input msgs).1.map (fun item => item.msg.id) ++ (sift input msgs).2.map (·.id)).Perm
      (msgs.map (·.id)) := by
  induction msgs with
  | nil => exact .nil
  | cons msg rest ih =>
    rcases consider_cases input msg with ⟨out, hc, ⟨⟨detail, ho⟩, -⟩, -⟩ | ⟨hc, -⟩
    · have hid : out.id = msg.id := by rw [ho]; rfl
      simp only [sift, hc, List.map_cons, hid]
      exact List.perm_middle.trans (ih.cons _)
    · simp only [sift, hc, List.map_cons, List.cons_append]
      exact ih.cons _

def indispensable {α : Type} (strategy : ContextFittingStrategy) (items : List α) : List α :=
  match strategy with
  | .refuse => items
  | .truncateOldest => items.drop (items.length - 1)

theorem fitWindow_within (strategy : ContextFittingStrategy) (tokens w : ℕ)
    (candidates : List Candidate) (h : total tokens Candidate.estimatedTokens candidates ≤ w) :
    fitWindow strategy tokens (some w) candidates = .ok (candidates, []) :=
  if_neg (Nat.not_lt.mpr h)

theorem fitWindow_error (strategy : ContextFittingStrategy) (tokens : ℕ) (window : Option ℕ)
    (candidates : List Candidate) :
    (∃ e, fitWindow strategy tokens window candidates = .error e) ↔
      ∃ w ∈ window, w < total tokens Candidate.estimatedTokens (indispensable strategy candidates) := by
  cases window with
  | none => simp [fitWindow]
  | some w =>
    simp only [Option.mem_def, Option.some.injEq, exists_eq_left']
    by_cases hover : w < total tokens Candidate.estimatedTokens candidates
    · cases strategy with
      | refuse => simp [fitWindow, indispensable, hover]
      | truncateOldest =>
        simp only [fitWindow, if_pos hover, indispensable, ← fit_over]
        split_ifs with hlast
        · simp [hlast]
        · simp [hlast]
    · have hle : total tokens Candidate.estimatedTokens (indispensable strategy candidates) ≤
          total tokens Candidate.estimatedTokens candidates := by
        cases strategy with
        | refuse => exact Nat.le_refl _
        | truncateOldest => exact total_suffix _ _ _ _ (List.drop_suffix _ _)
      rw [fitWindow_within strategy tokens w candidates (Nat.not_lt.mp hover)]
      simp only [reduceCtorEq, exists_false, false_iff]
      omega

structure Fitted (tokens : ℕ) (window : Option ℕ) (candidates active : List Candidate)
    (dropped : List ContextExcludedMessage) : Prop where
  front : ∃ front, front ++ active = candidates ∧ dropped.map (·.id) = front.map (·.msg.id) ∧
    ∀ out ∈ dropped, ∃ item ∈ front, ∃ detail, out = excluded item.msg .truncatedForWindow detail
  fits : ∀ w ∈ window, total tokens Candidate.estimatedTokens active ≤ w
  longest : ∀ other, other <:+ candidates →
    (∀ w ∈ window, total tokens Candidate.estimatedTokens other ≤ w) → other.length ≤ active.length

theorem fitted_all (tokens : ℕ) (window : Option ℕ) (candidates : List Candidate)
    (h : ∀ w ∈ window, total tokens Candidate.estimatedTokens candidates ≤ w) :
    Fitted tokens window candidates candidates [] :=
  ⟨⟨[], rfl, rfl, by simp⟩, h, fun _ hs _ => hs.length_le⟩

theorem fitWindow_ok (strategy : ContextFittingStrategy) (tokens : ℕ) (window : Option ℕ)
    (candidates active : List Candidate) (dropped : List ContextExcludedMessage)
    (h : fitWindow strategy tokens window candidates = .ok (active, dropped)) :
    Fitted tokens window candidates active dropped := by
  cases window with
  | none =>
    obtain ⟨rfl, rfl⟩ : candidates = active ∧ [] = dropped := by simpa [fitWindow] using h
    exact fitted_all _ _ _ (by simp)
  | some w =>
    by_cases hover : w < total tokens Candidate.estimatedTokens candidates
    · cases strategy with
      | refuse => simp [fitWindow, hover] at h
      | truncateOldest =>
        simp only [fitWindow, if_pos hover] at h
        split_ifs at h with hlast
        obtain ⟨rfl, rfl⟩ := Prod.mk.inj (Except.ok.inj h)
        refine ⟨⟨_, fit_append tokens Candidate.estimatedTokens w candidates, ?_, ?_⟩, ?_, ?_⟩
        · simp [droppedForWindow, excluded, Function.comp_def]
        · intro out hm
          obtain ⟨item, hi, rfl⟩ := List.mem_map.mp hm
          exact ⟨item.1, List.mem_map.mpr ⟨item, hi, rfl⟩, _, rfl⟩
        · simpa using Nat.not_lt.mp hlast
        · intro other hs hf
          exact fit_longest tokens Candidate.estimatedTokens w candidates other hs (hf w rfl)
    · have hle := Nat.not_lt.mp hover
      rw [fitWindow_within strategy tokens w candidates hle] at h
      obtain ⟨rfl, rfl⟩ := Prod.mk.inj (Except.ok.inj h)
      exact fitted_all _ _ _ (by simpa using hle)

structure Accounts (input : BuildContextInput) (context : AssembledContext) : Prop where
  once : (context.messageDetails.map (·.id) ++ context.excludedMessages.map (·.id)).Perm
    (input.messages.map (·.id))
  distinct : (context.messageDetails.map (·.id) ++ context.excludedMessages.map (·.id)).Nodup
  reasons : ∀ out ∈ context.excludedMessages, ∃ msg ∈ input.messages, Accounted input msg out
  increasing : (context.messageDetails.map (·.sequence)).Pairwise (· < ·)
  messages : context.messages =
    context.messageDetails.map fun detail => ⟨detail.role, detail.content, none⟩
  parts : ∀ detail ∈ context.messageDetails,
    detail.estimatedTokens = 4 + estimateTokens (some detail.content)
  systemTokens : context.tokenEstimate.systemTokens =
    match context.systemPrompt with
    | some prompt => 4 + estimateTokens (some prompt)
    | none => 0
  messagesTokens : context.tokenEstimate.messagesTokens =
    (context.messageDetails.map (·.estimatedTokens)).sum
  totalTokens : context.tokenEstimate.totalTokens =
    context.tokenEstimate.systemTokens + context.tokenEstimate.messagesTokens
  fits : ∀ window ∈ input.contextWindow, 0 < window →
    (context.tokenEstimate.totalTokens : ℤ) ≤ window
  kept : ∃ history, history <:+ eligible input ∧
    context.messageDetails = history.map (fun msg => messageDetail (candidate input msg)) ∧
    ∀ other, other <:+ eligible input →
      (∀ window ∈ input.contextWindow, 0 < window →
        (total (ContextConstruction.systemTokens input) (cost input) other : ℤ) ≤ window) →
      other.length ≤ history.length

theorem window_iff (input : BuildContextInput) (p : ℤ → Prop) :
    (∀ w ∈ contextWindow input, p w) ↔ ∀ w ∈ input.contextWindow, 0 < w → p w := by
  unfold contextWindow
  cases input.contextWindow with
  | none => simp
  | some w =>
    by_cases hw : 0 < w
    · simp [Option.filter, hw, Int.toNat_of_nonneg hw.le]
    · simp [Option.filter, hw]

theorem candidates_eq (input : BuildContextInput) :
    (sift input (rawMessages input)).1 = (eligible input).map (candidate input) :=
  sift_candidates input _

theorem total_candidates (input : BuildContextInput) (msgs : List ContextInputMessage) :
    total (systemTokens input) Candidate.estimatedTokens (msgs.map (candidate input)) =
      total (systemTokens input) (cost input) msgs := by
  rw [total, total, List.map_map]
  rfl

theorem buildContextPure_ok (input : BuildContextInput) (context : AssembledContext)
    (h : buildContextPure input = .ok context) : ∃ active dropped,
      context = assemble input active ((sift input (rawMessages input)).2 ++ dropped) ∧
        Fitted (systemTokens input) (contextWindow input) ((eligible input).map (candidate input))
          active dropped := by
  simp only [buildContextPure, bind, Except.bind, pure, Except.pure] at h
  split at h
  · cases h
  · rename_i fitted hf
    rw [candidates_eq] at hf
    exact ⟨fitted.1, fitted.2, (Except.ok.inj h).symm, fitWindow_ok _ _ _ _ _ _ hf⟩

theorem buildContextPure_error (input : BuildContextInput) :
    (∃ e, buildContextPure input = .error e) ↔
      ∃ w ∈ contextWindow input, w < total (systemTokens input) (cost input)
        (indispensable (input.fittingStrategy.getD .refuse) (eligible input)) := by
  have hmap : indispensable (input.fittingStrategy.getD .refuse)
      ((eligible input).map (candidate input)) =
        (indispensable (input.fittingStrategy.getD .refuse) (eligible input)).map (candidate input) := by
    cases input.fittingStrategy.getD .refuse <;> simp [indispensable]
  have hfit := fitWindow_error (input.fittingStrategy.getD .refuse) (systemTokens input)
    (contextWindow input) ((eligible input).map (candidate input))
  rw [hmap, total_candidates] at hfit
  rw [← hfit]
  simp only [buildContextPure, bind, Except.bind, pure, Except.pure, candidates_eq]
  split
  · rename_i e he
    simp [he]
  · rename_i fitted he
    simp [he]

theorem eligible_increasing (input : BuildContextInput)
    (hs : (input.messages.map (·.sequence)).Nodup) :
    (eligible input).Pairwise fun a b => a.sequence < b.sequence := by
  have hsorted : (rawMessages input).Pairwise fun a b => a.sequence ≤ b.sequence :=
    List.pairwise_insertionSort (fun a b : ContextInputMessage => a.sequence ≤ b.sequence) _
  have hperm : (rawMessages input).Perm input.messages := List.perm_insertionSort _ _
  have hne : (rawMessages input).Pairwise fun a b => a.sequence ≠ b.sequence := by
    rw [← List.pairwise_map]
    exact (hperm.map _).nodup_iff.mpr hs
  refine List.Pairwise.filter _ (hsorted.imp₂ ?_ hne)
  intro a b hle hne
  exact lt_of_le_of_ne hle hne

theorem accounts (input : BuildContextInput) (context : AssembledContext)
    (ids : (input.messages.map (·.id)).Nodup) (sequences : (input.messages.map (·.sequence)).Nodup)
    (h : buildContextPure input = .ok context) : Accounts input context := by
  obtain ⟨active, dropped, rfl, ⟨front, hfront, hids, hdropped⟩, hfits, hlongest⟩ :=
    buildContextPure_ok input context h
  obtain ⟨history, hsuffix, rfl⟩ := List.suffix_map_iff.mp ⟨front, hfront⟩
  have hperm : (rawMessages input).Perm input.messages := List.perm_insertionSort _ _
  have honce : (((history.map (candidate input)).map messageDetail).map (·.id) ++
      ((sift input (rawMessages input)).2 ++ dropped).map (·.id)).Perm
        (input.messages.map (·.id)) := by
    refine List.Perm.trans ?_ ((sift_ids input (rawMessages input)).trans (hperm.map _))
    rw [candidates_eq, ← hfront, List.map_append, List.map_append, hids, List.map_map,
      List.perm_iff_count]
    intro id
    simp only [List.count_append]
    change List.count id ((history.map (candidate input)).map (·.msg.id)) + _ = _
    omega
  refine ⟨honce, honce.nodup_iff.mpr ids, ?_, ?_, ?_, ?_, rfl, ?_, rfl, ?_, ?_⟩
  · intro out hm
    rcases List.mem_append.mp hm with hm | hm
    · obtain ⟨msg, hmsg, ha⟩ := sift_excluded input (rawMessages input) out hm
      exact ⟨msg, hperm.mem_iff.mp hmsg, ha⟩
    · obtain ⟨item, hi, detail, rfl⟩ := hdropped out hm
      have hc : item ∈ (eligible input).map (candidate input) :=
        hfront ▸ List.mem_append_left _ hi
      obtain ⟨msg, hmsg, rfl⟩ := List.mem_map.mp hc
      obtain ⟨hraw, he⟩ := List.mem_filter.mp hmsg
      have heligible : Eligible input msg := of_decide_eq_true he
      exact ⟨msg, hperm.mem_iff.mp hraw, ⟨detail, rfl⟩, heligible⟩
  · have hmap : (assemble input (history.map (candidate input))
        ((sift input (rawMessages input)).2 ++ dropped)).messageDetails.map (·.sequence) =
          history.map (·.sequence) := by
      simp [assemble, messageDetail, candidate]
    rw [hmap, List.pairwise_map]
    exact (eligible_increasing input sequences).sublist hsuffix.sublist
  · simp [assemble, messageDetail, candidate]
  · intro detail hd
    simp only [assemble, List.map_map, List.mem_map, Function.comp_apply] at hd
    obtain ⟨msg, -, rfl⟩ := hd
    rfl
  · simp [assemble, messageDetail, Function.comp_def]
  · rw [← window_iff input fun w => (_ : ℤ) ≤ w]
    intro w hw
    exact_mod_cast hfits w hw
  · refine ⟨history, hsuffix, by simp [assemble], fun other hs hf => ?_⟩
    have hle := hlongest (other.map (candidate input)) (hs.map _) ?_
    · simpa using hle
    · rw [total_candidates]
      have hw := (window_iff input _).mpr hf
      exact fun w hm => by exact_mod_cast hw w hm

theorem window_exists (input : BuildContextInput) (p : ℤ → Prop) :
    (∃ w ∈ contextWindow input, p w) ↔ ∃ w ∈ input.contextWindow, 0 < w ∧ p w := by
  have h := not_congr (window_iff input fun w => ¬ p w)
  simpa using h

/-- Each message is accounted for once, the history fits and is as long as it can be, and a
request is refused only when it cannot be made to fit. -/
theorem context_accounts (input : BuildContextInput) (ids : (input.messages.map (·.id)).Nodup)
    (sequences : (input.messages.map (·.sequence)).Nodup) :
    (∀ context, buildContextPure input = .ok context → Accounts input context) ∧
    (input.fittingStrategy.getD .refuse = .refuse →
      ((∃ e, buildContextPure input = .error e) ↔ ∃ w ∈ input.contextWindow, 0 < w ∧
        w < (total (systemTokens input) (cost input) (eligible input) : ℤ))) ∧
    (input.fittingStrategy = some .truncateOldest →
      ((∃ e, buildContextPure input = .error e) ↔ ∃ w ∈ input.contextWindow, 0 < w ∧
        w < (total (systemTokens input) (cost input)
          ((eligible input).drop ((eligible input).length - 1)) : ℤ))) := by
  refine ⟨fun context h => accounts input context ids sequences h, fun hs => ?_, fun hs => ?_⟩
  · rw [buildContextPure_error, hs, ← window_exists]
    exact exists_congr fun w => and_congr_right fun _ => Int.ofNat_lt.symm
  · rw [buildContextPure_error, hs, ← window_exists]
    exact exists_congr fun w => and_congr_right fun _ => Int.ofNat_lt.symm

def message (id : String) (sequence : ℤ) (content status : String) : ContextInputMessage :=
  { id := some (js id), sequence := sequence, role := js "user", content := js content
    status := js status, agentId := none, agentName := none, agentRole := none }

def crowded : BuildContextInput :=
  { sources := ⟨none, none, none, none⟩
    messages := [message "c" 3 "new" "complete", message "a" 1 "old" "complete",
      message "b" 2 " " "complete", message "d" 4 "late" "streaming"]
    contextWindow := some 6, fittingStrategy := some .truncateOldest
    compactedBeforeSequence := none, memorySeam := none, isTeamChat := false
    currentAgentId := none, maxSequence := none }

theorem crowded_accounted :
    (∃ context, buildContextPure crowded = .ok context ∧ Accounts crowded context) ∧
      ¬ ∃ e, buildContextPure crowded = .error e := by
  have h := context_accounts crowded (by decide) (by decide)
  refine ⟨⟨_, rfl, h.1 _ rfl⟩, ?_⟩
  rw [h.2.2 rfl]
  decide +kernel

end Glassbeetle.ContextAccounting
