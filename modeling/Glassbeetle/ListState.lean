import Glassbeetle.Runs
import Glassbeetle.SortedPages

set_option autoImplicit false

/-!
# The state of a list on screen

One page of a collection is shown while rows of it are deleted. Only the latest
request for a page is listened to.
-/
namespace Glassbeetle.ListState
open Runs SortedPages

variable {ρ : Type} [DecidableEq ρ]

structure Load (ρ : Type) where
  offset : ℕ
  limit : ℕ
  answer : Option (List ρ × ℕ)

structure Deletion (ρ : Type) where
  row : ρ
  outcome : Option Bool

structure State (ρ : Type) where
  /-- The rows at the server that match the query, in its order. -/
  server : List ρ
  items : List ρ
  total : ℕ
  pageIndex : ℕ
  pageSize : ℕ
  request : Option (Load ρ)
  deletions : List (Deletion ρ)

def State.offset (s : State ρ) : ℕ := s.pageIndex * s.pageSize

def reload (s : State ρ) : State ρ := { s with request := some ⟨s.offset, s.pageSize, none⟩ }

def State.nextIndex (s : State ρ) : ℕ :=
  if s.items.length = 1 ∧ 0 < s.pageIndex then s.pageIndex - 1 else s.pageIndex

/-- Setting another page index sends the request, too. -/
def reloadAfterRemoval (s : State ρ) : State ρ := reload { s with pageIndex := s.nextIndex }

/-- Nothing is sent where nothing changes. -/
def onPage (pageSize pageIndex : ℕ) (s : State ρ) : State ρ :=
  if pageSize = s.pageSize ∧ pageIndex = s.pageIndex then s
  else reload { s with pageSize := pageSize, pageIndex := pageIndex }

/-- The page can be chosen: it begins with a row, or is the first one. -/
def State.Exists (s : State ρ) (pageSize pageIndex : ℕ) : Prop :=
  0 < pageSize ∧ (pageIndex * pageSize < s.server.length ∨ pageIndex = 0)

instance (s : State ρ) (pageSize pageIndex : ℕ) : Decidable (s.Exists pageSize pageIndex) :=
  inferInstanceAs (Decidable (0 < pageSize ∧ (pageIndex * pageSize < s.server.length ∨ pageIndex = 0)))

def answerLoad (server : List ρ) (load : Load ρ) : Load ρ :=
  if load.answer.isSome then load
  else { load with answer := some (slice server load.limit load.offset, server.length) }

/-- The server handles a deletion. -/
def handle (k : ℕ) (deletion : Deletion ρ) (s : State ρ) : State ρ :=
  if deletion.outcome.isSome then s
  else { s with
    server := s.server.filter (· ≠ deletion.row)
    deletions := s.deletions.set k ⟨deletion.row, some (decide (deletion.row ∈ s.server))⟩ }

/-- The answer to a deletion arrives; a row that was gone is only reported. -/
def settle (k : ℕ) (deletion : Deletion ρ) (s : State ρ) : State ρ :=
  match deletion.outcome with
  | none => s
  | some false => { s with deletions := s.deletions.eraseIdx k }
  | some true => reloadAfterRemoval { s with deletions := s.deletions.eraseIdx k }

/-- A page is on screen as it was answered. -/
def receive (load : Load ρ) (s : State ρ) : State ρ :=
  match load.answer with
  | none => s
  | some (items, total) => { s with items := items, total := total, request := none }

inductive Event (ρ : Type) where
  | page (pageSize pageIndex : ℕ)
  | reload
  /-- Deleting a row on screen is confirmed. -/
  | remove (row : ρ)
  | deleted (k : ℕ)
  | removed (k : ℕ)
  | answer
  | response

def step (s : State ρ) : Event ρ → State ρ
  | .page pageSize pageIndex => if s.Exists pageSize pageIndex then onPage pageSize pageIndex s else s
  | .reload => ListState.reload s
  | .remove row =>
    if row ∈ s.items then { s with deletions := s.deletions ++ [⟨row, none⟩] } else s
  | .deleted k => (s.deletions[k]?).elim s fun deletion => handle k deletion s
  | .removed k => (s.deletions[k]?).elim s fun deletion => settle k deletion s
  | .answer => { s with request := s.request.map (answerLoad s.server) }
  | .response => s.request.elim s fun load => receive load s

def start (server : List ρ) (pageSize : ℕ) : State ρ :=
  reload ⟨server, [], 0, 0, pageSize, none, []⟩

/-- The deletion has removed its row, or would if it were handled now. -/
def Live (s : State ρ) (deletion : Deletion ρ) : Prop :=
  deletion.outcome = some true ∨ deletion.outcome = none ∧ deletion.row ∈ s.server

/-- No deletion is in progress, but for those of rows that others have deleted. -/
def Quiet (s : State ρ) : Prop := ∀ deletion ∈ s.deletions, ¬Live s deletion

/-- With nothing in flight an empty page is shown only when there are no rows. -/
def Shown (s : State ρ) : Prop :=
  s.request = none → Quiet s → s.server ≠ [] → s.items ≠ []

/-- The page that the list turns to after the last deletion in progress begins with a row, unless
there is none left. -/
def Lands (s : State ρ) : Event ρ → Prop
  | .removed k => ∀ deletion, s.deletions[k]? = some deletion → deletion.outcome = some true →
      (∀ other ∈ s.deletions.eraseIdx k, ¬Live s other) →
      s.nextIndex * s.pageSize < s.server.length ∨ s.server = []
  | _ => True

def InRange (s : State ρ) : Prop := s.offset < s.server.length ∨ s.server = []

structure Sound (s : State ρ) : Prop where
  size : 0 < s.pageSize
  current : ∀ load, s.request = some load → load.offset = s.offset ∧ load.limit = s.pageSize
  inRange : Quiet s → InRange s
  answered : Quiet s → ∀ load items total, s.request = some load →
    load.answer = some (items, total) → items ≠ [] ∨ s.server = []
  shown : Quiet s → s.request = none → s.items ≠ [] ∨ s.server = []

section Steps
variable (s : State ρ) (h : Sound s)

omit [DecidableEq ρ] in
theorem sound_reload (hsize : 0 < s.pageSize) (hrange : Quiet s → InRange s) : Sound (reload s) where
  size := hsize
  current load hload := by
    cases hload
    exact ⟨rfl, rfl⟩
  inRange := hrange
  answered _ load items total hload hanswer := by
    cases hload
    cases hanswer
  shown _ hnone := nomatch hnone

omit [DecidableEq ρ] in
theorem sound_deletions (h : Sound s) (deletions : List (Deletion ρ))
    (hquiet : Quiet { s with deletions := deletions } → Quiet s) :
    Sound { s with deletions := deletions } where
  size := h.size
  current := h.current
  inRange hq := h.inRange (hquiet hq)
  answered hq := h.answered (hquiet hq)
  shown hq := h.shown (hquiet hq)

omit [DecidableEq ρ] in
theorem sound_page (h : Sound s) (pageSize pageIndex : ℕ) (hexists : s.Exists pageSize pageIndex) :
    Sound (onPage pageSize pageIndex s) := by
  unfold onPage
  split_ifs
  · exact h
  · apply sound_reload _ hexists.1
    intro _
    rcases hexists.2 with hbegins | hfirst
    · exact .inl hbegins
    · by_cases hserver : s.server = []
      · exact .inr hserver
      · refine .inl ?_
        change pageIndex * pageSize < s.server.length
        rw [hfirst, Nat.zero_mul]
        exact List.length_pos_of_ne_nil hserver

omit [DecidableEq ρ] in
theorem quiet_kept (k : ℕ) (deletion : Deletion ρ) (hk : s.deletions[k]? = some deletion)
    (hdead : ¬Live s deletion) (deletions : List (Deletion ρ))
    (hkept : ∀ i other, i ≠ k → s.deletions[i]? = some other → other ∈ deletions)
    (hquiet : Quiet { s with deletions := deletions }) : Quiet s := by
  intro other hother
  obtain ⟨i, hi⟩ := List.mem_iff_getElem?.mp hother
  by_cases hsame : i = k
  · rw [hsame, hk] at hi
    rwa [← Option.some.inj hi]
  · exact hquiet other (hkept i other hsame hi)

theorem sound_handle (h : Sound s) (k : ℕ) (deletion : Deletion ρ)
    (hk : s.deletions[k]? = some deletion) : Sound (handle k deletion s) := by
  unfold handle
  obtain ⟨hlt, -⟩ := List.getElem?_eq_some_iff.mp hk
  cases houtcome : deletion.outcome with
  | some there => exact h
  | none =>
    rw [if_neg (by simp)]
    by_cases hrow : deletion.row ∈ s.server
    · -- the deletion is answered with a reload later on
      have hloud : ¬Quiet { s with
          server := s.server.filter (· ≠ deletion.row)
          deletions := s.deletions.set k ⟨deletion.row, some (decide (deletion.row ∈ s.server))⟩ } := by
        intro hquiet
        apply hquiet ⟨deletion.row, some (decide (deletion.row ∈ s.server))⟩
        · exact List.mem_set hlt _
        · exact .inl (congrArg some (decide_eq_true hrow))
      exact ⟨h.size, h.current, fun hq => absurd hq hloud, fun hq => absurd hq hloud,
        fun hq => absurd hq hloud⟩
    · have hserver : s.server.filter (· ≠ deletion.row) = s.server := by
        rw [List.filter_eq_self]
        intro row hmem
        apply decide_eq_true
        rintro rfl
        exact hrow hmem
      rw [hserver]
      apply sound_deletions s h
      apply quiet_kept s k deletion hk
      · rintro (hdone | ⟨-, hmem⟩)
        · exact absurd (houtcome.symm.trans hdone) (by simp)
        · exact hrow hmem
      · intro i other hi hother
        apply List.mem_iff_getElem?.mpr
        exact ⟨i, by rw [List.getElem?_set_ne (Ne.symm hi), hother]⟩

omit [DecidableEq ρ] in
theorem sound_settle (h : Sound s) (k : ℕ) (deletion : Deletion ρ)
    (hk : s.deletions[k]? = some deletion) (hlands : Lands s (.removed k)) :
    Sound (settle k deletion s) := by
  unfold settle
  cases houtcome : deletion.outcome with
  | none => exact h
  | some there =>
    cases there with
    | false =>
      apply sound_deletions s h
      apply quiet_kept s k deletion hk
      · rintro (hdone | ⟨hopen, -⟩)
        · exact absurd (houtcome.symm.trans hdone) (by simp)
        · exact absurd (houtcome.symm.trans hopen) (by simp)
      · intro i other hi hother
        exact List.mem_eraseIdx_iff_getElem?.mpr ⟨i, hi, hother⟩
    | true => exact sound_reload _ h.size fun hquiet => hlands deletion hk houtcome hquiet

omit [DecidableEq ρ] in
theorem slice_ne_nil (listing : List ρ) (size start : ℕ) (hsize : 0 < size)
    (hstart : start < listing.length) : slice listing size start ≠ [] := by
  apply List.ne_nil_of_length_pos
  rw [slice, List.length_take, List.length_drop]
  omega

theorem sound_answer (h : Sound s) : Sound (step s .answer) where
  size := h.size
  current load hload := by
    obtain ⟨asked, hasked, rfl⟩ := Option.map_eq_some_iff.mp hload
    unfold answerLoad
    split_ifs
    · exact h.current asked hasked
    · exact h.current asked hasked
  inRange := h.inRange
  answered hquiet load items total hload hanswer := by
    obtain ⟨asked, hasked, rfl⟩ := Option.map_eq_some_iff.mp hload
    unfold answerLoad at hanswer
    split_ifs at hanswer
    · exact h.answered hquiet asked items total hasked hanswer
    · cases hanswer
      obtain ⟨hoffset, hlimit⟩ := h.current asked hasked
      rcases h.inRange hquiet with hrange | hnone
      · rw [hoffset, hlimit]
        exact .inl (slice_ne_nil s.server s.pageSize s.offset h.size hrange)
      · exact .inr hnone
  shown hquiet hnone := h.shown hquiet (Option.map_eq_none_iff.mp hnone)

omit [DecidableEq ρ] in
theorem sound_receive (h : Sound s) (load : Load ρ) (hload : s.request = some load) :
    Sound (receive load s) := by
  unfold receive
  cases hanswer : load.answer with
  | none => exact h
  | some page =>
    obtain ⟨items, total⟩ := page
    exact ⟨h.size, fun _ hnone => (nomatch hnone), h.inRange, fun _ _ _ _ hnone => (nomatch hnone),
      fun hquiet _ => h.answered hquiet load items total hload hanswer⟩

theorem sound_step (h : Sound s) (event : Event ρ) (hlands : Lands s event) :
    Sound (step s event) := by
  cases event with
  | page pageSize pageIndex =>
    rw [step]
    split_ifs with hexists
    · exact sound_page s h pageSize pageIndex hexists
    · exact h
  | reload => exact sound_reload s h.size h.inRange
  | remove row =>
    rw [step]
    split_ifs
    · apply sound_deletions s h
      intro hquiet deletion hdeletion
      exact hquiet deletion (List.mem_append_left _ hdeletion)
    · exact h
  | deleted k =>
    rw [step]
    cases hk : s.deletions[k]? with
    | none => exact h
    | some deletion => exact sound_handle s h k deletion hk
  | removed k =>
    rw [step]
    cases hk : s.deletions[k]? with
    | none => exact h
    | some deletion => exact sound_settle s h k deletion hk hlands
  | answer => exact sound_answer s h
  | response =>
    rw [step]
    cases hload : s.request with
    | none => exact h
    | some load => exact sound_receive s h load hload

end Steps

omit [DecidableEq ρ] in
theorem sound_start (server : List ρ) (pageSize : ℕ) (hsize : 0 < pageSize) :
    Sound (start server pageSize) := by
  apply sound_reload _ hsize
  intro _
  by_cases hserver : server = []
  · exact .inr hserver
  · refine .inl ?_
    change 0 * pageSize < server.length
    rw [Nat.zero_mul]
    exact List.length_pos_of_ne_nil hserver

/-- Turning to a page past the last row leaves the list empty once that page is answered. -/
theorem missed_strands (s : State ρ) (event : Event ρ) (h : ¬Lands s event) :
    ¬Shown ([event, .answer, .response].foldl step s) := by
  cases event with
  | removed k =>
    have hmissed : ∃ deletion, s.deletions[k]? = some deletion ∧ deletion.outcome = some true ∧
        (∀ other ∈ s.deletions.eraseIdx k, ¬Live s other) ∧
        ¬(s.nextIndex * s.pageSize < s.server.length ∨ s.server = []) := by
      by_contra hnone
      apply h
      intro deletion hk houtcome hquiet
      by_contra hrange
      exact hnone ⟨deletion, hk, houtcome, hquiet, hrange⟩
    obtain ⟨deletion, hk, houtcome, hquiet, hrange⟩ := hmissed
    obtain ⟨hpast, hserver⟩ := not_or.mp hrange
    have hnothing : slice s.server s.pageSize (s.nextIndex * s.pageSize) = [] := by
      rw [slice, List.drop_of_length_le (Nat.le_of_not_lt hpast), List.take_nil]
    have hstep : step s (.removed k) =
        reloadAfterRemoval { s with deletions := s.deletions.eraseIdx k } := by
      rw [step, hk]
      change settle k deletion s = _
      unfold settle
      rw [houtcome]
    intro hshown
    rw [List.foldl_cons, hstep] at hshown
    exact hshown rfl hquiet hserver hnothing
  | page | reload | remove | deleted | answer | response => exact absurd trivial h

/-- A list whose removals all land on a page with rows is never stranded on an empty one, and each
removal that does not strands it. -/
theorem never_stranded (server : List ρ) (pageSize : ℕ) (hsize : 0 < pageSize)
    (events : List (Event ρ)) :
    (Allowed step Lands (start server pageSize) events →
      ∀ s ∈ states step (start server pageSize) events, Shown s) ∧
    ∀ event, ¬Lands (events.foldl step (start server pageSize)) event →
      ¬Shown ((events ++ [event, .answer, .response]).foldl step (start server pageSize)) := by
  constructor
  · intro hlands s hs hidle hquiet hrows
    have hsound := run_invariant step Lands Sound (fun s event h hl => sound_step s h event hl)
      (start server pageSize) events (sound_start server pageSize hsize) hlands s hs
    exact (hsound.shown hquiet hidle).resolve_right hrows
  · intro event hmissed
    rw [List.foldl_append]
    exact missed_strands _ event hmissed

def oneRemoval : List (Event ℕ) :=
  [.answer, .response, .page 2 1, .answer, .response, .remove 3, .deleted 0, .removed 0, .answer,
    .response]

theorem never_stranded_oneRemoval : Shown (oneRemoval.foldl step (start [1, 2, 3] 2)) := by
  apply (never_stranded [1, 2, 3] 2 (by decide) oneRemoval).1 _ _ (final_mem step _ oneRemoval)
  refine ⟨trivial, trivial, trivial, trivial, trivial, trivial, trivial, ?_, trivial, trivial, trivial⟩
  intro deletion _ _ _
  exact .inl (by decide)

def twoRemovals : List (Event ℕ) :=
  [.answer, .response, .page 2 1, .answer, .response, .remove 3, .remove 4, .deleted 0, .deleted 1,
    .removed 0, .removed 0, .answer, .response]

/-- The second page stays on screen without a row, while the first has two. -/
theorem two_removals_strand : ¬∀ s ∈ states step (start [1, 2, 3, 4] 2) twoRemovals,
    s.request = none → s.deletions = [] → s.server ≠ [] → s.items ≠ [] := by
  intro h
  exact h _ (final_mem step _ twoRemovals) rfl rfl (by decide) rfl

end Glassbeetle.ListState
