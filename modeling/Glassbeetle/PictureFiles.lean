import Glassbeetle.Pictures
import Glassbeetle.StorageReferences
import Mathlib.Data.List.Nodup

set_option autoImplicit false

namespace Glassbeetle.PictureFiles
open JsText StoragePaths ContextConstruction Pictures Runs

abbrev Naming := Place → JsString → Prop

def stored : Call → Option JsString
  | .writing _ _ => none
  | .written _ _ reference => some reference
  | .deleting _ => none

def Reads (calls : List Call) (place : Place) (reference : JsString) : Prop :=
  ∃ call ∈ calls, call.reads = some (place, reference)

def Pending (calls : List Call) (reference : JsString) : Prop :=
  ∃ call ∈ calls, stored call = some reference

structure Sound (names : Naming) (files : List JsString) (calls : List Call)
    (issued : List JsString) : Prop where
  single : ∀ p q r, names p r → names q r → p = q
  function : ∀ p r x, names p r → names p x → x = r
  kept : ∀ p r, names p r → r ∈ files
  readers : ∀ p q r, Reads calls p r → names q r → p = q
  deleters : ∀ p r, .deleting r ∈ calls → ¬names p r
  pendingFile : ∀ r, Pending calls r → r ∈ files
  pendingNames : ∀ p r, Pending calls r → ¬names p r
  pendingReads : ∀ p r, Pending calls r → ¬Reads calls p r
  pendingDeleting : ∀ r, Pending calls r → .deleting r ∉ calls
  once : (calls.filterMap stored).Nodup
  issuedFiles : ∀ r ∈ files, r ∈ issued
  issuedReads : ∀ p r, Reads calls p r → r ∈ issued
  issuedDeleting : ∀ r, .deleting r ∈ calls → r ∈ issued
  nonempty : [] ∉ issued

/-- The file belongs to no row, and no call will delete it or give it to a row. -/
def Lost (names : Naming) (files : List JsString) (calls : List Call) (r : JsString) : Prop :=
  r ∈ files ∧ (∀ p, ¬names p r) ∧ ¬Pending calls r ∧ .deleting r ∉ calls ∧ ∀ p, ¬Reads calls p r

def without (names : Naming) (p : Place) : Naming := fun q x => q ≠ p ∧ names q x

def renamed (names : Naming) (p : Place) (r : JsString) : Naming :=
  fun q x => (q = p ∧ x = r) ∨ (q ≠ p ∧ names q x)

section Calls

theorem mem_or_erased (calls : List Call) (call other : Call) (h : other ∈ calls) :
    other = call ∨ other ∈ calls.erase call := by
  by_cases heq : other = call
  · exact .inl heq
  · exact .inr ((List.mem_erase_of_ne heq).mpr h)

theorem reads_erase (calls : List Call) (call : Call) (p : Place) (r : JsString)
    (h : Reads (calls.erase call) p r) : Reads calls p r := by
  obtain ⟨other, hmem, hread⟩ := h
  exact ⟨other, List.mem_of_mem_erase hmem, hread⟩

theorem pending_erase (calls : List Call) (call : Call) (r : JsString)
    (h : Pending (calls.erase call) r) : Pending calls r := by
  obtain ⟨other, hmem, hstored⟩ := h
  exact ⟨other, List.mem_of_mem_erase hmem, hstored⟩

theorem reads_cons (calls : List Call) (call : Call) (p : Place) (r : JsString) :
    Reads (call :: calls) p r ↔ call.reads = some (p, r) ∨ Reads calls p r := by
  unfold Reads
  rw [List.exists_mem_cons_iff]

theorem pending_cons (calls : List Call) (call : Call) (r : JsString) :
    Pending (call :: calls) r ↔ stored call = some r ∨ Pending calls r := by
  unfold Pending
  rw [List.exists_mem_cons_iff]

theorem reads_existing (existing : Option JsString) (place p : Place) (r : JsString)
    (h : existing.map (Prod.mk place) = some (p, r)) : existing = some r ∧ p = place := by
  obtain ⟨x, hx, heq⟩ := Option.map_eq_some_iff.mp h
  cases heq
  exact ⟨hx, rfl⟩

theorem erased_stored (calls : List Call) (call : Call) (r : JsString)
    (honce : (calls.filterMap stored).Nodup) (hmem : call ∈ calls) (hstored : stored call = some r) :
    ¬Pending (calls.erase call) r := by
  have hperm := (List.perm_cons_erase hmem).filterMap stored
  rw [List.filterMap_cons_some hstored] at hperm
  have hnot := (List.nodup_cons.mp (hperm.nodup_iff.mp honce)).1
  rintro ⟨other, hother, hsame⟩
  exact hnot (List.mem_filterMap.mpr ⟨other, hother, hsame⟩)

theorem erased_once (calls : List Call) (call : Call) (honce : (calls.filterMap stored).Nodup) :
    ((calls.erase call).filterMap stored).Nodup :=
  honce.sublist (List.erase_sublist.filterMap stored)

end Calls

section Steps
variable (names : Naming) (files : List JsString) (calls : List Call) (issued : List JsString)

theorem sound_erase (call : Call) (h : Sound names files calls issued) :
    Sound names files (calls.erase call) issued where
  single := h.single
  function := h.function
  kept := h.kept
  readers p q r hread := h.readers p q r (reads_erase calls call p r hread)
  deleters p r hmem := h.deleters p r (List.mem_of_mem_erase hmem)
  pendingFile r hpending := h.pendingFile r (pending_erase calls call r hpending)
  pendingNames p r hpending := h.pendingNames p r (pending_erase calls call r hpending)
  pendingReads p r hpending hread :=
    h.pendingReads p r (pending_erase calls call r hpending) (reads_erase calls call p r hread)
  pendingDeleting r hpending hmem :=
    h.pendingDeleting r (pending_erase calls call r hpending) (List.mem_of_mem_erase hmem)
  once := erased_once calls call h.once
  issuedFiles := h.issuedFiles
  issuedReads p r hread := h.issuedReads p r (reads_erase calls call p r hread)
  issuedDeleting r hmem := h.issuedDeleting r (List.mem_of_mem_erase hmem)
  nonempty := h.nonempty

theorem sound_begin (p : Place) (existing : Option JsString)
    (hread : ∀ r, existing = some r → names p r) (h : Sound names files calls issued) :
    Sound names files (.writing p existing :: calls) issued := by
  have hreads : ∀ q x, Reads (.writing p existing :: calls) q x →
      (q = p ∧ names p x) ∨ Reads calls q x := by
    intro q x hnew
    rcases (reads_cons calls _ q x).mp hnew with hnew | hold
    · obtain ⟨hexisting, rfl⟩ := reads_existing existing p q x hnew
      exact .inl ⟨rfl, hread x hexisting⟩
    · exact .inr hold
  have hpendings : ∀ x, Pending (.writing p existing :: calls) x → Pending calls x :=
    fun x hnew => ((pending_cons calls _ x).mp hnew).resolve_left nofun
  have hdeleting : ∀ x, .deleting x ∈ Call.writing p existing :: calls → .deleting x ∈ calls :=
    fun x hnew => (List.mem_cons.mp hnew).resolve_left nofun
  exact {
    single := h.single
    function := h.function
    kept := h.kept
    readers := fun q q' x hnew hname => by
      rcases hreads q x hnew with ⟨rfl, hown⟩ | hold
      · exact h.single q q' x hown hname
      · exact h.readers q q' x hold hname
    deleters := fun q x hnew => h.deleters q x (hdeleting x hnew)
    pendingFile := fun x hnew => h.pendingFile x (hpendings x hnew)
    pendingNames := fun q x hnew => h.pendingNames q x (hpendings x hnew)
    pendingReads := fun q x hnew hreading => by
      rcases hreads q x hreading with ⟨-, hown⟩ | hold
      · exact h.pendingNames p x (hpendings x hnew) hown
      · exact h.pendingReads q x (hpendings x hnew) hold
    pendingDeleting := fun x hnew hmem => h.pendingDeleting x (hpendings x hnew) (hdeleting x hmem)
    once := h.once
    issuedFiles := h.issuedFiles
    issuedReads := fun q x hnew => by
      rcases hreads q x hnew with ⟨-, hown⟩ | hold
      · exact h.issuedFiles x (h.kept p x hown)
      · exact h.issuedReads q x hold
    issuedDeleting := fun x hnew => h.issuedDeleting x (hdeleting x hnew)
    nonempty := h.nonempty }

theorem lost_begin (p : Place) (existing : Option JsString)
    (hread : ∀ r, existing = some r → names p r) (x : JsString) :
    Lost names files (.writing p existing :: calls) x ↔ Lost names files calls x := by
  constructor
  · rintro ⟨hfile, hnames, hpending, hdeleting, hreads⟩
    exact ⟨hfile, hnames, fun hp => hpending ((pending_cons calls _ x).mpr (.inr hp)),
      fun hd => hdeleting (List.mem_cons_of_mem _ hd),
      fun q hr => hreads q ((reads_cons calls _ q x).mpr (.inr hr))⟩
  · rintro ⟨hfile, hnames, hpending, hdeleting, hreads⟩
    refine ⟨hfile, hnames, fun hp => hpending (((pending_cons calls _ x).mp hp).resolve_left nofun),
      fun hd => hdeleting ((List.mem_cons.mp hd).resolve_left nofun), fun q hr => ?_⟩
    rcases (reads_cons calls _ q x).mp hr with hnew | hold
    · exact hnames p (hread x (reads_existing existing p q x hnew).1)
    · exact hreads q hold

theorem sound_without (p : Place) (h : Sound names files calls issued) :
    Sound (without names p) files calls issued where
  single q q' x hq hq' := h.single q q' x hq.2 hq'.2
  function q x y hx hy := h.function q x y hx.2 hy.2
  kept q x hname := h.kept q x hname.2
  readers q q' x hread hname := h.readers q q' x hread hname.2
  deleters q x hmem hname := h.deleters q x hmem hname.2
  pendingFile := h.pendingFile
  pendingNames q x hpending hname := h.pendingNames q x hpending hname.2
  pendingReads := h.pendingReads
  pendingDeleting := h.pendingDeleting
  once := h.once
  issuedFiles := h.issuedFiles
  issuedReads := h.issuedReads
  issuedDeleting := h.issuedDeleting
  nonempty := h.nonempty

/-- A file that no row names and that no upload has just written may be deleted. -/
theorem sound_deleting (r : JsString) (hissued : r ∈ issued) (hnames : ∀ p, ¬names p r)
    (hpending : ¬Pending calls r) (h : Sound names files calls issued) :
    Sound names files (.deleting r :: calls) issued := by
  have hreads : ∀ q x, Reads (.deleting r :: calls) q x → Reads calls q x :=
    fun q x hnew => ((reads_cons calls _ q x).mp hnew).resolve_left nofun
  have hpendings : ∀ x, Pending (.deleting r :: calls) x → Pending calls x :=
    fun x hnew => ((pending_cons calls _ x).mp hnew).resolve_left nofun
  have hdeleting : ∀ x, .deleting x ∈ Call.deleting r :: calls → x = r ∨ .deleting x ∈ calls := by
    intro x hnew
    rcases List.mem_cons.mp hnew with heq | hold
    · cases heq
      exact .inl rfl
    · exact .inr hold
  exact {
    single := h.single
    function := h.function
    kept := h.kept
    readers := fun q q' x hnew => h.readers q q' x (hreads q x hnew)
    deleters := fun q x hnew => by
      rcases hdeleting x hnew with rfl | hold
      · exact hnames q
      · exact h.deleters q x hold
    pendingFile := fun x hnew => h.pendingFile x (hpendings x hnew)
    pendingNames := fun q x hnew => h.pendingNames q x (hpendings x hnew)
    pendingReads := fun q x hnew hread => h.pendingReads q x (hpendings x hnew) (hreads q x hread)
    pendingDeleting := fun x hnew hmem => by
      rcases hdeleting x hmem with rfl | hold
      · exact hpending (hpendings x hnew)
      · exact h.pendingDeleting x (hpendings x hnew) hold
    once := h.once
    issuedFiles := h.issuedFiles
    issuedReads := fun q x hnew => h.issuedReads q x (hreads q x hnew)
    issuedDeleting := fun x hnew => by
      rcases hdeleting x hnew with rfl | hold
      · exact hissued
      · exact h.issuedDeleting x hold
    nonempty := h.nonempty }

theorem lost_clear (p : Place) (r x : JsString) (hname : names p r)
    (h : Sound names files calls issued) :
    Lost (without names p) files (.deleting r :: calls) x ↔ Lost names files calls x := by
  constructor
  · rintro ⟨hfile, hnames, hpending, hdeleting, hreads⟩
    refine ⟨hfile, fun q hq => ?_, fun hp => hpending ((pending_cons calls _ x).mpr (.inr hp)),
      fun hd => hdeleting (List.mem_cons_of_mem _ hd),
      fun q hr => hreads q ((reads_cons calls _ q x).mpr (.inr hr))⟩
    by_cases hqp : q = p
    · rw [hqp] at hq
      rw [h.function p r x hname hq] at hdeleting
      exact hdeleting List.mem_cons_self
    · exact hnames q ⟨hqp, hq⟩
  · rintro ⟨hfile, hnames, hpending, hdeleting, hreads⟩
    refine ⟨hfile, fun q hq => hnames q hq.2,
      fun hp => hpending (((pending_cons calls _ x).mp hp).resolve_left nofun), fun hd => ?_,
      fun q hr => hreads q (((reads_cons calls _ q x).mp hr).resolve_left nofun)⟩
    rcases List.mem_cons.mp hd with heq | hold
    · cases heq
      exact hnames p hname
    · exact hdeleting hold

theorem sound_write (p : Place) (existing : Option JsString) (r : JsString)
    (hmem : .writing p existing ∈ calls) (hfresh : r ∉ issued) (hne : r ≠ [])
    (h : Sound names files calls issued) :
    Sound names (r :: files) (.written p existing r :: calls.erase (.writing p existing))
      (r :: issued) := by
  have hreads : ∀ q x, Reads (.written p existing r :: calls.erase (.writing p existing)) q x →
      Reads calls q x := by
    intro q x hnew
    rcases (reads_cons _ _ q x).mp hnew with hnew | hold
    · exact ⟨_, hmem, hnew⟩
    · exact reads_erase calls _ q x hold
  have hpendings : ∀ x, Pending (.written p existing r :: calls.erase (.writing p existing)) x →
      x = r ∨ Pending calls x := by
    intro x hnew
    rcases (pending_cons _ _ x).mp hnew with hnew | hold
    · exact .inl (Option.some.inj hnew).symm
    · exact .inr (pending_erase calls _ x hold)
  have hdeleting : ∀ x, .deleting x ∈
      Call.written p existing r :: calls.erase (.writing p existing) → .deleting x ∈ calls :=
    fun x hnew => List.mem_of_mem_erase ((List.mem_cons.mp hnew).resolve_left nofun)
  have hnames : ∀ q, ¬names q r := fun q hq => hfresh (h.issuedFiles r (h.kept q r hq))
  exact {
    single := h.single
    function := h.function
    kept := fun q x hname => List.mem_cons_of_mem _ (h.kept q x hname)
    readers := fun q q' x hnew => h.readers q q' x (hreads q x hnew)
    deleters := fun q x hnew => h.deleters q x (hdeleting x hnew)
    pendingFile := fun x hnew => by
      rcases hpendings x hnew with rfl | hold
      · exact List.mem_cons_self
      · exact List.mem_cons_of_mem _ (h.pendingFile x hold)
    pendingNames := fun q x hnew => by
      rcases hpendings x hnew with rfl | hold
      · exact hnames q
      · exact h.pendingNames q x hold
    pendingReads := fun q x hnew hread => by
      rcases hpendings x hnew with rfl | hold
      · exact hfresh (h.issuedReads q x (hreads q x hread))
      · exact h.pendingReads q x hold (hreads q x hread)
    pendingDeleting := fun x hnew hmem => by
      rcases hpendings x hnew with rfl | hold
      · exact hfresh (h.issuedDeleting x (hdeleting x hmem))
      · exact h.pendingDeleting x hold (hdeleting x hmem)
    once := by
      refine List.nodup_cons.mpr ⟨fun hin => ?_, erased_once calls _ h.once⟩
      obtain ⟨call, hcall, hstored⟩ := List.mem_filterMap.mp hin
      exact hfresh (h.issuedFiles r (h.pendingFile r
        ⟨call, List.mem_of_mem_erase hcall, hstored⟩))
    issuedFiles := fun x hfile => by
      rcases List.mem_cons.mp hfile with rfl | hold
      · exact List.mem_cons_self
      · exact List.mem_cons_of_mem _ (h.issuedFiles x hold)
    issuedReads := fun q x hnew => List.mem_cons_of_mem _ (h.issuedReads q x (hreads q x hnew))
    issuedDeleting := fun x hnew => List.mem_cons_of_mem _ (h.issuedDeleting x (hdeleting x hnew))
    nonempty := fun hin => by
      rcases List.mem_cons.mp hin with heq | hold
      · exact hne heq.symm
      · exact h.nonempty hold }

theorem lost_write (p : Place) (existing : Option JsString) (r x : JsString)
    (hmem : .writing p existing ∈ calls) (hfresh : r ∉ issued)
    (h : Sound names files calls issued) :
    Lost names (r :: files) (.written p existing r :: calls.erase (.writing p existing)) x ↔
      Lost names files calls x := by
  constructor
  · rintro ⟨hfile, hnames, hpending, hdeleting, hreads⟩
    have hne : x ≠ r := fun heq => hpending ((pending_cons _ _ x).mpr (.inl (congrArg some heq.symm)))
    refine ⟨(List.mem_cons.mp hfile).resolve_left hne, hnames, ?_, fun hd => ?_, ?_⟩
    · rintro ⟨call, hcall, hstored⟩
      rcases mem_or_erased calls (.writing p existing) call hcall with rfl | hother
      · cases hstored
      · exact hpending ((pending_cons _ _ x).mpr (.inr ⟨call, hother, hstored⟩))
    · exact hdeleting (List.mem_cons_of_mem _ ((mem_or_erased calls (.writing p existing) _ hd).resolve_left nofun))
    · rintro q ⟨call, hcall, hread⟩
      rcases mem_or_erased calls (.writing p existing) call hcall with rfl | hother
      · exact hreads q ((reads_cons _ _ q x).mpr (.inl hread))
      · exact hreads q ((reads_cons _ _ q x).mpr (.inr ⟨call, hother, hread⟩))
  · rintro ⟨hfile, hnames, hpending, hdeleting, hreads⟩
    refine ⟨List.mem_cons_of_mem _ hfile, hnames, fun hp => ?_, fun hd => ?_, fun q hr => ?_⟩
    · rcases (pending_cons _ _ x).mp hp with hnew | hold
      · rw [Option.some.inj hnew] at hfresh
        exact hfresh (h.issuedFiles x hfile)
      · exact hpending (pending_erase calls _ x hold)
    · exact hdeleting (List.mem_of_mem_erase ((List.mem_cons.mp hd).resolve_left nofun))
    · rcases (reads_cons _ _ q x).mp hr with hnew | hold
      · exact hreads q ⟨_, hmem, hnew⟩
      · exact hreads q (reads_erase calls _ q x hold)

theorem sound_unlink (r : JsString) (hmem : .deleting r ∈ calls)
    (h : Sound names files calls issued) :
    Sound names (files.filter (· ≠ r)) (calls.erase (.deleting r)) issued := by
  have hothers : ∀ x ∈ files, x ≠ r → x ∈ files.filter (· ≠ r) :=
    fun x hfile hne => List.mem_filter.mpr ⟨hfile, decide_eq_true hne⟩
  have herased := sound_erase names files calls issued (.deleting r) h
  exact { herased with
    kept := fun p x hname => hothers x (h.kept p x hname) fun heq =>
      h.deleters p r hmem (heq ▸ hname)
    pendingFile := fun x hpending => hothers x (herased.pendingFile x hpending) fun heq =>
      h.pendingDeleting r (heq ▸ pending_erase calls _ x hpending) hmem
    issuedFiles := fun x hfile => h.issuedFiles x (List.mem_filter.mp hfile).1 }

theorem lost_unlink (r x : JsString) (hmem : .deleting r ∈ calls) :
    Lost names (files.filter (· ≠ r)) (calls.erase (.deleting r)) x ↔ Lost names files calls x := by
  constructor
  · rintro ⟨hfile, hnames, hpending, hdeleting, hreads⟩
    have hne : x ≠ r := of_decide_eq_true (List.mem_filter.mp hfile).2
    refine ⟨(List.mem_filter.mp hfile).1, hnames, ?_, fun hd => ?_, ?_⟩
    · rintro ⟨call, hcall, hstored⟩
      rcases mem_or_erased calls (.deleting r) call hcall with rfl | hother
      · cases hstored
      · exact hpending ⟨call, hother, hstored⟩
    · rcases mem_or_erased calls (.deleting r) _ hd with heq | hother
      · cases heq
        exact hne rfl
      · exact hdeleting hother
    · rintro q ⟨call, hcall, hread⟩
      rcases mem_or_erased calls (.deleting r) call hcall with rfl | hother
      · cases hread
      · exact hreads q ⟨call, hother, hread⟩
  · rintro ⟨hfile, hnames, hpending, hdeleting, hreads⟩
    have hne : x ≠ r := fun heq => hdeleting (heq ▸ hmem)
    exact ⟨List.mem_filter.mpr ⟨hfile, decide_eq_true hne⟩, hnames,
      fun hp => hpending (pending_erase calls _ x hp), fun hd => hdeleting (List.mem_of_mem_erase hd),
      fun q hr => hreads q (reads_erase calls _ q x hr)⟩

theorem sound_rename (p : Place) (existing : Option JsString) (r : JsString)
    (hmem : .written p existing r ∈ calls) (h : Sound names files calls issued) :
    Sound (renamed names p r) files (calls.erase (.written p existing r)) issued := by
  have hpending : Pending calls r := ⟨_, hmem, rfl⟩
  have hleft : ∀ x, Pending (calls.erase (.written p existing r)) x → x ≠ r :=
    fun x hx heq => erased_stored calls _ r h.once hmem rfl (heq ▸ hx)
  have herased := sound_erase names files calls issued (.written p existing r) h
  exact { herased with
    single := by
      rintro q q' x (⟨rfl, rfl⟩ | ⟨-, hq⟩) (⟨rfl, hx⟩ | ⟨-, hq'⟩)
      · rfl
      · exact absurd hq' (h.pendingNames q' x hpending)
      · exact absurd hq (h.pendingNames q x (hx ▸ hpending))
      · exact h.single q q' x hq hq'
    function := by
      rintro q x y (⟨rfl, rfl⟩ | ⟨hne, hx⟩) (⟨hq, rfl⟩ | ⟨hne', hy⟩)
      · rfl
      · exact absurd rfl hne'
      · exact absurd hq hne
      · exact h.function q x y hx hy
    kept := by
      rintro q x (⟨-, rfl⟩ | ⟨-, hq⟩)
      · exact h.pendingFile x hpending
      · exact h.kept q x hq
    readers := by
      rintro q q' x hread (⟨-, rfl⟩ | ⟨-, hq'⟩)
      · exact absurd (reads_erase calls _ q x hread) (h.pendingReads q x hpending)
      · exact h.readers q q' x (reads_erase calls _ q x hread) hq'
    deleters := by
      rintro q x hd (⟨-, rfl⟩ | ⟨-, hq⟩)
      · exact h.pendingDeleting x hpending (List.mem_of_mem_erase hd)
      · exact h.deleters q x (List.mem_of_mem_erase hd) hq
    pendingNames := by
      rintro q x hx (⟨-, heq⟩ | ⟨-, hq⟩)
      · exact hleft x hx heq
      · exact herased.pendingNames q x hx hq }

end Steps

def discarding (existing : Option JsString) (calls : List Call) : List Call :=
  match existing with
  | none => calls
  | some reference => .deleting reference :: calls

section Continuing
variable (names : Naming) (files : List JsString) (calls : List Call) (issued : List JsString)
variable (p : Place) (existing : Option JsString) (r : JsString)

theorem discarding_pending (x : JsString) :
    Pending (discarding existing calls) x ↔ Pending calls x := by
  cases existing with
  | none => exact Iff.rfl
  | some reference => exact (pending_cons calls _ x).trans (or_iff_right nofun)

theorem discarding_reads (q : Place) (x : JsString) :
    Reads (discarding existing calls) q x ↔ Reads calls q x := by
  cases existing with
  | none => exact Iff.rfl
  | some reference => exact (reads_cons calls _ q x).trans (or_iff_right nofun)

theorem discarding_deleting (x : JsString) :
    .deleting x ∈ discarding existing calls ↔ existing = some x ∨ .deleting x ∈ calls := by
  cases existing with
  | none => exact ⟨.inr, fun h => h.resolve_left nofun⟩
  | some reference =>
    unfold discarding
    rw [List.mem_cons, Call.deleting.injEq, Option.some.injEq, eq_comm]

/-- A call reads what it read at its beginning, so the others read the rest. -/
theorem reads_split (hmem : .written p existing r ∈ calls) (q : Place) (x : JsString) :
    Reads calls q x ↔
      (q = p ∧ existing = some x) ∨ Reads (calls.erase (.written p existing r)) q x := by
  constructor
  · rintro ⟨call, hcall, hread⟩
    rcases mem_or_erased calls (.written p existing r) call hcall with rfl | hother
    · obtain ⟨hexisting, rfl⟩ := reads_existing existing p q x hread
      exact .inl ⟨rfl, hexisting⟩
    · exact .inr ⟨call, hother, hread⟩
  · rintro (⟨rfl, rfl⟩ | hother)
    · exact ⟨_, hmem, rfl⟩
    · exact reads_erase calls _ q x hother

theorem pending_split (hmem : .written p existing r ∈ calls)
    (h : Sound names files calls issued) (x : JsString) :
    Pending (calls.erase (.written p existing r)) x ↔ Pending calls x ∧ x ≠ r := by
  constructor
  · intro hx
    exact ⟨pending_erase calls _ x hx,
      fun heq => erased_stored calls _ r h.once hmem rfl (heq ▸ hx)⟩
  · rintro ⟨⟨call, hcall, hstored⟩, hne⟩
    rcases mem_or_erased calls (.written p existing r) call hcall with rfl | hother
    · exact absurd (Option.some.inj hstored).symm hne
    · exact ⟨call, hother, hstored⟩

theorem sound_discarding (hmem : .written p existing r ∈ calls)
    (h : Sound names files calls issued) (after : Naming)
    (hafter : Sound after files (calls.erase (.written p existing r)) issued)
    (hnames : ∀ q x, after q x → x = r ∨ q ≠ p ∧ names q x) :
    Sound after files (discarding existing (calls.erase (.written p existing r))) issued := by
  cases hexisting : existing with
  | none =>
    rw [hexisting] at hafter
    exact hafter
  | some old =>
    have hread : Reads calls p old := ⟨_, hmem, congrArg (Option.map (Prod.mk p)) hexisting⟩
    have hpending : ¬Pending calls old := fun hp => h.pendingReads p old hp hread
    refine sound_deleting after files _ issued old (h.issuedReads p old hread) (fun q hq => ?_)
      (fun hp => hpending (pending_erase calls _ old hp)) (hexisting ▸ hafter)
    rcases hnames q old hq with heq | ⟨hne, hname⟩
    · exact hpending (heq ▸ ⟨_, hmem, rfl⟩)
    · exact hne (h.readers p q old hread hname).symm

theorem lost_stays (hmem : .written p existing r ∈ calls) (h : Sound names files calls issued)
    (after : Naming) (hnames : ∀ q x, after q x → x = r ∨ names q x) (x : JsString)
    (hlost : Lost names files calls x) :
    Lost after files (discarding existing (calls.erase (.written p existing r))) x := by
  obtain ⟨hfile, hunnamed, hpending, hdeleting, hreads⟩ := hlost
  rw [Lost, discarding_pending, discarding_deleting, pending_split names files calls issued p existing
    r hmem h]
  refine ⟨hfile, fun q hq => ?_, fun hp => hpending hp.1, fun hd => ?_, fun q hr => ?_⟩
  · rcases hnames q x hq with heq | hname
    · exact hpending (heq ▸ ⟨_, hmem, rfl⟩)
    · exact hunnamed q hname
  · rcases hd with hexisting | hd
    · exact hreads p ((reads_split calls p existing r hmem p x).mpr (.inl ⟨rfl, hexisting⟩))
    · exact hdeleting (List.mem_of_mem_erase hd)
  · exact hreads q (reads_erase calls _ q x ((discarding_reads _ existing q x).mp hr))

theorem lost_gone (hmem : .written p existing r ∈ calls) (h : Sound names files calls issued) :
    Lost names files (discarding existing (calls.erase (.written p existing r))) r := by
  have hpending : Pending calls r := ⟨_, hmem, rfl⟩
  rw [Lost, discarding_pending, discarding_deleting, pending_split names files calls issued p existing
    r hmem h]
  refine ⟨h.pendingFile r hpending, fun q => h.pendingNames q r hpending, fun hp => hp.2 rfl,
    fun hd => ?_, fun q hr => ?_⟩
  · rcases hd with hexisting | hd
    · exact h.pendingReads p r hpending
        ((reads_split calls p existing r hmem p r).mpr (.inl ⟨rfl, hexisting⟩))
    · exact h.pendingDeleting r hpending (List.mem_of_mem_erase hd)
  · exact h.pendingReads q r hpending
      (reads_erase calls _ q r ((discarding_reads _ existing q r).mp hr))

theorem covered_renamed (hmem : .written p existing r ∈ calls)
    (h : Sound names files calls issued) :
    (∀ x, ¬Lost (renamed names p r) files
        (discarding existing (calls.erase (.written p existing r))) x) ↔
      (∀ x, ¬Lost names files calls x) ∧ ∀ x, names p x → existing = some x ∨
        Reads (calls.erase (.written p existing r)) p x := by
  have hpending : Pending calls r := ⟨_, hmem, rfl⟩
  constructor
  · intro hcovered
    refine ⟨fun x hlost => hcovered x (lost_stays names files calls issued p existing r hmem h
      (renamed names p r) (fun q y hq => hq.imp And.right And.right) x hlost), fun x hname => ?_⟩
    by_contra hnone
    obtain ⟨hold, hread⟩ := not_or.mp hnone
    refine hcovered x ⟨h.kept p x hname, fun q hq => ?_, fun hp => ?_, fun hd => ?_, fun q hr => ?_⟩
    · rcases hq with ⟨-, heq⟩ | ⟨hne, hq⟩
      · exact h.pendingNames p r hpending (heq ▸ hname)
      · exact hne (h.single q p x hq hname)
    · exact h.pendingNames p x (pending_erase calls _ x ((discarding_pending _ existing x).mp hp)) hname
    · rcases (discarding_deleting _ existing x).mp hd with hexisting | hd
      · exact hold hexisting
      · exact h.deleters p x (List.mem_of_mem_erase hd) hname
    · have hleft := (discarding_reads _ existing q x).mp hr
      rw [h.readers q p x (reads_erase calls _ q x hleft) hname] at hleft
      exact hread hleft
  · rintro ⟨hcovered, hold⟩ x ⟨hfile, hnames, hpendings, hdeleting, hreads⟩
    rw [discarding_pending, pending_split names files calls issued p existing r hmem h] at hpendings
    rw [discarding_deleting] at hdeleting
    have hne : x ≠ r := fun heq => hnames p (.inl ⟨rfl, heq⟩)
    refine hcovered x ⟨hfile, fun q hq => ?_, fun hp => hpendings ⟨hp, hne⟩, fun hd => ?_,
      fun q hr => ?_⟩
    · by_cases hqp : q = p
      · rw [hqp] at hq
        rcases hold x hq with hexisting | hread
        · exact hdeleting (.inl hexisting)
        · exact hreads p ((discarding_reads _ existing p x).mpr hread)
      · exact hnames q (.inr ⟨hqp, hq⟩)
    · exact hdeleting (.inr ((mem_or_erased calls _ _ hd).resolve_left nofun))
    · rcases (reads_split calls p existing r hmem q x).mp hr with ⟨-, hexisting⟩ | hread
      · exact hdeleting (.inl hexisting)
      · exact hreads q ((discarding_reads _ existing q x).mpr hread)

end Continuing

section Worlds

def SoundWorld (w : World) : Prop := Sound (Names w) w.files w.calls w.issued

/-- No file is lost. -/
def Covered (w : World) : Prop := ∀ r, ¬Lost (Names w) w.files w.calls r

theorem names_setRow (w : World) (place q : Place) (row : Option PictureRow) (x : JsString) :
    Names (w.setRow place row) q x ↔
      (q = place ∧ ∃ held, row = some held ∧ held.picturePath = some x) ∨
        (q ≠ place ∧ Names w q x) := by
  unfold Names World.setRow
  dsimp only
  by_cases hq : q = place
  · rw [hq, Function.update_self]
    exact ⟨fun h => .inl ⟨rfl, h⟩, fun h => h.elim And.right fun h => absurd rfl h.1⟩
  · rw [Function.update_of_ne hq]
    exact ⟨fun h => .inr ⟨hq, h⟩, fun h => h.elim (fun h => absurd h.1 hq) And.right⟩

theorem names_cleared (w : World) (place : Place) (row : Option PictureRow)
    (hrow : ∀ held, row = some held → held.picturePath = none) :
    Names (w.setRow place row) = without (Names w) place := by
  funext q x
  refine propext ((names_setRow w place q row x).trans (or_iff_right ?_))
  rintro ⟨-, held, hheld, hpicture⟩
  rw [hrow held hheld] at hpicture
  cases hpicture

theorem names_given (w : World) (place : Place) (r : JsString) :
    Names (w.setRow place (some ⟨some r⟩)) = renamed (Names w) place r := by
  funext q x
  refine propext ((names_setRow w place q _ x).trans (or_congr_left (and_congr_right fun _ => ?_)))
  constructor
  · rintro ⟨held, hheld, hpicture⟩
    cases hheld
    exact (Option.some.inj hpicture).symm
  · rintro rfl
    exact ⟨_, rfl, rfl⟩

theorem without_unnamed (names : Naming) (place : Place) (h : ∀ x, ¬names place x) :
    without names place = names := by
  funext q x
  exact propext ⟨And.right, fun hq => ⟨fun heq => h x (heq ▸ hq), hq⟩⟩

theorem unnamed (w : World) (place : Place)
    (h : ∀ row, w.rows place = some row → row.picturePath = none) (x : JsString) :
    ¬Names w place x := by
  rintro ⟨row, hrow, hpicture⟩
  rw [h row hrow] at hpicture
  cases hpicture

theorem truthy_path (w : World) (place : Place) (row : PictureRow) (hw : SoundWorld w)
    (hrow : w.rows place = some row) : truthy row.picturePath = row.picturePath := by
  cases hpicture : row.picturePath with
  | none => rfl
  | some r =>
    have hissued := hw.issuedFiles r (hw.kept place r ⟨row, hrow, hpicture⟩)
    exact Option.filter_some_pos (decide_eq_true fun heq => hw.nonempty (heq ▸ hissued))

theorem discard_calls (w : World) (reference : Option JsString) (h : truthy reference = reference) :
    w.discard reference = { w with calls := discarding reference w.calls } := by
  unfold World.discard
  rw [h]
  cases reference with
  | none => rfl
  | some r => rfl

/-- The step loses no file and saves none. -/
def Keeps (w t : World) : Prop := SoundWorld t ∧ (Covered t ↔ Covered w)

theorem keeps_refl (w : World) (hw : SoundWorld w) : Keeps w w := ⟨hw, Iff.rfl⟩

theorem keeps_trans (w t u : World) (hwt : Keeps w t) (htu : Keeps t u) : Keeps w u :=
  ⟨htu.1, htu.2.trans hwt.2⟩

theorem insertRow_keeps (w : World) (place : Place) (hw : SoundWorld w) :
    Keeps w (insertRow place w) := by
  unfold insertRow
  cases hrow : w.rows place with
  | some existing => exact keeps_refl w hw
  | none =>
    have hnames : Names (w.setRow place (some ⟨none⟩)) = Names w := by
      rw [names_cleared w place _ fun held hheld => by cases hheld; rfl]
      refine without_unnamed _ _ (unnamed w place fun row hfound => ?_)
      rw [hrow] at hfound
      cases hfound
    unfold Keeps SoundWorld Covered
    rw [hnames]
    exact ⟨hw, Iff.rfl⟩

theorem beginUpload_keeps (w : World) (place : Place) (hw : SoundWorld w) :
    Keeps w (beginUpload place w) := by
  unfold beginUpload
  cases hrow : w.rows place with
  | none => exact keeps_refl w hw
  | some existing =>
    have hread : ∀ r, existing.picturePath = some r → Names w place r :=
      fun r hpicture => ⟨existing, hrow, hpicture⟩
    exact ⟨sound_begin (Names w) w.files w.calls w.issued place existing.picturePath hread hw,
      forall_congr' fun x =>
        not_congr (lost_begin (Names w) w.files w.calls place existing.picturePath hread x)⟩

theorem cleared_keeps (w : World) (place : Place) (existing : PictureRow) (row : Option PictureRow)
    (hexisting : w.rows place = some existing)
    (hrow : ∀ held, row = some held → held.picturePath = none) (hw : SoundWorld w) :
    Keeps w ((w.setRow place row).discard existing.picturePath) := by
  rw [discard_calls _ _ (truthy_path w place existing hw hexisting)]
  unfold Keeps SoundWorld Covered
  change Sound (Names (w.setRow place row)) w.files (discarding existing.picturePath w.calls) w.issued ∧
    ((∀ r, ¬Lost (Names (w.setRow place row)) w.files (discarding existing.picturePath w.calls) r) ↔
      _)
  rw [names_cleared w place row hrow]
  cases hpicture : existing.picturePath with
  | none =>
    rw [without_unnamed (Names w) place (unnamed w place fun other hother => by
      rw [hexisting] at hother
      cases hother
      exact hpicture)]
    exact ⟨hw, Iff.rfl⟩
  | some r =>
    have hname : Names w place r := ⟨existing, hexisting, hpicture⟩
    refine ⟨sound_deleting _ _ _ _ r (hw.issuedFiles r (hw.kept place r hname)) (fun q hq => ?_)
      (fun hp => hw.pendingNames place r hp hname)
      (sound_without (Names w) w.files w.calls w.issued place hw), forall_congr' fun x =>
        not_congr (lost_clear (Names w) w.files w.calls w.issued place r x hname hw)⟩
    exact hq.1 (hw.single q place r hq.2 hname)

theorem clearPicture_keeps (w : World) (place : Place) (hw : SoundWorld w) :
    Keeps w (clearPicture place w) := by
  unfold clearPicture
  cases hrow : w.rows place with
  | none => exact keeps_refl w hw
  | some existing =>
    dsimp only
    cases truthy existing.picturePath with
    | none => exact keeps_refl w hw
    | some reference =>
      exact cleared_keeps w place existing _ hrow (fun held hheld => by cases hheld; rfl) hw

theorem deleteRow_keeps (w : World) (place : Place) (hw : SoundWorld w) :
    Keeps w (deleteRow place w) := by
  unfold deleteRow
  cases hrow : w.rows place with
  | none => exact keeps_refl w hw
  | some existing => exact cleared_keeps w place existing _ hrow nofun hw

theorem write_bucket (service : FileStorageService) (place : Place) (size : ℕ)
    (detected : DetectedContentType) (now : ℕ) (random : Fin 10 → UInt8) :
    ∃ stored, write service (bucket place) size (.ok detected) now random = .ok stored ∧
      stored.reference ≠ [] := by
  have hpictures : assertValidBucket (js "pictures") = .ok (js "pictures") := by decide
  have himages : assertValidBucket (js "project-images") = .ok (js "project-images") := by decide
  have hbucket : ∃ name, assertValidBucket (bucket place) = .ok name ∧ name ≠ [] := by
    cases place with
    | agent id => exact ⟨js "pictures", hpictures, by decide⟩
    | userProfile => exact ⟨js "pictures", hpictures, by decide⟩
    | project id => exact ⟨js "project-images", himages, by decide⟩
  obtain ⟨name, hname, hne⟩ := hbucket
  unfold write
  rw [hname]
  exact ⟨_, rfl, fun hempty => hne (List.append_eq_nil_iff.mp
    (List.append_eq_nil_iff.mp hempty).1).1⟩

theorem completeWrite_keeps (service : FileStorageService) (w : World) (place : Place)
    (existing : Option JsString) (size : ℕ) (detected : DetectedContentType) (now : ℕ)
    (random : Fin 10 → UInt8) (hw : SoundWorld w)
    (hfresh : Fresh service w (.completeWrite place existing size detected now random)) :
    Keeps w (completeWrite service place existing size detected now random w) := by
  unfold completeWrite
  split_ifs with hmem
  · obtain ⟨stored, hwrite, hne⟩ := write_bucket service place size detected now random
    rw [hwrite]
    exact ⟨sound_write (Names w) w.files w.calls w.issued place existing stored.reference hmem
        (hfresh stored hwrite) hne hw,
      forall_congr' fun x => not_congr (lost_write (Names w) w.files w.calls w.issued place existing
        stored.reference x hmem (hfresh stored hwrite) hw)⟩
  · exact keeps_refl w hw

theorem completeDelete_keeps (w : World) (reference : JsString) (hw : SoundWorld w) :
    Keeps w (completeDelete reference w) := by
  unfold completeDelete
  split_ifs with hmem
  · exact ⟨sound_unlink (Names w) w.files w.calls w.issued reference hmem hw,
      forall_congr' fun x => not_congr (lost_unlink (Names w) w.files w.calls reference x hmem)⟩
  · exact keeps_refl w hw

theorem continueUpload_covered (w : World) (place : Place) (existing : Option JsString)
    (reference : JsString) (hw : SoundWorld w) :
    SoundWorld (continueUpload place existing reference w) ∧
      (Covered (continueUpload place existing reference w) ↔
        Covered w ∧ Current w (.continueUpload place existing reference)) := by
  unfold continueUpload
  split_ifs with hmem
  swap
  · exact ⟨hw, (and_iff_left fun h => absurd h hmem).symm⟩
  have htruthy : truthy existing = existing := by
    cases hexisting : existing with
    | none => rfl
    | some old =>
      have hread : Reads w.calls place old := ⟨_, hmem, congrArg (Option.map (Prod.mk place)) hexisting⟩
      exact Option.filter_some_pos (decide_eq_true fun heq =>
        hw.nonempty (heq ▸ hw.issuedReads place old hread))
  rw [discard_calls _ _ htruthy]
  unfold SoundWorld Covered
  change Sound (Names (w.setRow place _)) w.files
      (discarding existing (w.calls.erase (.written place existing reference))) w.issued ∧
    ((∀ r, ¬Lost (Names (w.setRow place _)) w.files
      (discarding existing (w.calls.erase (.written place existing reference))) r) ↔ _)
  cases hrow : w.rows place with
  | none =>
    have hgone : ∀ x, ¬Names w place x := unnamed w place fun row hfound => by
      rw [hrow] at hfound
      cases hfound
    rw [Option.map_none, names_cleared w place none nofun, without_unnamed (Names w) place hgone]
    refine ⟨sound_discarding (Names w) w.files w.calls w.issued place existing reference hmem hw _
      (sound_erase _ _ _ _ _ hw) fun q x hq => .inr ⟨fun heq => hgone x (heq ▸ hq), hq⟩,
      fun h => absurd (lost_gone (Names w) w.files w.calls w.issued place existing reference hmem hw)
        (h reference), fun h => ?_⟩
    obtain ⟨row, hfound, -⟩ := h.2 hmem
    rw [hrow] at hfound
    cases hfound
  | some row =>
    rw [Option.map_some, names_given]
    refine ⟨sound_discarding (Names w) w.files w.calls w.issued place existing reference hmem hw _
      (sound_rename _ _ _ _ _ _ _ hmem hw) (fun q x hq => hq.imp And.right id), ?_⟩
    refine (covered_renamed (Names w) w.files w.calls w.issued place existing reference hmem hw).trans
      (and_congr_right fun _ => ⟨fun h _ => ⟨row, hrow, fun picture hpicture =>
        h picture ⟨row, hrow, hpicture⟩⟩, fun h x hx => ?_⟩)
    obtain ⟨row', hrow', hcurrent⟩ := h hmem
    obtain ⟨other, hother, hpicture⟩ := hx
    rw [hrow'] at hother
    cases hother
    exact hcurrent x hpicture

theorem step_covered (service : FileStorageService) (w : World) (event : Event) (hw : SoundWorld w)
    (hfresh : Fresh service w event) : SoundWorld (step service w event) ∧
      (Covered (step service w event) ↔ Covered w ∧ Current w event) := by
  have hkeeps : ∀ t, Keeps w t → SoundWorld t ∧ (Covered t ↔ Covered w ∧ True) :=
    fun t ht => ⟨ht.1, ht.2.trans (and_iff_left trivial).symm⟩
  cases event with
  | createAgent id => exact hkeeps _ (insertRow_keeps w (.agent id) hw)
  | deleteAgent id => exact hkeeps _ (deleteRow_keeps w (.agent id) hw)
  | uploadAgentPicture id => exact hkeeps _ (beginUpload_keeps w (.agent id) hw)
  | deleteAgentPicture id => exact hkeeps _ (clearPicture_keeps w (.agent id) hw)
  | readUserProfile => exact hkeeps _ (insertRow_keeps w .userProfile hw)
  | uploadUserPicture =>
    have hread := insertRow_keeps w .userProfile hw
    exact hkeeps _ (keeps_trans w _ _ hread (beginUpload_keeps _ .userProfile hread.1))
  | deleteUserPicture =>
    have hread := insertRow_keeps w .userProfile hw
    exact hkeeps _ (keeps_trans w _ _ hread (clearPicture_keeps _ .userProfile hread.1))
  | createProject id => exact hkeeps _ (insertRow_keeps w (.project id) hw)
  | deleteProject id => exact hkeeps _ (deleteRow_keeps w (.project id) hw)
  | uploadProjectImage id => exact hkeeps _ (beginUpload_keeps w (.project id) hw)
  | completeWrite place existing size detected now random =>
    exact hkeeps _ (completeWrite_keeps service w place existing size detected now random hw hfresh)
  | continueUpload place existing reference =>
    exact continueUpload_covered w place existing reference hw
  | completeDelete reference => exact hkeeps _ (completeDelete_keeps w reference hw)

theorem empty_sound : SoundWorld empty where
  single := by rintro p q r ⟨row, hrow, -⟩; cases hrow
  function := by rintro p r x ⟨row, hrow, -⟩; cases hrow
  kept := by rintro p r ⟨row, hrow, -⟩; cases hrow
  readers := by rintro p q r ⟨call, hcall, -⟩; cases hcall
  deleters := by rintro p r hcall; cases hcall
  pendingFile := by rintro r ⟨call, hcall, -⟩; cases hcall
  pendingNames := by rintro p r ⟨call, hcall, -⟩; cases hcall
  pendingReads := by rintro p r ⟨call, hcall, -⟩; cases hcall
  pendingDeleting := by rintro r ⟨call, hcall, -⟩; cases hcall
  once := List.nodup_nil
  issuedFiles := by rintro r hfile; cases hfile
  issuedReads := by rintro p r ⟨call, hcall, -⟩; cases hcall
  issuedDeleting := by rintro r hcall; cases hcall
  nonempty := List.not_mem_nil

theorem matched_covered (w : World) (hw : SoundWorld w) (hdone : w.calls = []) :
    Matched w ↔ Covered w := by
  constructor
  · rintro h r ⟨hfile, hnames, -⟩
    obtain ⟨place, hname⟩ := (h r).mp hfile
    exact hnames place hname
  · intro h r
    refine ⟨fun hfile => ?_, fun ⟨place, hname⟩ => hw.kept place r hname⟩
    by_contra hnone
    refine h r ⟨hfile, fun place hname => hnone ⟨place, hname⟩, ?_, ?_, ?_⟩
    · rintro ⟨call, hcall, -⟩
      rw [hdone] at hcall
      cases hcall
    · rw [hdone]
      exact List.not_mem_nil
    · rintro place ⟨call, hcall, -⟩
      rw [hdone] at hcall
      cases hcall

end Worlds

section Sample
open StorageReferences

def ann : Place := .agent (js "ann")

def firstPicture : JsString := js "pictures/00000000-0001-7000-8000-000000000000.png"

def secondPicture : JsString := js "pictures/00000000-0002-7000-8000-000000000000.png"

def twoUploads : List Event := [
  .createAgent (js "ann"), .uploadAgentPicture (js "ann"), .uploadAgentPicture (js "ann"),
  .completeWrite ann none 8 png 1 (fun _ => 0), .completeWrite ann none 8 png 2 (fun _ => 0),
  .continueUpload ann none firstPicture, .continueUpload ann none secondPicture]

theorem twoUploads_fresh : Allowed (step storage) (Fresh storage) empty twoUploads := by
  have hsecond : ((write storage (bucket ann) 8 (.ok png) 2 fun _ => 0).map
      StoredFile.reference).toOption = some secondPicture := by
    decide +kernel
  refine ⟨trivial, trivial, trivial, fun stored _ => List.not_mem_nil, fun stored hstored => ?_,
    trivial, trivial, trivial⟩
  rw [hstored] at hsecond
  rw [Option.some.inj hsecond]
  decide +kernel

theorem twoUploads_done : (twoUploads.foldl (step storage) empty).calls = [] := by decide +kernel

end Sample

/-- When all calls have finished the stored files are those that rows refer to, exactly if every
upload found its row current when it went on. -/
theorem pictures_matched (service : FileStorageService) (events : List Event)
    (hfresh : Allowed (step service) (Fresh service) empty events)
    (hdone : (events.foldl (step service) empty).calls = []) :
    Matched (events.foldl (step service) empty) ↔ Allowed (step service) Current empty events := by
  obtain ⟨hsound, hcovered⟩ := final_exact (step service) (Fresh service) Current SoundWorld Covered
    (fun w event hw hgiven => step_covered service w event hw hgiven) empty events empty_sound hfresh
  rw [matched_covered _ hsound hdone, hcovered]
  refine and_iff_right ?_
  rintro r ⟨hfile, -⟩
  cases hfile

theorem pictures_matched_twoUploads :
    Matched (twoUploads.foldl (step StorageReferences.storage) empty) ↔
      Allowed (step StorageReferences.storage) Current empty twoUploads :=
  pictures_matched StorageReferences.storage twoUploads twoUploads_fresh twoUploads_done

/-- Both uploads read that there was no picture, so nobody deletes the first one's file. -/
theorem first_picture_orphaned :
    Allowed (step StorageReferences.storage) (Fresh StorageReferences.storage) empty twoUploads ∧
    (twoUploads.foldl (step StorageReferences.storage) empty).calls = [] ∧
    ¬Matched (twoUploads.foldl (step StorageReferences.storage) empty) := by
  refine ⟨twoUploads_fresh, twoUploads_done, ?_⟩
  obtain ⟨hsound, hcovered⟩ := final_exact (step StorageReferences.storage)
    (Fresh StorageReferences.storage) Current SoundWorld Covered
    (fun w event hw hgiven => step_covered StorageReferences.storage w event hw hgiven) empty
    twoUploads empty_sound twoUploads_fresh
  rw [matched_covered _ hsound twoUploads_done, hcovered]
  rintro ⟨-, -, -, -, -, -, -, hcurrent, -⟩
  -- the world in which the second upload goes on
  change Current ((twoUploads.take 6).foldl (step StorageReferences.storage) empty) _ at hcurrent
  have hrow : ((twoUploads.take 6).foldl (step StorageReferences.storage) empty).rows ann =
      some ⟨some firstPicture⟩ := by
    decide +kernel
  have hcalls : ((twoUploads.take 6).foldl (step StorageReferences.storage) empty).calls =
      [.written ann none secondPicture] := by
    decide +kernel
  obtain ⟨row, hfound, hpicture⟩ := hcurrent (by decide +kernel)
  rw [hrow] at hfound
  cases hfound
  rw [hcalls, List.erase_cons_head] at hpicture
  rcases hpicture firstPicture rfl with hread | ⟨call, hcall, -⟩
  · cases hread
  · cases hcall

end Glassbeetle.PictureFiles
