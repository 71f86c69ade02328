import Mathlib.Logic.Function.Basic
import Glassbeetle.Runs

set_option autoImplicit false

/-!
# Files that appear whole

Files are written under temporary names and renamed when they are complete, several at a time and in
pieces, until the process stops. A reader of the other names sees what it would see if each file came
into being at once.
-/
namespace Glassbeetle.AtomicFiles

variable {π β : Type}

abbrev Disk (π β : Type) := π → Option (List β)

structure Store (π β : Type) where
  disk : Disk π β
  /-- The temporary files that are being written. -/
  writing : List π
  /-- Every temporary name there has been. -/
  used : List π
  /-- Those that were being written when a process stopped. -/
  lost : List π

inductive Action (π β : Type) where
  | opens (temp : π)
  | appends (temp : π) (bytes : List β)
  | commits (temp target : π)
  | abandons (temp : π)
  | removes (target : π)
  | crashes

def start (disk : Disk π β) : Store π β := ⟨disk, [], [], []⟩

variable {temporary : π → Prop}

section Steps

variable [DecidableEq π]

def step (s : Store π β) : Action π β → Store π β
  | .opens temp =>
    { s with
      disk := Function.update s.disk temp (some [])
      writing := temp :: s.writing
      used := temp :: s.used }
  | .appends temp bytes =>
    { s with disk := Function.update s.disk temp (some ((s.disk temp).getD [] ++ bytes)) }
  | .commits temp target =>
    { s with
      disk := (s.disk temp).elim s.disk fun bytes =>
        Function.update (Function.update s.disk temp none) target (some bytes)
      writing := s.writing.erase temp }
  | .abandons temp =>
    { s with disk := Function.update s.disk temp none, writing := s.writing.erase temp }
  | .removes target => { s with disk := Function.update s.disk target none }
  | .crashes => { s with writing := [], lost := s.writing ++ s.lost }

end Steps

/-- A temporary name is used once, by its writer alone; nothing else is given one. -/
def Proper (temporary : π → Prop) (s : Store π β) : Action π β → Prop
  | .opens temp => temporary temp ∧ temp ∉ s.used
  | .appends temp _ | .abandons temp => temp ∈ s.writing
  | .commits temp target => temp ∈ s.writing ∧ ¬temporary target
  | .removes target => ¬temporary target
  | .crashes => True

/-! ### Files that come into being at once -/

structure Published (π β : Type) where
  files : Disk π β
  /-- What has been handed over under a temporary name. -/
  said : π → List β

section Steps

variable [DecidableEq π]

def publish (a : Published π β) : Action π β → Published π β
  | .opens temp => { a with said := Function.update a.said temp [] }
  | .appends temp bytes => { a with said := Function.update a.said temp (a.said temp ++ bytes) }
  | .commits temp target => { a with files := Function.update a.files target (some (a.said temp)) }
  | .removes target => { a with files := Function.update a.files target none }
  | .abandons _ | .crashes => a

end Steps

structure Shows (temporary : π → Prop) (s : Store π β) (a : Published π β) : Prop where
  files : ∀ path, ¬temporary path → s.disk path = a.files path
  said : ∀ temp ∈ s.writing, s.disk temp = some (a.said temp)
  own : ∀ temp ∈ s.writing, temporary temp ∧ temp ∈ s.used
  once : s.writing.Nodup
  left : ∀ temp, temporary temp → (s.disk temp).isSome = true → temp ∈ s.writing ∨ temp ∈ s.lost

theorem start_shows (disk : Disk π β) (hclean : ∀ path, temporary path → disk path = none) :
    Shows temporary (start disk) ⟨disk, fun _ => []⟩ where
  files _ _ := rfl
  said _ htemp := absurd htemp List.not_mem_nil
  own _ htemp := absurd htemp List.not_mem_nil
  once := List.nodup_nil
  left temp htemp hsome := by simp [start, hclean temp htemp] at hsome

section Steps

variable [DecidableEq π]

theorem shows_opens (s : Store π β) (a : Published π β) (temp : π) (hs : Shows temporary s a)
    (htemp : temporary temp) (hfresh : temp ∉ s.used) :
    Shows temporary (step s (.opens temp)) (publish a (.opens temp)) := by
  have hnew : temp ∉ s.writing := fun h => hfresh (hs.own temp h).2
  constructor
  · intro path hpath
    have hne : path ≠ temp := fun h => hpath (h ▸ htemp)
    simp only [step, Function.update_of_ne hne]
    exact hs.files path hpath
  · intro other hother
    rcases List.mem_cons.mp hother with rfl | hother
    · simp [step, publish]
    · have hne : other ≠ temp := fun h => hnew (h ▸ hother)
      simp only [step, publish, Function.update_of_ne hne]
      exact hs.said other hother
  · intro other hother
    rcases List.mem_cons.mp hother with rfl | hother
    · exact ⟨htemp, List.mem_cons_self⟩
    · exact ⟨(hs.own other hother).1, List.mem_cons_of_mem _ (hs.own other hother).2⟩
  · exact List.nodup_cons.mpr ⟨hnew, hs.once⟩
  · intro other hother hsome
    by_cases hne : other = temp
    · exact .inl (hne ▸ List.mem_cons_self)
    · simp only [step, Function.update_of_ne hne] at hsome
      exact (hs.left other hother hsome).imp_left (List.mem_cons_of_mem _)

theorem shows_appends (s : Store π β) (a : Published π β) (temp : π) (bytes : List β)
    (hs : Shows temporary s a) (htemp : temp ∈ s.writing) :
    Shows temporary (step s (.appends temp bytes)) (publish a (.appends temp bytes)) := by
  constructor
  · intro path hpath
    have hne : path ≠ temp := fun h => hpath (h ▸ (hs.own temp htemp).1)
    simp only [step, Function.update_of_ne hne]
    exact hs.files path hpath
  · intro other hother
    by_cases hne : other = temp
    · subst hne
      simp [step, publish, hs.said other hother]
    · simp only [step, publish, Function.update_of_ne hne]
      exact hs.said other hother
  · exact hs.own
  · exact hs.once
  · intro other hother hsome
    by_cases hne : other = temp
    · exact .inl (hne ▸ htemp)
    · simp only [step, Function.update_of_ne hne] at hsome
      exact hs.left other hother hsome

/-- The rename: what the temporary name held is there under the other, whole. -/
theorem shows_commits (s : Store π β) (a : Published π β) (temp target : π)
    (hs : Shows temporary s a) (htemp : temp ∈ s.writing) (htarget : ¬temporary target) :
    Shows temporary (step s (.commits temp target)) (publish a (.commits temp target)) := by
  have hdisk : (step s (.commits temp target)).disk =
      Function.update (Function.update s.disk temp none) target (some (a.said temp)) := by
    simp [step, hs.said temp htemp]
  have hother : ∀ path, temporary path → path ≠ target := fun path h he => htarget (he ▸ h)
  constructor
  · intro path hpath
    simp only [hdisk, publish]
    by_cases hpathTarget : path = target
    · subst hpathTarget
      rw [Function.update_self, Function.update_self]
    · have hne : path ≠ temp := fun h => hpath (h ▸ (hs.own temp htemp).1)
      rw [Function.update_of_ne hpathTarget, Function.update_of_ne hne,
        Function.update_of_ne hpathTarget]
      exact hs.files path hpath
  · intro other hmem
    obtain ⟨hne, hold⟩ := (List.Nodup.mem_erase_iff hs.once).mp hmem
    rw [hdisk, Function.update_of_ne (hother other (hs.own other hold).1),
      Function.update_of_ne hne]
    exact hs.said other hold
  · exact fun other hmem => hs.own other (List.mem_of_mem_erase hmem)
  · exact hs.once.erase temp
  · intro other htemporary hsome
    rw [hdisk, Function.update_of_ne (hother other htemporary)] at hsome
    by_cases hne : other = temp
    · simp [hne] at hsome
    · rw [Function.update_of_ne hne] at hsome
      exact (hs.left other htemporary hsome).imp_left (List.mem_erase_of_ne hne).mpr

theorem shows_abandons (s : Store π β) (a : Published π β) (temp : π) (hs : Shows temporary s a)
    (htemp : temp ∈ s.writing) :
    Shows temporary (step s (.abandons temp)) (publish a (.abandons temp)) := by
  constructor
  · intro path hpath
    have hne : path ≠ temp := fun h => hpath (h ▸ (hs.own temp htemp).1)
    simp only [step, Function.update_of_ne hne]
    exact hs.files path hpath
  · intro other hmem
    obtain ⟨hne, hold⟩ := (List.Nodup.mem_erase_iff hs.once).mp hmem
    simp only [step, Function.update_of_ne hne]
    exact hs.said other hold
  · exact fun other hmem => hs.own other (List.mem_of_mem_erase hmem)
  · exact hs.once.erase temp
  · intro other htemporary hsome
    by_cases hne : other = temp
    · simp [step, hne] at hsome
    · simp only [step, Function.update_of_ne hne] at hsome
      exact (hs.left other htemporary hsome).imp_left (List.mem_erase_of_ne hne).mpr

theorem shows_removes (s : Store π β) (a : Published π β) (target : π) (hs : Shows temporary s a)
    (htarget : ¬temporary target) :
    Shows temporary (step s (.removes target)) (publish a (.removes target)) := by
  have hother : ∀ path, temporary path → path ≠ target := fun path h he => htarget (he ▸ h)
  constructor
  · intro path hpath
    simp only [step, publish]
    by_cases hpathTarget : path = target
    · subst hpathTarget
      rw [Function.update_self, Function.update_self]
    · rw [Function.update_of_ne hpathTarget, Function.update_of_ne hpathTarget]
      exact hs.files path hpath
  · intro other hmem
    simp only [step, Function.update_of_ne (hother other (hs.own other hmem).1)]
    exact hs.said other hmem
  · exact hs.own
  · exact hs.once
  · intro other htemporary hsome
    simp only [step, Function.update_of_ne (hother other htemporary)] at hsome
    exact hs.left other htemporary hsome

theorem step_shows (s : Store π β) (a : Published π β) (action : Action π β)
    (hs : Shows temporary s a) (hproper : Proper temporary s action) :
    Shows temporary (step s action) (publish a action) := by
  cases action with
  | opens temp => exact shows_opens s a temp hs hproper.1 hproper.2
  | appends temp bytes => exact shows_appends s a temp bytes hs hproper
  | commits temp target => exact shows_commits s a temp target hs hproper.1 hproper.2
  | abandons temp => exact shows_abandons s a temp hs hproper
  | removes target => exact shows_removes s a target hs hproper
  | crashes =>
    refine ⟨hs.files, ?_, ?_, List.nodup_nil, ?_⟩
    · exact fun _ htemp => absurd htemp List.not_mem_nil
    · exact fun _ htemp => absurd htemp List.not_mem_nil
    · intro temp htemporary hsome
      exact .inr (List.mem_append.mpr (hs.left temp htemporary hsome))

/-- The store shows what the files that come into being at once are, however the writers take turns. -/
theorem run_shows (s : Store π β) (a : Published π β) (actions : List (Action π β))
    (hs : Shows temporary s a) (hrun : Runs.Allowed step (Proper temporary) s actions) :
    Shows temporary (actions.foldl step s) (actions.foldl publish a) := by
  induction actions generalizing s a with
  | nil => exact hs
  | cons action rest ih => exact ih _ _ (step_shows s a action hs hrun.1) hrun.2

end Steps

end Glassbeetle.AtomicFiles
