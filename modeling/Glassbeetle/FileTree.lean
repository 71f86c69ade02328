import Mathlib.Data.List.Basic
import Mathlib.Data.Nat.Notation

set_option autoImplicit false

/-!
# A file system with symbolic links

A tree of directories, files and links, and the resolution of paths in it: every
link met is followed, up to a limit, and `..` leads up from where one stands.
-/
namespace Glassbeetle.FileTree

variable {α : Type}

inductive Errno where
  | ENOENT
  | ENOTDIR
  | ELOOP
  deriving DecidableEq, Repr

inductive Step (α : Type) where
  | here
  | up
  | down (name : α)
  deriving DecidableEq

structure Target (α : Type) where
  absolute : Bool
  steps : List (Step α)
  deriving DecidableEq

inductive Entry (α : Type) where
  | file
  | directory
  | link (target : Target α)
  deriving DecidableEq

structure FileSystem (α : Type) [DecidableEq α] where
  entries : List (List α × Entry α)
  linkLimit : ℕ
  root : entries.lookup [] = some .directory
  parents : ∀ e ∈ entries, e.1 ≠ [] → entries.lookup e.1.dropLast = some .directory

variable [DecidableEq α]

def FileSystem.entry (fs : FileSystem α) (path : List α) : Option (Entry α) := fs.entries.lookup path

/-- One step: the next place, or a link to follow. What does not exist ends the walk, unless
`creating`, when it is taken for a directory that is yet to come. -/
def move (fs : FileSystem α) (creating : Bool) (place : List α) (step : Step α) :
    Except Errno (List α ⊕ Target α) :=
  match fs.entry place, step with
  | some .file, _ => .error .ENOTDIR
  | none, .down name => if creating then .ok (.inl (place ++ [name])) else .error .ENOENT
  | none, _ => .error .ENOENT
  | some _, .here => .ok (.inl place)
  | some _, .up => .ok (.inl place.dropLast)
  | some _, .down name =>
    match fs.entry (place ++ [name]) with
    | none => if creating then .ok (.inl (place ++ [name])) else .error .ENOENT
    | some (.link target) => .ok (.inr target)
    | some _ => .ok (.inl (place ++ [name]))

def advance (fs : FileSystem α) (creating : Bool) (left : ℕ)
    (follow : List α → List (Step α) → Except Errno (List α × ℕ)) :
    List α → List (Step α) → Except Errno (List α × ℕ)
  | place, [] => .ok (place, left)
  | place, step :: rest =>
    match move fs creating place step with
    | .error e => .error e
    | .ok (.inl next) => advance fs creating left follow next rest
    | .ok (.inr target) => follow (if target.absolute then [] else place) (target.steps ++ rest)

def walk (fs : FileSystem α) (creating : Bool) :
    ℕ → List α → List (Step α) → Except Errno (List α × ℕ)
  | 0 => advance fs creating 0 fun _ _ => .error .ELOOP
  | n + 1 => advance fs creating (n + 1) (walk fs creating n)

def realpath (fs : FileSystem α) (path : List α) : Except Errno (List α) :=
  (walk fs false fs.linkLimit [] (path.map .down)).map (·.1)

def leads (fs : FileSystem α) (path : List α) : Except Errno (List α) :=
  (walk fs true fs.linkLimit [] (path.map .down)).map (·.1)

def lstat (fs : FileSystem α) (path : List α) : Except Errno (Entry α) :=
  match path.getLast? with
  | none => .ok .directory
  | some name => do
    let (directory, _) ← walk fs false fs.linkLimit [] (path.dropLast.map .down)
    match fs.entry directory with
    | some .directory =>
      match fs.entry (directory ++ [name]) with
      | some entry => return entry
      | none => throw .ENOENT
    | some .file => throw .ENOTDIR
    | _ => throw .ENOENT

def entryPlace (fs : FileSystem α) (path : List α) : Except Errno (List α) :=
  match path.getLast? with
  | none => .ok []
  | some name => (realpath fs path.dropLast).map (· ++ [name])

theorem lookup_filter_ne (entries : List (List α × Entry α)) (place path : List α)
    (h : path ≠ place) : (entries.filter (·.1 ≠ place)).lookup path = entries.lookup path := by
  induction entries with
  | nil => rfl
  | cons e rest ih =>
    rw [List.filter_cons]
    by_cases he : e.1 = place
    · rw [if_neg (by simpa using he), ih, List.lookup_cons, beq_false_of_ne (he ▸ h)]
    · rw [if_pos (by simpa using he), List.lookup_cons, List.lookup_cons, ih]

def remove (fs : FileSystem α) (place : List α) (h : fs.entry place ≠ some .directory) :
    FileSystem α where
  entries := fs.entries.filter (·.1 ≠ place)
  linkLimit := fs.linkLimit
  root := by
    have hne : [] ≠ place := fun heq => h (heq ▸ fs.root)
    rw [lookup_filter_ne _ _ _ hne]
    exact fs.root
  parents := by
    intro e he hne
    have hparent := fs.parents e (List.mem_filter.mp he).1 hne
    have hother : e.1.dropLast ≠ place := fun heq => h (heq ▸ hparent)
    rw [lookup_filter_ne _ _ _ hother]
    exact hparent

def unlink (fs : FileSystem α) (place : List α) : FileSystem α :=
  if h : fs.entry place ≠ some .directory then remove fs place h else fs

theorem entry_parent (fs : FileSystem α) (place : List α) (name : α) (entry : Entry α)
    (h : fs.entry (place ++ [name]) = some entry) : fs.entry place = some .directory := by
  obtain ⟨before, after, hentries, -⟩ := List.lookup_eq_some_iff.mp h
  have hmem : (place ++ [name], entry) ∈ fs.entries := by simp [hentries]
  have hparent := fs.parents _ hmem (by simp)
  rwa [List.dropLast_concat] at hparent

theorem entry_below_missing (fs : FileSystem α) (place : List α) (name : α)
    (h : fs.entry place = none) : fs.entry (place ++ [name]) = none := by
  rw [Option.eq_none_iff_forall_ne_some]
  intro entry hentry
  rw [entry_parent fs place name entry hentry] at h
  cases h

theorem advance_append (fs : FileSystem α) (creating : Bool) (left : ℕ)
    (follow : List α → List (Step α) → Except Errno (List α × ℕ)) (ys : List (Step α))
    (resume : List α × ℕ → Except Errno (List α × ℕ))
    (hfollow : ∀ place xs, follow place (xs ++ ys) = follow place xs >>= resume)
    (hresume : ∀ place, resume (place, left) = advance fs creating left follow place ys)
    (place : List α) (xs : List (Step α)) :
    advance fs creating left follow place (xs ++ ys) =
      advance fs creating left follow place xs >>= resume := by
  induction xs generalizing place with
  | nil => exact (hresume place).symm
  | cons step rest ih =>
    rw [List.cons_append, advance, advance]
    cases move fs creating place step with
    | error e => rfl
    | ok next =>
      cases next with
      | inl next => exact ih next
      | inr target =>
        dsimp only
        rw [← List.append_assoc]
        exact hfollow _ _

theorem walk_append (fs : FileSystem α) (creating : Bool) (n : ℕ) (place : List α)
    (xs ys : List (Step α)) :
    walk fs creating n place (xs ++ ys) =
      walk fs creating n place xs >>= fun p => walk fs creating p.2 p.1 ys := by
  induction n generalizing place xs with
  | zero => exact advance_append fs creating 0 _ ys _ (fun _ _ => rfl) (fun _ => rfl) place xs
  | succ n ih =>
    exact advance_append fs creating (n + 1) _ ys _ (fun place xs => ih place xs) (fun _ => rfl)
      place xs

theorem move_modes (fs : FileSystem α) (place : List α) (step : Step α) :
    move fs true place step = move fs false place step ∨
      ∃ name, fs.entry (place ++ [name]) = none ∧ move fs false place step = .error .ENOENT ∧
        move fs true place step = .ok (.inl (place ++ [name])) := by
  cases hplace : fs.entry place with
  | none =>
    cases step with
    | down name =>
      refine .inr ⟨name, entry_below_missing fs place name hplace, ?_, ?_⟩
      · simp [move, hplace]
      · simp [move, hplace]
    | here => exact .inl (by simp [move, hplace])
    | up => exact .inl (by simp [move, hplace])
  | some entry =>
    cases entry with
    | file => exact .inl (by simp [move, hplace])
    | link target | directory =>
      cases step with
      | here => exact .inl (by simp [move, hplace])
      | up => exact .inl (by simp [move, hplace])
      | down name =>
        cases hname : fs.entry (place ++ [name]) with
        | none => exact .inr ⟨name, hname, by simp [move, hplace, hname],
            by simp [move, hplace, hname]⟩
        | some found => exact .inl (by cases found <;> simp [move, hplace, hname])

theorem advance_creating (fs : FileSystem α) (left : ℕ)
    (strict lenient : List α → List (Step α) → Except Errno (List α × ℕ)) (p : List α × ℕ)
    (hfollow : ∀ place xs, strict place xs = .ok p → lenient place xs = .ok p)
    (place : List α) (xs : List (Step α)) (h : advance fs false left strict place xs = .ok p) :
    advance fs true left lenient place xs = .ok p := by
  induction xs generalizing place with
  | nil => exact h
  | cons step rest ih =>
    rw [advance] at h ⊢
    rcases move_modes fs place step with hsame | ⟨name, -, hstrict, -⟩
    · rw [hsame]
      cases hmove : move fs false place step with
      | error e =>
        rw [hmove] at h
        cases h
      | ok next =>
        rw [hmove] at h
        cases next with
        | inl next => exact ih next h
        | inr target => exact hfollow _ _ h
    · rw [hstrict] at h
      cases h

theorem walk_creating (fs : FileSystem α) (n : ℕ) (place : List α) (xs : List (Step α))
    (p : List α × ℕ) (h : walk fs false n place xs = .ok p) : walk fs true n place xs = .ok p := by
  induction n generalizing place xs with
  | zero => exact advance_creating fs 0 _ _ p (fun _ _ h => h) place xs h
  | succ n ih => exact advance_creating fs (n + 1) _ _ p ih place xs h

theorem advance_missing (fs : FileSystem α) (left : ℕ)
    (follow : List α → List (Step α) → Except Errno (List α × ℕ)) (place : List α)
    (xs : List (Step α)) (p : List α × ℕ) (hplace : fs.entry place = none)
    (h : advance fs true left follow place xs = .ok p) : fs.entry p.1 = none := by
  induction xs generalizing place with
  | nil =>
    obtain rfl := Except.ok.inj h
    exact hplace
  | cons step rest ih =>
    rw [advance] at h
    cases step with
    | here => simp [move, hplace] at h
    | up => simp [move, hplace] at h
    | down name =>
      have hmove : move fs true place (.down name) = .ok (.inl (place ++ [name])) := by
        simp [move, hplace]
      rw [hmove] at h
      exact ih _ (entry_below_missing fs place name hplace) h

theorem advance_existing (fs : FileSystem α) (left : ℕ)
    (strict lenient : List α → List (Step α) → Except Errno (List α × ℕ)) (p : List α × ℕ)
    (hp : fs.entry p.1 ≠ none)
    (hfollow : ∀ place xs, lenient place xs = .ok p → strict place xs = .ok p)
    (place : List α) (xs : List (Step α)) (h : advance fs true left lenient place xs = .ok p) :
    advance fs false left strict place xs = .ok p := by
  induction xs generalizing place with
  | nil => exact h
  | cons step rest ih =>
    rw [advance] at h ⊢
    rcases move_modes fs place step with hsame | ⟨name, hname, -, hlenient⟩
    · rw [hsame] at h
      cases hmove : move fs false place step with
      | error e =>
        rw [hmove] at h
        cases h
      | ok next =>
        rw [hmove] at h
        cases next with
        | inl next => exact ih next h
        | inr target => exact hfollow _ _ h
    · rw [hlenient] at h
      exact absurd (advance_missing fs left lenient _ rest p hname h) hp

theorem walk_existing (fs : FileSystem α) (n : ℕ) (place : List α) (xs : List (Step α))
    (p : List α × ℕ) (hp : fs.entry p.1 ≠ none) (h : walk fs true n place xs = .ok p) :
    walk fs false n place xs = .ok p := by
  induction n generalizing place xs with
  | zero => exact advance_existing fs 0 _ _ p hp (fun _ _ h => h) place xs h
  | succ n ih => exact advance_existing fs (n + 1) _ _ p hp ih place xs h

theorem realpath_walk (fs : FileSystem α) (path real : List α) :
    realpath fs path = .ok real ↔
      ∃ left, walk fs false fs.linkLimit [] (path.map .down) = .ok (real, left) := by
  unfold realpath
  cases walk fs false fs.linkLimit [] (path.map .down) with
  | error e => simp [Except.map]
  | ok p => simp [Except.map, Prod.ext_iff]

theorem leads_walk (fs : FileSystem α) (path place : List α) :
    leads fs path = .ok place ↔
      ∃ left, walk fs true fs.linkLimit [] (path.map .down) = .ok (place, left) := by
  unfold leads
  cases walk fs true fs.linkLimit [] (path.map .down) with
  | error e => simp [Except.map]
  | ok p => simp [Except.map, Prod.ext_iff]

theorem leads_realpath (fs : FileSystem α) (path real : List α)
    (h : realpath fs path = .ok real) : leads fs path = .ok real := by
  obtain ⟨left, hwalk⟩ := (realpath_walk fs path real).mp h
  exact (leads_walk fs path real).mpr ⟨left, walk_creating fs _ _ _ _ hwalk⟩

theorem walk_prefix (fs : FileSystem α) (creating : Bool) (path rest : List α) (p : List α × ℕ)
    (h : walk fs creating fs.linkLimit [] ((path ++ rest).map .down) = .ok p) :
    ∃ q, walk fs creating fs.linkLimit [] (path.map .down) = .ok q ∧
      walk fs creating q.2 q.1 (rest.map .down) = .ok p := by
  rw [List.map_append, walk_append] at h
  cases hq : walk fs creating fs.linkLimit [] (path.map .down) with
  | error e =>
    rw [hq] at h
    cases h
  | ok q =>
    rw [hq] at h
    exact ⟨q, rfl, h⟩

theorem realpath_prefix (fs : FileSystem α) (path rest real : List α)
    (h : realpath fs (path ++ rest) = .ok real) : ∃ above, realpath fs path = .ok above := by
  obtain ⟨left, hwalk⟩ := (realpath_walk fs _ real).mp h
  obtain ⟨q, hq, -⟩ := walk_prefix fs false path rest _ hwalk
  exact ⟨q.1, (realpath_walk fs path q.1).mpr ⟨q.2, hq⟩⟩

theorem entryPlace_of_realpath (fs : FileSystem α) (path real : List α)
    (h : realpath fs path = .ok real) : ∃ place, entryPlace fs path = .ok place := by
  unfold entryPlace
  cases hname : path.getLast? with
  | none => exact ⟨[], rfl⟩
  | some name =>
    obtain ⟨above, rfl⟩ := List.getLast?_eq_some_iff.mp hname
    obtain ⟨place, hplace⟩ := realpath_prefix fs above [name] real h
    dsimp only
    rw [List.dropLast_concat, hplace]
    exact ⟨place ++ [name], rfl⟩

theorem lstat_name (fs : FileSystem α) (path place : List α) (name : α) (left : ℕ)
    (h : walk fs false fs.linkLimit [] (path.map .down) = .ok (place, left)) (entry : Entry α)
    (hentry : fs.entry (place ++ [name]) = some entry) :
    lstat fs (path ++ [name]) = .ok entry := by
  unfold lstat
  rw [List.getLast?_concat, List.dropLast_concat, h]
  simp [bind, Except.bind, entry_parent fs place name entry hentry, hentry, pure, Except.pure]

theorem move_down (fs : FileSystem α) (place : List α) (name : α) (next : List α ⊕ Target α)
    (h : move fs true place (.down name) = .ok next) :
    next = .inl (place ++ [name]) ∨
      ∃ target, fs.entry (place ++ [name]) = some (.link target) := by
  cases hname : fs.entry (place ++ [name]) with
  | none =>
    refine .inl ?_
    cases hplace : fs.entry place with
    | none => simpa [move, hplace, eq_comm] using h
    | some entry => cases entry <;> simp_all [move]
  | some found =>
    have hplace := entry_parent fs place name found hname
    cases found with
    | link target => exact .inr ⟨target, rfl⟩
    | file => exact .inl (by simpa [move, hplace, hname, eq_comm] using h)
    | directory => exact .inl (by simpa [move, hplace, hname, eq_comm] using h)

theorem advance_name (fs : FileSystem α) (left : ℕ)
    (follow : List α → List (Step α) → Except Errno (List α × ℕ)) (place : List α) (name : α)
    (p : List α × ℕ) (h : advance fs true left follow place [.down name] = .ok p) :
    p.1 = place ++ [name] ∨ ∃ target, fs.entry (place ++ [name]) = some (.link target) := by
  rw [advance] at h
  cases hmove : move fs true place (.down name) with
  | error e =>
    rw [hmove] at h
    cases h
  | ok next =>
    rcases move_down fs place name next hmove with rfl | hlink
    · rw [hmove] at h
      obtain rfl := Except.ok.inj h
      exact .inl rfl
    · exact .inr hlink

theorem leads_name (fs : FileSystem α) (path place : List α) (name : α)
    (h : leads fs (path ++ [name]) = .ok place) : ∃ above, leads fs path = .ok above ∧
      (place = above ++ [name] ∨ ∃ target, lstat fs (path ++ [name]) = .ok (.link target)) := by
  obtain ⟨left, hwalk⟩ := (leads_walk fs _ place).mp h
  obtain ⟨⟨above, n⟩, habove, hlast⟩ := walk_prefix fs true path [name] _ hwalk
  refine ⟨above, (leads_walk fs path above).mpr ⟨n, habove⟩, ?_⟩
  have hname : place = above ++ [name] ∨
      ∃ target, fs.entry (above ++ [name]) = some (.link target) := by
    cases n with
    | zero => exact advance_name fs _ _ above name _ hlast
    | succ n => exact advance_name fs _ _ above name _ hlast
  rcases hname with hplace | ⟨target, htarget⟩
  · exact .inl hplace
  · have hexists : fs.entry above ≠ none := by
      rw [entry_parent fs above name _ htarget]
      simp
    exact .inr ⟨target, lstat_name fs path above name n
      (walk_existing fs _ _ _ (above, n) hexists habove) _ htarget⟩

section Pruning

structure Pruned (fs after : FileSystem α) : Prop where
  linkLimit : after.linkLimit = fs.linkLimit
  entry : ∀ path entry, after.entry path = some entry → fs.entry path = some entry
  directory : ∀ path, fs.entry path = some .directory → after.entry path = some .directory

theorem Pruned.refl (fs : FileSystem α) : Pruned fs fs := ⟨rfl, fun _ _ h => h, fun _ h => h⟩

theorem unlink_pruned (fs : FileSystem α) (place : List α) : Pruned fs (unlink fs place) := by
  unfold unlink
  split_ifs with hplace
  · refine ⟨rfl, fun path entry h => ?_, fun path h => ?_⟩
    · by_cases hpath : path = place
      · obtain ⟨before, rest, hentries, -⟩ := List.lookup_eq_some_iff.mp h
        have hmem : (path, entry) ∈ fs.entries.filter (·.1 ≠ place) := by
          change fs.entries.filter (·.1 ≠ place) = _ at hentries
          rw [hentries]
          simp
        exact absurd hpath (of_decide_eq_true (List.mem_filter.mp hmem).2)
      · exact (lookup_filter_ne fs.entries place path hpath).symm.trans h
    · have hpath : path ≠ place := fun heq => hplace (heq ▸ h)
      exact (lookup_filter_ne fs.entries place path hpath).trans h
  · exact .refl fs

variable {fs after : FileSystem α} (h : Pruned fs after)
include h

theorem move_pruned (place : List α) (step : Step α) (next : List α ⊕ Target α)
    (hmove : move after false place step = .ok next) : move fs false place step = .ok next := by
  cases hplace : after.entry place with
  | none => cases step <;> simp [move, hplace] at hmove
  | some entry =>
    have hplace' := h.entry place entry hplace
    cases entry with
    | file => simp [move, hplace] at hmove
    | link target | directory =>
      cases step with
      | here => simpa [move, hplace, hplace'] using hmove
      | up => simpa [move, hplace, hplace'] using hmove
      | down name =>
        cases hname : after.entry (place ++ [name]) with
        | none => simp [move, hplace, hname] at hmove
        | some found =>
          have hname' := h.entry _ found hname
          cases found <;> simpa [move, hplace, hplace', hname, hname'] using hmove

theorem advance_pruned (left : ℕ)
    (follow follow' : List α → List (Step α) → Except Errno (List α × ℕ)) (p : List α × ℕ)
    (hfollow : ∀ place xs, follow' place xs = .ok p → follow place xs = .ok p)
    (place : List α) (xs : List (Step α)) (hwalk : advance after false left follow' place xs = .ok p) :
    advance fs false left follow place xs = .ok p := by
  induction xs generalizing place with
  | nil => exact hwalk
  | cons step rest ih =>
    rw [advance] at hwalk ⊢
    cases hmove : move after false place step with
    | error e =>
      rw [hmove] at hwalk
      cases hwalk
    | ok next =>
      rw [hmove] at hwalk
      rw [move_pruned h place step next hmove]
      cases next with
      | inl next => exact ih next hwalk
      | inr target => exact hfollow _ _ hwalk

theorem walk_pruned (n : ℕ) (place : List α) (xs : List (Step α)) (p : List α × ℕ)
    (hwalk : walk after false n place xs = .ok p) : walk fs false n place xs = .ok p := by
  induction n generalizing place xs with
  | zero => exact advance_pruned h 0 _ _ p (fun _ _ hwalk => hwalk) place xs hwalk
  | succ n ih => exact advance_pruned h (n + 1) _ _ p ih place xs hwalk

theorem realpath_pruned (path real : List α) (hreal : realpath after path = .ok real) :
    realpath fs path = .ok real := by
  obtain ⟨left, hwalk⟩ := (realpath_walk after path real).mp hreal
  exact (realpath_walk fs path real).mpr ⟨left, h.linkLimit ▸ walk_pruned h _ _ _ _ hwalk⟩

theorem entryPlace_pruned (path place : List α) (hplace : entryPlace after path = .ok place) :
    entryPlace fs path = .ok place := by
  unfold entryPlace at hplace ⊢
  cases hname : path.getLast? with
  | none =>
    rw [hname] at hplace
    exact hplace
  | some name =>
    rw [hname] at hplace
    dsimp only at hplace ⊢
    cases hreal : realpath after path.dropLast with
    | error e =>
      rw [hreal] at hplace
      cases hplace
    | ok real =>
      rw [hreal] at hplace
      rw [realpath_pruned h _ real hreal]
      exact hplace

omit h in
theorem advance_down (left : ℕ)
    (follow : List α → List (Step α) → Except Errno (List α × ℕ)) (place : List α) (name : α)
    (p : List α × ℕ) (hwalk : advance fs false left follow place [.down name] = .ok p) :
    ∃ entry, fs.entry (place ++ [name]) = some entry := by
  rw [← Option.ne_none_iff_exists']
  intro hname
  rw [advance] at hwalk
  have hmove : ∀ next, move fs false place (.down name) ≠ .ok next := by
    intro next
    cases hplace : fs.entry place with
    | none => simp [move, hplace]
    | some entry => cases entry <;> simp [move, hplace, hname]
  cases hnext : move fs false place (.down name) with
  | error e =>
    rw [hnext] at hwalk
    cases hwalk
  | ok next => exact hmove next hnext

theorem lstat_pruned (path real : List α) (hreal : realpath after path = .ok real) :
    ∃ entry, lstat after path = .ok entry ∧ lstat fs path = .ok entry := by
  obtain rfl | ⟨above, name, rfl⟩ := List.eq_nil_or_concat path
  · exact ⟨.directory, rfl, rfl⟩
  · rw [List.concat_eq_append] at hreal ⊢
    obtain ⟨left, hwalk⟩ := (realpath_walk after _ real).mp hreal
    obtain ⟨⟨place, n⟩, habove, hlast⟩ := walk_prefix after false above [name] _ hwalk
    have hentry : ∃ entry, after.entry (place ++ [name]) = some entry := by
      cases n with
      | zero => exact advance_down _ _ place name _ hlast
      | succ n => exact advance_down _ _ place name _ hlast
    obtain ⟨entry, hentry⟩ := hentry
    exact ⟨entry, lstat_name after above place name n habove entry hentry,
      lstat_name fs above place name n (h.linkLimit ▸ walk_pruned h _ _ _ _ habove) entry
        (h.entry _ entry hentry)⟩

end Pruning

end Glassbeetle.FileTree
