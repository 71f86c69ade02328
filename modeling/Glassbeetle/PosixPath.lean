import Glassbeetle.JsText

set_option autoImplicit false

/-!
# POSIX path resolution

An absolute path is its segments from the file system's root down; `.` and the
empty segment stay where they are and `..` goes up, the root being its own
parent.
-/
namespace Glassbeetle.PosixPath
open JsText

def slash : CodeUnit := 0x2F
def dot : JsString := js "."
def dotDot : JsString := js ".."

/-- A name of one directory entry. -/
def Plain (s : JsString) : Prop := s ≠ [] ∧ slash ∉ s ∧ s ≠ dot ∧ s ≠ dotDot

instance (s : JsString) : Decidable (Plain s) := inferInstanceAs (Decidable (_ ∧ _ ∧ _ ∧ _))

def components (path : JsString) : List JsString := (path.splitOn slash).filter (· ≠ [])

def step (stack : List JsString) (segment : JsString) : List JsString :=
  if segment = dot then stack
  else if segment = dotDot then stack.dropLast
  else stack ++ [segment]

def normalise (stack segments : List JsString) : List JsString := segments.foldl step stack

def absolute (segments : List JsString) : JsString := slash :: join [slash] segments

def isAbsolute (path : JsString) : Bool := startsWith path [slash]

/-- An absolute argument discards what stands before it, an empty one changes nothing. -/
def construct (cwd : JsString) (paths : List JsString) : JsString :=
  paths.foldl (fun before path =>
    if path = [] then before
    else if isAbsolute path then path
    else before ++ slash :: path) cwd

def resolved (cwd : JsString) (paths : List JsString) : List JsString :=
  normalise [] (components (construct cwd paths))

/-- `path.resolve(...paths)` in a process whose working directory is `cwd`. -/
def resolve (cwd : JsString) (paths : List JsString) : JsString := absolute (resolved cwd paths)

def shared : List JsString → List JsString → ℕ
  | a :: as, b :: bs => if a = b then shared as bs + 1 else 0
  | _, _ => 0

/-- Up to the deepest common directory, then down to the target. -/
def climb (start target : List JsString) : List JsString :=
  List.replicate (start.length - shared start target) dotDot ++ target.drop (shared start target)

def relative (cwd start target : JsString) : JsString :=
  join [slash] (climb (components (resolve cwd [start])) (components (resolve cwd [target])))

def joinPath (base name : JsString) : JsString :=
  absolute (normalise [] (components (base ++ slash :: name)))

theorem mem_splitOnP {α : Type} (p : α → Bool) (xs s : List α) (h : s ∈ xs.splitOnP p) :
    ∀ c ∈ s, p c = false ∧ c ∈ xs := by
  induction xs generalizing s with
  | nil =>
    obtain rfl : s = [] := by simpa using h
    simp
  | cons x xs ih =>
    rw [List.splitOnP_cons_eq_if_modifyHead] at h
    split_ifs at h with hx
    · rcases List.mem_cons.mp h with rfl | h
      · simp
      · exact fun c hc => ⟨(ih s h c hc).1, List.mem_cons_of_mem _ (ih s h c hc).2⟩
    · obtain ⟨first, rest, he⟩ := List.exists_cons_of_ne_nil (List.splitOnP_ne_nil p xs)
      rw [he, List.modifyHead_cons] at h
      rcases List.mem_cons.mp h with rfl | h
      · intro c hc
        rcases List.mem_cons.mp hc with rfl | hc
        · exact ⟨by simpa using hx, List.mem_cons_self⟩
        · have old := ih first (he ▸ List.mem_cons_self) c hc
          exact ⟨old.1, List.mem_cons_of_mem _ old.2⟩
      · intro c hc
        have old := ih s (he ▸ List.mem_cons_of_mem _ h) c hc
        exact ⟨old.1, List.mem_cons_of_mem _ old.2⟩

theorem component_shape (path s : JsString) (h : s ∈ components path) : s ≠ [] ∧ slash ∉ s := by
  obtain ⟨hm, hs⟩ := List.mem_filter.mp h
  rw [List.splitOn_eq_splitOnP] at hm
  exact ⟨by simpa using hs, fun hslash => by simpa using (mem_splitOnP _ _ _ hm _ hslash).1⟩

theorem components_single (s : JsString) (hs : s ≠ []) (h : slash ∉ s) : components s = [s] := by
  rw [components, List.splitOn_eq_singleton h]
  simp [hs]

theorem components_append (a b : JsString) :
    components (a ++ slash :: b) = components a ++ components b := by
  simp only [components, List.splitOn_append_cons_self, List.filter_append]

theorem components_slash (a : JsString) : components (slash :: a) = components a := by
  simpa [components] using components_append [] a

theorem join_cons (s t : JsString) (rest : List JsString) :
    join [slash] (s :: t :: rest) = s ++ slash :: join [slash] (t :: rest) := by
  simp [join, List.intercalate, List.intersperse]

theorem components_join (segments : List JsString) (h : ∀ s ∈ segments, s ≠ [] ∧ slash ∉ s) :
    components (join [slash] segments) = segments := by
  induction segments with
  | nil => rfl
  | cons s rest ih =>
    have hs := h s List.mem_cons_self
    have old := ih fun t ht => h t (List.mem_cons_of_mem _ ht)
    cases rest with
    | nil => simpa [join] using components_single s hs.1 hs.2
    | cons t rest => rw [join_cons, components_append, components_single s hs.1 hs.2, old]; rfl

theorem components_absolute (segments : List JsString) (h : ∀ s ∈ segments, Plain s) :
    components (absolute segments) = segments := by
  rw [absolute, components_slash]
  exact components_join segments fun s hs => ⟨(h s hs).1, (h s hs).2.1⟩

theorem normalise_append (stack a b : List JsString) :
    normalise stack (a ++ b) = normalise (normalise stack a) b := List.foldl_append

theorem normalise_plain (segments stack : List JsString) (h : ∀ s ∈ segments, Plain s) :
    normalise stack segments = stack ++ segments := by
  induction segments generalizing stack with
  | nil => simp [normalise]
  | cons s rest ih =>
    have hs := h s List.mem_cons_self
    change normalise (step stack s) rest = _
    rw [ih _ fun t ht => h t (List.mem_cons_of_mem _ ht), step, if_neg hs.2.2.1, if_neg hs.2.2.2]
    simp

/-- What resolution leaves: some of the segments it started from, then names it was given. -/
theorem normalise_shape (segments stack : List JsString)
    (h : ∀ s ∈ segments, s ≠ [] ∧ slash ∉ s) : ∃ kept names,
      normalise stack segments = stack.take kept ++ names ∧
        ∀ s ∈ names, Plain s ∧ s ∈ segments := by
  induction segments using List.reverseRecOn with
  | nil => exact ⟨stack.length, [], by simp [normalise], by simp⟩
  | append_singleton rest s ih =>
    obtain ⟨kept, names, he, hn⟩ := ih fun t ht => h t (List.mem_append_left _ ht)
    have hs := h s (by simp)
    have weaken : ∀ t ∈ names, Plain t ∧ t ∈ rest ++ [s] := fun t ht =>
      ⟨(hn t ht).1, List.mem_append_left _ (hn t ht).2⟩
    rw [normalise_append, he]
    change ∃ kept' names', step (stack.take kept ++ names) s = _ ∧ _
    unfold step
    split_ifs with hd hdd
    · exact ⟨kept, names, rfl, weaken⟩
    · by_cases hempty : names = []
      · refine ⟨min kept stack.length - 1, [], ?_, by simp⟩
        rw [hempty, List.append_nil, List.append_nil, List.dropLast_eq_take, List.take_take,
          List.length_take]
        congr 1
        omega
      · exact ⟨kept, names.dropLast, List.dropLast_append_of_ne_nil hempty,
          fun t ht => weaken t (List.mem_of_mem_dropLast ht)⟩
    · refine ⟨kept, names ++ [s], List.append_assoc _ _ _, fun t ht => ?_⟩
      rcases List.mem_append.mp ht with ht | ht
      · exact weaken t ht
      · obtain rfl := List.mem_singleton.mp ht
        exact ⟨⟨hs.1, hs.2, hd, hdd⟩, by simp⟩

theorem normalise_all_plain (segments stack : List JsString)
    (h : ∀ s ∈ segments, s ≠ [] ∧ slash ∉ s) (hs : ∀ s ∈ stack, Plain s) :
    ∀ s ∈ normalise stack segments, Plain s := by
  obtain ⟨kept, names, he, hn⟩ := normalise_shape segments stack h
  intro s hm
  rcases List.mem_append.mp (he ▸ hm) with hm | hm
  · exact hs s (List.mem_of_mem_take hm)
  · exact (hn s hm).1

theorem resolved_plain (cwd : JsString) (paths : List JsString) :
    ∀ s ∈ resolved cwd paths, Plain s :=
  normalise_all_plain _ [] (fun s hs => component_shape _ s hs) (by simp)

theorem components_resolve (cwd : JsString) (paths : List JsString) :
    components (resolve cwd paths) = resolved cwd paths :=
  components_absolute _ (resolved_plain cwd paths)

theorem isAbsolute_iff (path : JsString) : isAbsolute path = true ↔ path.head? = some slash := by
  cases path with
  | nil => decide
  | cons c rest =>
    rw [isAbsolute, startsWith_iff, List.head?_cons, Option.some_inj, List.prefix_cons_iff]
    exact ⟨fun h => by simpa [eq_comm] using h, fun h => .inr ⟨[], by rw [h], List.nil_prefix⟩⟩

theorem construct_names (before : JsString) (names : List JsString)
    (h : ∀ s ∈ names, s ≠ [] ∧ slash ∉ s) :
    components (construct before names) = components before ++ names := by
  induction names generalizing before with
  | nil => simp [construct]
  | cons s rest ih =>
    have hs := h s List.mem_cons_self
    have habs : isAbsolute s ≠ true := by
      rw [Ne, isAbsolute_iff]
      intro hh
      exact hs.2 (List.mem_of_mem_head? hh)
    change components (construct (if s = [] then before else if isAbsolute s then s
      else before ++ slash :: s) rest) = _
    rw [if_neg hs.1, if_neg habs, ih _ fun t ht => h t (List.mem_cons_of_mem _ ht),
      components_append, components_single s hs.1 hs.2]
    simp

theorem resolved_below (cwd : JsString) (segments names : List JsString)
    (hp : ∀ s ∈ segments, Plain s) (h : ∀ s ∈ names, s ≠ [] ∧ slash ∉ s) :
    resolved cwd (absolute segments :: names) = normalise segments names := by
  have hc : construct cwd (absolute segments :: names) = construct (absolute segments) names := rfl
  calc resolved cwd (absolute segments :: names)
      = normalise [] (segments ++ names) := by
        rw [resolved, hc, construct_names _ _ h, components_absolute _ hp]
    _ = normalise segments names := by
        rw [normalise_append, normalise_plain _ _ hp, List.nil_append]

theorem resolved_absolute (cwd : JsString) (segments : List JsString)
    (hp : ∀ s ∈ segments, Plain s) : resolved cwd [absolute segments] = segments := by
  simpa [normalise] using resolved_below cwd segments [] hp (by simp)

theorem shared_prefix (start rest : List JsString) :
    shared start (start ++ rest) = start.length := by
  induction start with
  | nil => cases rest <;> rfl
  | cons a as ih => simp [shared, ih]

theorem shared_le (start target : List JsString) : shared start target ≤ start.length := by
  induction start generalizing target with
  | nil => simp [shared]
  | cons a as ih =>
    cases target with
    | nil => simp [shared]
    | cons b bs =>
      unfold shared
      split_ifs with h
      · exact Nat.succ_le_succ (ih bs)
      · exact Nat.zero_le _

theorem prefix_of_shared (start target : List JsString) (h : shared start target = start.length) :
    start <+: target := by
  induction start generalizing target with
  | nil => exact List.nil_prefix
  | cons a as ih =>
    cases target with
    | nil => simp [shared] at h
    | cons b bs =>
      unfold shared at h
      split_ifs at h with hab
      · exact hab ▸ List.prefix_cons_iff.mpr (.inr ⟨as, rfl, ih bs (by simpa using h)⟩)

theorem climb_below (start rest : List JsString) : climb start (start ++ rest) = rest := by
  simp [climb, shared_prefix]

/-- Outside the starting directory the way to the target begins by going up. -/
theorem climb_above (start target : List JsString) (h : ¬ start <+: target) :
    ∃ rest, climb start target = dotDot :: rest := by
  have hlt : shared start target < start.length :=
    lt_of_le_of_ne (shared_le start target) fun e => h (prefix_of_shared start target e)
  obtain ⟨n, hn⟩ : ∃ n, start.length - shared start target = n + 1 :=
    Nat.exists_eq_add_one.mpr (by omega)
  exact ⟨_, by rw [climb, hn, List.replicate_succ, List.cons_append]⟩

end Glassbeetle.PosixPath
