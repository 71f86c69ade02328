import Glassbeetle.StoragePaths

set_option autoImplicit false

namespace Glassbeetle.StorageContainment
open JsText PosixPath UriDecoding Identifiers StoragePaths

/-- A leading separator, or a drive letter with its colon at the end of a segment. -/
def Rooted (decoded : JsString) : Prop :=
  (∃ c rest, decoded = c :: rest ∧ isSeparator c = true) ∨
    ∃ letter rest, decoded = letter :: colon :: rest ∧ isLetter letter = true ∧
      ∀ c ∈ rest.head?, isSeparator c = true

/-- The decoded form of an acceptable reference. -/
def Decodes (reference decoded : JsString) : Prop :=
  trim reference ≠ [] ∧ 0 ∉ reference ∧ decodeURIComponent reference = some decoded ∧
    0 ∉ decoded ∧ ¬ Rooted decoded

def StaysInside (root : List JsString) (allowRoot : Bool) (decoded : JsString) : Prop :=
  ∃ below, normalise root (segments decoded) = root ++ below ∧ (below = [] → allowRoot = true)

/-- `path` names an entry below `root`, segment by segment. -/
def StrictlyBelow (root path : JsString) : Prop :=
  ∃ below, below ≠ [] ∧ (∀ s ∈ below, Plain s) ∧
    path = absolute (components root ++ below)

theorem includes_unit (s : JsString) (c : CodeUnit) : includes s [c] = true ↔ c ∈ s := by
  rw [includes_iff, List.singleton_infix_iff]

theorem startsWith_unit (s : JsString) (c : CodeUnit) :
    startsWith s [c] = true ↔ ∃ rest, s = c :: rest := by
  rw [startsWith_iff]
  exact ⟨fun ⟨t, ht⟩ => ⟨t, ht.symm⟩, fun ⟨t, ht⟩ => ⟨t, ht.symm⟩⟩

theorem startsWith_shorten (s : JsString) (c : CodeUnit) (rest : JsString)
    (h : startsWith s (c :: rest) = true) : startsWith s [c] = true := by
  rw [startsWith_iff] at h ⊢
  exact (List.prefix_append [c] rest).trans h

theorem rooted_iff (d : JsString) :
    (startsWith d (js "/") || startsWith d (js "\\") || startsWith d (js "//") ||
      startsWith d (js "\\\\") || drivePath d || driveLetter d) = true ↔ Rooted d := by
  have h1 : js "/" = [slash] := by decide
  have h2 : js "\\" = [backslash] := by decide
  have h3 : js "//" = [slash, slash] := by decide
  have h4 : js "\\\\" = [backslash, backslash] := by decide
  rw [h1, h2, h3, h4]
  simp only [Bool.or_eq_true]
  constructor
  · rintro (((((h | h) | h) | h) | h) | h)
    · obtain ⟨rest, rfl⟩ := (startsWith_unit _ _).mp h
      exact .inl ⟨_, rest, rfl, by decide⟩
    · obtain ⟨rest, rfl⟩ := (startsWith_unit _ _).mp h
      exact .inl ⟨_, rest, rfl, by decide⟩
    · obtain ⟨rest, rfl⟩ := (startsWith_unit _ _).mp (startsWith_shorten _ _ _ h)
      exact .inl ⟨_, rest, rfl, by decide⟩
    · obtain ⟨rest, rfl⟩ := (startsWith_unit _ _).mp (startsWith_shorten _ _ _ h)
      exact .inl ⟨_, rest, rfl, by decide⟩
    · match d, h with
      | letter :: mark :: c :: rest, h =>
        simp only [drivePath, Bool.and_eq_true, beq_iff_eq] at h
        exact .inr ⟨letter, c :: rest, by rw [h.1.2], h.1.1, by simpa using h.2⟩
    · match d, h with
      | [letter, mark], h =>
        simp only [driveLetter, Bool.and_eq_true, beq_iff_eq] at h
        exact .inr ⟨letter, [], by rw [h.2], h.1, by simp⟩
  · rintro (⟨c, rest, rfl, hc⟩ | ⟨letter, rest, rfl, hl, hr⟩)
    · simp only [isSeparator, Bool.or_eq_true, beq_iff_eq] at hc
      rcases hc with rfl | rfl
      · exact .inl (.inl (.inl (.inl (.inl ((startsWith_unit _ _).mpr ⟨rest, rfl⟩)))))
      · exact .inl (.inl (.inl (.inl (.inr ((startsWith_unit _ _).mpr ⟨rest, rfl⟩)))))
    · cases rest with
      | nil => exact .inr (by simp [driveLetter, hl])
      | cons c rest => exact .inl (.inr (by simpa [drivePath, hl] using hr))

/-- The check for `%00` in the raw text refuses nothing the decoded text would not. -/
theorem assertSafeReference_ok (reference decoded : JsString) :
    assertSafeReference reference = .ok decoded ↔ Decodes reference decoded := by
  unfold assertSafeReference Decodes
  split_ifs with hblank hnull
  · simp [hblank]
  · simp only [false_iff, not_and]
    intro _ hraw hd hz
    rcases Bool.or_eq_true_iff.mp hnull with h | h
    · exact absurd ((includes_unit _ _).mp h) hraw
    · exact absurd (decode_zero _ _ hd ((includes_iff _ _).mp h)) hz
  · have hraw : 0 ∉ reference := fun h => hnull (by simp [(includes_unit _ _).mpr h])
    cases hd : decodeURIComponent reference with
    | none => simp
    | some d =>
      dsimp only
      split_ifs with hz hroot
      · have hz := (includes_unit _ _).mp hz
        simp only [Option.some.injEq, false_iff, not_and]
        rintro _ _ rfl hd0
        exact absurd hz hd0
      · have hroot := (rooted_iff d).mp hroot
        simp only [Option.some.injEq, false_iff, not_and, not_not]
        rintro _ _ rfl _
        exact hroot
      · have hz : 0 ∉ d := fun h => hz ((includes_unit _ _).mpr h)
        have hroot : ¬ Rooted d := fun h => hroot ((rooted_iff d).mpr h)
        simp only [Except.ok.injEq, Option.some.injEq]
        exact ⟨fun e => by subst e; exact ⟨hblank, hraw, rfl, hz, hroot⟩, fun h => h.2.2.1⟩

theorem segment_shape (decoded s : JsString) (h : s ∈ segments decoded) :
    s ≠ [] ∧ slash ∉ s ∧ backslash ∉ s := by
  obtain ⟨hm, hs⟩ := List.mem_filter.mp h
  have old := mem_splitOnP _ _ _ hm
  exact ⟨by simpa using hs, fun hc => by simpa [isSeparator] using (old _ hc).1,
    fun hc => by simpa [isSeparator] using (old _ hc).1⟩

theorem segment_length (decoded s : JsString) (h : s ∈ segments decoded) :
    s.length ≤ decoded.length := by
  have hm : s ∈ decoded.splitOnP isSeparator := (List.mem_filter.mp h).1
  clear h
  induction decoded generalizing s with
  | nil =>
    obtain rfl : s = [] := by simpa using hm
    simp
  | cons x xs ih =>
    rw [List.splitOnP_cons_eq_if_modifyHead] at hm
    obtain ⟨first, rest, he⟩ := List.exists_cons_of_ne_nil (List.splitOnP_ne_nil isSeparator xs)
    split_ifs at hm
    · rcases List.mem_cons.mp hm with rfl | hm
      · simp
      · exact (ih s hm).trans (by simp)
    · rw [he, List.modifyHead_cons] at hm
      rcases List.mem_cons.mp hm with rfl | hm
      · exact Nat.succ_le_succ (ih first (he ▸ List.mem_cons_self))
      · exact (ih s (he ▸ List.mem_cons_of_mem _ hm)).trans (by simp)

theorem relative_absolute (cwd : JsString) (start target : List JsString)
    (hs : ∀ s ∈ start, Plain s) (ht : ∀ s ∈ target, Plain s) :
    relative cwd (absolute start) (absolute target) = join [slash] (climb start target) := by
  rw [relative, components_resolve, components_resolve, resolved_absolute _ _ hs,
    resolved_absolute _ _ ht]

theorem join_eq_nil (segments : List JsString) (h : ∀ s ∈ segments, s ≠ []) :
    join [slash] segments = [] ↔ segments = [] := by
  match segments, h with
  | [], _ => simp [join]
  | [s], h => simp [join, h s]
  | s :: t :: rest, h => simp [join_cons]

theorem escapes_below (below : List JsString) (allowRoot : Bool) (hp : ∀ s ∈ below, Plain s)
    (hb : ∀ s ∈ below, backslash ∉ s) :
    escapes (join [slash] below) allowRoot = true ↔ below = [] ∧ allowRoot = false := by
  have hc : components (join [slash] below) = below :=
    components_join below fun s hs => ⟨(hp s hs).1, (hp s hs).2.1⟩
  have hnil : join [slash] below = [] ↔ below = [] := join_eq_nil _ fun s hs => (hp s hs).1
  have hdots : join [slash] below ≠ js ".." := by
    intro e
    have hd : components (js "..") = [dotDot] := by decide
    exact (hp dotDot (by rw [← hc, e, hd]; exact List.mem_cons_self)).2.2.2 rfl
  have hup : startsWith (join [slash] below) (js "../") ≠ true := by
    rw [Ne, startsWith_iff]
    rintro ⟨rest, he⟩
    have hs : js "../" ++ rest = dotDot ++ slash :: rest := by
      rw [show js "../" = dotDot ++ [slash] by decide, List.append_assoc]; rfl
    have hd : components dotDot = [dotDot] := by decide
    have hm : dotDot ∈ components (join [slash] below) := by
      rw [← he, hs, components_append, hd]
      exact List.mem_cons_self
    exact (hp dotDot (hc ▸ hm)).2.2.2 rfl
  have hback : startsWith (join [slash] below) (js "..\\") ≠ true := by
    rw [Ne, startsWith_iff]
    intro he
    have hm : backslash ∈ join [slash] below := he.subset (by decide)
    rcases mem_join _ _ _ hm with h | ⟨s, hs, h⟩
    · exact absurd h (by decide)
    · exact hb s hs h
  have habs : isAbsolute (join [slash] below) ≠ true := by
    match below, hp with
    | [], _ => decide
    | s :: rest, hp =>
      have hs := hp s List.mem_cons_self
      obtain ⟨c, tail, rfl⟩ := List.exists_cons_of_ne_nil hs.1
      rw [Ne, isAbsolute_iff]
      intro he
      have hcs : c = slash := by
        cases rest with
        | nil => simpa [join] using he
        | cons t rest => simpa [join_cons] using he
      exact hs.2.1 (by simp [hcs])
  have hsep : js ".." ++ [slash] = js "../" := by decide
  simp only [escapes, hsep, Bool.or_eq_true, Bool.and_eq_true, beq_iff_eq, Bool.not_eq_true',
    hdots, hup, hback, habs, hnil, or_false, Bool.false_eq_true]

theorem escapes_above (rest : List JsString) (allowRoot : Bool) :
    escapes (join [slash] (dotDot :: rest)) allowRoot = true := by
  cases rest with
  | nil => cases allowRoot <;> decide
  | cons s rest =>
    have hpre : startsWith (join [slash] (dotDot :: s :: rest)) (js "../") = true := by
      rw [startsWith_iff, join_cons]
      exact ⟨join [slash] (s :: rest), by simp [dotDot, js, utf16, slash]⟩
    simp [escapes, hpre]

theorem join_append (a b : List JsString) (ha : a ≠ []) (hb : b ≠ []) :
    join [slash] (a ++ b) = join [slash] a ++ slash :: join [slash] b := by
  induction a with
  | nil => exact absurd rfl ha
  | cons s rest ih =>
    cases rest with
    | nil =>
      obtain ⟨t, tail, rfl⟩ := List.exists_cons_of_ne_nil hb
      simp [join]
    | cons t rest =>
      have old := ih (by simp)
      rw [List.cons_append, List.cons_append, join_cons, join_cons, ← List.cons_append, old]
      simp

/-- The separator check adds nothing: a path below the root starts with the root's text. -/
theorem prefix_below (root below : List JsString) (hb : below ≠ []) :
    startsWith (absolute (root ++ below))
      (if endsWith (absolute root) [slash] then absolute root else absolute root ++ [slash]) = true := by
  rw [startsWith_iff]
  by_cases hr : root = []
  · subst hr
    rw [if_pos (by decide)]
    exact ⟨join [slash] below, rfl⟩
  · have hj : absolute (root ++ below) = absolute root ++ slash :: join [slash] below := by
      simp [absolute, join_append root below hr hb]
    rw [hj]
    split_ifs
    · exact List.prefix_append _ _
    · exact ⟨join [slash] below, by simp⟩

theorem below_named (root below : List JsString) (decoded : JsString)
    (h : normalise root (segments decoded) = root ++ below) : ∀ s ∈ below, s ∈ segments decoded := by
  obtain ⟨kept, names, he, hn⟩ := normalise_shape (segments decoded) root fun s hs =>
    ⟨(segment_shape _ _ hs).1, (segment_shape _ _ hs).2.1⟩
  have hb : below = (root.take kept ++ names).drop root.length := by rw [← he, h]; simp
  have hk : (root.take kept).length ≤ root.length := List.length_take_le' _ _
  intro s hs
  rw [hb, List.drop_append, List.drop_eq_nil_of_le hk, List.nil_append] at hs
  exact (hn s (List.mem_of_mem_drop hs)).2

theorem resolveStoragePath_ok (cwd storageRoot reference path : JsString) (allowRoot : Bool) :
    resolveStoragePath cwd storageRoot reference allowRoot = .ok path ↔
      ∃ decoded, Decodes reference decoded ∧ ∃ below,
        normalise (resolved cwd [storageRoot]) (segments decoded) =
            resolved cwd [storageRoot] ++ below ∧
          (below = [] → allowRoot = true) ∧ path = absolute (resolved cwd [storageRoot] ++ below) := by
  cases hd : assertSafeReference reference with
  | error e =>
    have hnone : ∀ decoded, ¬ Decodes reference decoded := fun decoded h => by
      have := (assertSafeReference_ok reference decoded).mpr h
      simp [hd] at this
    simp [resolveStoragePath, hd, bind, Except.bind, hnone]
  | ok decoded =>
    have hdec := (assertSafeReference_ok reference decoded).mp hd
    have honly : ∀ other, Decodes reference other ↔ other = decoded := fun other =>
      ⟨fun h => by simpa [hd, eq_comm] using (assertSafeReference_ok reference other).mpr h,
        fun h => h ▸ hdec⟩
    simp only [honly, exists_eq_left]
    generalize hroot : resolved cwd [storageRoot] = root
    have hp : ∀ s ∈ root, Plain s := hroot ▸ resolved_plain cwd [storageRoot]
    have hn : ∀ s ∈ segments decoded, s ≠ [] ∧ slash ∉ s := fun s hs =>
      ⟨(segment_shape _ _ hs).1, (segment_shape _ _ hs).2.1⟩
    have htarget := normalise_all_plain _ root hn hp
    have hresolve : resolve cwd [storageRoot] = absolute root := congrArg absolute hroot
    have hpath : resolve cwd (absolute root :: segments decoded) =
        absolute (normalise root (segments decoded)) :=
      congrArg absolute (resolved_below cwd root _ hp hn)
    simp only [resolveStoragePath, hd, bind, Except.bind, hresolve, hpath,
      relative_absolute cwd _ _ hp htarget]
    by_cases hinside : root <+: normalise root (segments decoded)
    · obtain ⟨below, hbelow⟩ := hinside
      have hplain : ∀ s ∈ below, Plain s := fun s hs =>
        htarget s (hbelow ▸ List.mem_append_right _ hs)
      have hback : ∀ s ∈ below, backslash ∉ s := fun s hs =>
        (segment_shape _ _ (below_named root below decoded hbelow.symm s hs)).2.2
      have hesc := escapes_below below allowRoot hplain hback
      have hinner : ∀ other, root ++ below = root ++ other ↔ other = below := fun other =>
        ⟨fun h => (List.append_cancel_left h).symm, fun h => h ▸ rfl⟩
      simp only [← hbelow, climb_below, hinner, exists_eq_left]
      by_cases hempty : below = []
      · subst hempty
        cases allowRoot with
        | false =>
          have he := hesc.mpr ⟨rfl, rfl⟩
          rw [if_pos he]
          split_ifs <;> simp
        | true =>
          have he : ¬ escapes (join [slash] []) true = true := by rw [hesc]; simp
          rw [if_neg (by simp), if_neg he, if_neg (by simp)]
          simp [eq_comm]
      · have he : ¬ escapes (join [slash] below) allowRoot = true := by rw [hesc]; simp [hempty]
        have hsegments : segments decoded ≠ [] := by
          obtain ⟨s, hs⟩ := List.exists_mem_of_ne_nil _ hempty
          exact List.ne_nil_of_mem (below_named root below decoded hbelow.symm s hs)
        rw [if_neg (by simp [hsegments]), if_neg he, prefix_below root below hempty]
        simp [hempty, eq_comm]
    · obtain ⟨rest, hrest⟩ := climb_above _ _ hinside
      have hno : ¬ ∃ below, normalise root (segments decoded) = root ++ below ∧
          (below = [] → allowRoot = true) ∧ path = absolute (root ++ below) := by
        rintro ⟨below, h, -⟩
        exact hinside ⟨below, h.symm⟩
      rw [hrest, if_pos (escapes_above rest allowRoot)]
      simp only [hno, iff_false]
      split_ifs <;> simp

end Glassbeetle.StorageContainment
