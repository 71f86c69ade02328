import Glassbeetle.FileTree
import Glassbeetle.StorageContainment

set_option autoImplicit false

/-!
# Symbolic links under the storage root

The half of `path-safety.ts` that looks at the file system.
-/
namespace Glassbeetle.StorageLinks
open JsText PosixPath StoragePaths StorageContainment FileTree

abbrev Name := { s : JsString // Plain s }

def text (path : List Name) : JsString := absolute (path.map (·.1))

def names (path : JsString) : List Name :=
  (components path).filterMap fun s => if h : Plain s then some ⟨s, h⟩ else none

inductive Refusal where
  | storage (error : FileStorageError)
  | errno (code : Errno)
  deriving DecidableEq

def withSep (root : JsString) : JsString :=
  if endsWith root [slash] then root else root ++ [slash]

def inspect (fs : FileSystem Name) (cwd realRoot reference : JsString) (current : List Name) :
    Except Refusal Unit :=
  match lstat fs current with
  | .error e => .error (.errno e)
  | .ok (.link _) =>
    match realpath fs current with
    | .error e => .error (.errno e)
    | .ok real =>
      let realCurrent := text real
      if escapes (relative cwd realRoot realCurrent) false then
        .error (.storage (.invalidPath (js "Symlink in storage path \"" ++ reference ++
          js "\" points outside the storage root to \"" ++ realCurrent ++ js "\"")))
      else if !startsWith realCurrent (withSep realRoot) then
        .error (.storage (.invalidPath (js "Symlink in storage path \"" ++ reference ++
          js "\" resolves outside the storage root boundary to \"" ++ realCurrent ++ js "\"")))
      else .ok ()
  | .ok _ => .ok ()

/-- From the target, last name first, up to the root; what does not exist is passed over. -/
def checkUpwards (fs : FileSystem Name) (cwd realRoot reference : JsString) (root : List Name) :
    List Name → Except Refusal Unit
  | [] => .ok ()
  | name :: parent =>
    if (name :: parent).reverse = root then .ok ()
    else match inspect fs cwd realRoot reference (name :: parent).reverse with
      | .error (.errno .ENOENT) => checkUpwards fs cwd realRoot reference root parent
      | .error refusal => .error refusal
      | .ok () => checkUpwards fs cwd realRoot reference root parent

def realRoot (fs : FileSystem Name) (normalizedRoot : JsString) : JsString :=
  match realpath fs (names normalizedRoot) with
  | .ok real => text real
  | .error _ => normalizedRoot

def verifyStoragePathContainment (fs : FileSystem Name) (cwd storageRoot reference : JsString)
    (allowRoot : Bool) : Except Refusal JsString :=
  match resolveStoragePath cwd storageRoot reference allowRoot with
  | .error error => .error (.storage error)
  | .ok resolvedPath =>
    let normalizedRoot := resolve cwd [storageRoot]
    match checkUpwards fs cwd (realRoot fs normalizedRoot) reference (names normalizedRoot)
      (names resolvedPath).reverse with
    | .error refusal => .error refusal
    | .ok () => .ok resolvedPath

def resolveAndVerify (fs : FileSystem Name) (service : FileStorageService) (reference : JsString) :
    Except Refusal JsString :=
  verifyStoragePathContainment fs service.cwd service.configuredRoot reference false

def OnTheWay (root path q : List Name) : Prop := root <+: q ∧ q <+: path

/-- Where following the links of `q` leads, if anywhere, is not outside the root's real path. -/
def Inside (fs : FileSystem Name) (root q : List Name) : Prop :=
  ∀ place, leads fs q = .ok place → ∃ base, leads fs root = .ok base ∧ base <+: place

def Contained (fs : FileSystem Name) (root path : List Name) : Prop :=
  ∀ q, OnTheWay root path q → Inside fs root q

/-- A link whose target does not exist. -/
def Dangling (fs : FileSystem Name) (q : List Name) : Prop :=
  (∃ target, lstat fs q = .ok (.link target)) ∧ realpath fs q = .error .ENOENT

/-- An entry below the root at which the loop throws: another error than `ENOENT`, or a link that
exists and whose real path is not strictly below the root's. -/
def Refused (fs : FileSystem Name) (cwd normalizedRoot : JsString) (q : List Name) : Prop :=
  q ≠ names normalizedRoot ∧
    ((∃ e, lstat fs q = .error e ∧ e ≠ .ENOENT) ∨
      ∃ target, lstat fs q = .ok (.link target) ∧
        ((∃ e, realpath fs q = .error e ∧ e ≠ .ENOENT) ∨
          ∃ real, realpath fs q = .ok real ∧
            (escapes (relative cwd (realRoot fs normalizedRoot) (text real)) false = true ∨
              startsWith (text real) (withSep (realRoot fs normalizedRoot)) = false)))

theorem inspect_refused (fs : FileSystem Name) (cwd normalizedRoot reference : JsString)
    (q : List Name) (hq : q ≠ names normalizedRoot) :
    Refused fs cwd normalizedRoot q ↔
      ∃ refusal, inspect fs cwd (realRoot fs normalizedRoot) reference q = .error refusal ∧
        refusal ≠ .errno .ENOENT := by
  unfold Refused inspect
  cases hstat : lstat fs q with
  | error e => simp [hq]
  | ok entry =>
    cases entry with
    | file => simp
    | directory => simp
    | link target =>
      cases hreal : realpath fs q with
      | error e => simp [hq]
      | ok real =>
        dsimp only
        split_ifs with hescapes hprefix
        · simp [hq, hescapes]
        · simp_all
        · simp_all

theorem onTheWay_extend (root path q : List Name) (name : Name) :
    OnTheWay root (path ++ [name]) q ↔ OnTheWay root path q ∨ root <+: q ∧ q = path ++ [name] := by
  unfold OnTheWay
  rw [List.prefix_concat_iff, and_or_left, or_comm]

/-- The induction goes up the way; an entry that does not exist leaves it to the entries above. -/
theorem checkUpwards_ok (fs : FileSystem Name) (cwd normalizedRoot reference : JsString)
    (up : List Name) (hroot : names normalizedRoot <+: up.reverse) :
    checkUpwards fs cwd (realRoot fs normalizedRoot) reference (names normalizedRoot) up = .ok () ↔
      ∀ q, OnTheWay (names normalizedRoot) up.reverse q → ¬Refused fs cwd normalizedRoot q := by
  induction up with
  | nil =>
    refine iff_of_true rfl ?_
    rintro q ⟨hq, hnil⟩ hrefused
    rw [List.reverse_nil, List.prefix_nil] at hnil hroot
    exact hrefused.1 (hnil.trans hroot.symm)
  | cons name parent ih =>
    unfold checkUpwards
    split_ifs with hcurrent
    · refine iff_of_true rfl ?_
      rintro q ⟨hq, hpath⟩ hrefused
      rw [hcurrent] at hpath
      exact hrefused.1 (hpath.eq_of_length_le hq.length_le)
    · have hrev : (name :: parent).reverse = parent.reverse ++ [name] := List.reverse_cons
      have hparent : names normalizedRoot <+: parent.reverse := by
        rw [hrev, List.prefix_concat_iff] at hroot
        exact hroot.resolve_left fun h => hcurrent (hrev.trans h.symm)
      have hsplit : (∀ q, OnTheWay (names normalizedRoot) (name :: parent).reverse q →
          ¬Refused fs cwd normalizedRoot q) ↔
          ¬Refused fs cwd normalizedRoot (name :: parent).reverse ∧
            ∀ q, OnTheWay (names normalizedRoot) parent.reverse q →
              ¬Refused fs cwd normalizedRoot q := by
        simp only [hrev, onTheWay_extend]
        constructor
        · exact fun h => ⟨h _ (.inr ⟨by rwa [← hrev], rfl⟩), fun q hq => h q (.inl hq)⟩
        · rintro ⟨hlast, habove⟩ q (hq | ⟨-, rfl⟩)
          · exact habove q hq
          · exact hlast
      have hrefused := inspect_refused fs cwd normalizedRoot reference _ hcurrent
      rw [hsplit, hrefused, ← ih hparent]
      cases hinspect : inspect fs cwd (realRoot fs normalizedRoot) reference
        (name :: parent).reverse with
      | ok u => simp
      | error refusal =>
        by_cases hmissing : refusal = .errno .ENOENT
        · subst hmissing
          simp
        · simp [hmissing]

theorem accepted_below (cwd : JsString) (base real : List Name)
    (h : escapes (relative cwd (text base) (text real)) false = false) : base <+: real := by
  have hplain : ∀ path : List Name, ∀ s ∈ path.map (·.1), Plain s := by
    intro path s hs
    obtain ⟨name, -, rfl⟩ := List.mem_map.mp hs
    exact name.2
  by_contra hout
  have hmap : ¬base.map (·.1) <+: real.map (·.1) := by
    rwa [List.prefix_map_iff_of_injective Subtype.val_injective]
  obtain ⟨rest, hrest⟩ := climb_above _ _ hmap
  rw [text, text, relative_absolute cwd _ _ (hplain base) (hplain real), hrest,
    escapes_above rest false] at h
  cases h

theorem realRoot_text (fs : FileSystem Name) (normalizedRoot : JsString) (base : List Name)
    (h : realpath fs (names normalizedRoot) = .ok base) : realRoot fs normalizedRoot = text base := by
  unfold realRoot
  rw [h]

/-- Below the root, an entry that is not refused and, if it is a dangling link, leads inside, leads
inside whenever the entry above it does. -/
theorem inside_name (fs : FileSystem Name) (cwd normalizedRoot : JsString) (q : List Name)
    (name : Name) (hq : names normalizedRoot <+: q)
    (hrefused : ¬Refused fs cwd normalizedRoot (q ++ [name]))
    (hdangling : Dangling fs (q ++ [name]) → Inside fs (names normalizedRoot) (q ++ [name]))
    (habove : Inside fs (names normalizedRoot) q) :
    Inside fs (names normalizedRoot) (q ++ [name]) := by
  intro place hplace
  obtain ⟨above, hleads, hplace' | ⟨target, htarget⟩⟩ := leads_name fs q place name hplace
  · obtain ⟨base, hbase, hprefix⟩ := habove above hleads
    exact ⟨base, hbase, hplace' ▸ hprefix.trans (List.prefix_append above [name])⟩
  · have hne : q ++ [name] ≠ names normalizedRoot := by
      intro heq
      have := hq.length_le
      rw [← heq, List.length_append, List.length_singleton] at this
      omega
    cases hreal : realpath fs (q ++ [name]) with
    | error e =>
      by_cases he : e = .ENOENT
      · exact hdangling ⟨⟨target, htarget⟩, by rw [hreal, he]⟩ place hplace
      · exact absurd ⟨hne, .inr ⟨target, htarget, .inl ⟨e, hreal, he⟩⟩⟩ hrefused
    | ok real =>
      obtain rfl : real = place := Except.ok.inj ((leads_realpath fs _ real hreal).symm.trans hplace)
      obtain ⟨below, rfl⟩ := hq
      obtain ⟨base, hbase⟩ := realpath_prefix fs (names normalizedRoot) (below ++ [name]) real
        (by rwa [← List.append_assoc])
      have haccepted : escapes (relative cwd (text base) (text real)) false = false := by
        rw [← realRoot_text fs normalizedRoot base hbase, ← Bool.not_eq_true]
        exact fun h => hrefused ⟨hne, .inr ⟨target, htarget, .inr ⟨real, hreal, .inl h⟩⟩⟩
      exact ⟨base, leads_realpath fs _ base hbase, accepted_below cwd base real haccepted⟩

theorem contained_of_dangling (fs : FileSystem Name) (cwd normalizedRoot : JsString)
    (path : List Name)
    (hrefused : ∀ q, OnTheWay (names normalizedRoot) path q → ¬Refused fs cwd normalizedRoot q)
    (hdangling : ∀ q, OnTheWay (names normalizedRoot) path q → Dangling fs q →
      Inside fs (names normalizedRoot) q) :
    Contained fs (names normalizedRoot) path := by
  rintro q ⟨⟨below, rfl⟩, hpath⟩
  induction below using List.reverseRecOn with
  | nil =>
    intro place hplace
    rw [List.append_nil] at hplace
    exact ⟨place, hplace, List.prefix_refl place⟩
  | append_singleton below name ih =>
    rw [← List.append_assoc] at hpath ⊢
    have hway : OnTheWay (names normalizedRoot) path (names normalizedRoot ++ below ++ [name]) :=
      ⟨(List.prefix_append _ _).trans (List.prefix_append _ _), hpath⟩
    exact inside_name fs cwd normalizedRoot _ name (List.prefix_append _ _)
      (hrefused _ hway) (hdangling _ hway) (ih ((List.prefix_append _ _).trans hpath))

theorem resolved_way (cwd storageRoot reference path : JsString) (allowRoot : Bool)
    (h : resolveStoragePath cwd storageRoot reference allowRoot = .ok path) :
    names (resolve cwd [storageRoot]) <+: names path := by
  obtain ⟨decoded, -, below, hbelow, -, rfl⟩ :=
    (resolveStoragePath_ok cwd storageRoot reference path allowRoot).mp h
  have hplain : ∀ s ∈ resolved cwd [storageRoot] ++ below, Plain s := by
    rw [← hbelow]
    exact normalise_all_plain _ _
      (fun s hs => ⟨(segment_shape _ _ hs).1, (segment_shape _ _ hs).2.1⟩) (resolved_plain _ _)
  unfold names
  rw [components_resolve, components_absolute _ hplain, List.filterMap_append]
  exact List.prefix_append _ _

theorem verify_ok (fs : FileSystem Name) (cwd storageRoot reference path : JsString)
    (allowRoot : Bool) :
    verifyStoragePathContainment fs cwd storageRoot reference allowRoot = .ok path ↔
      resolveStoragePath cwd storageRoot reference allowRoot = .ok path ∧
        ∀ q, OnTheWay (names (resolve cwd [storageRoot])) (names path) q →
          ¬Refused fs cwd (resolve cwd [storageRoot]) q := by
  unfold verifyStoragePathContainment
  cases hresolve : resolveStoragePath cwd storageRoot reference allowRoot with
  | error e => simp
  | ok resolvedPath =>
    have hup := checkUpwards_ok fs cwd (resolve cwd [storageRoot]) reference
      (names resolvedPath).reverse
      (by rw [List.reverse_reverse]; exact resolved_way _ _ _ _ _ hresolve)
    rw [List.reverse_reverse] at hup
    dsimp only
    cases hcheck : checkUpwards fs cwd (realRoot fs (resolve cwd [storageRoot])) reference
      (names (resolve cwd [storageRoot])) (names resolvedPath).reverse with
    | ok u =>
      have hall := hup.mp hcheck
      constructor
      · rintro ⟨⟩
        exact ⟨rfl, hall⟩
      · rintro ⟨⟨⟩, -⟩
        rfl
    | error refusal =>
      refine iff_of_false (by simp) ?_
      rintro ⟨⟨⟩, hall⟩
      rw [hup.mpr hall] at hcheck
      cases hcheck

section Pruning
variable {fs after : FileSystem Name} (h : Pruned fs after)
include h

/-- Where files are gone, a path that still resolves is refused at no other entry than before. -/
theorem refused_pruned (cwd normalizedRoot : JsString) (q base real : List Name)
    (hbase : realpath after (names normalizedRoot) = .ok base) (hreal : realpath after q = .ok real)
    (hrefused : Refused fs cwd normalizedRoot q) : Refused after cwd normalizedRoot q := by
  obtain ⟨hne, hrefused⟩ := hrefused
  obtain ⟨entry, hentry, hentry'⟩ := lstat_pruned h q real hreal
  have hreal' := realpath_pruned h q real hreal
  have hbase' := realpath_pruned h _ base hbase
  rw [realRoot_text fs normalizedRoot base hbase'] at hrefused
  refine ⟨hne, ?_⟩
  rw [realRoot_text after normalizedRoot base hbase]
  rcases hrefused with ⟨e, he, -⟩ | ⟨target, htarget, ⟨e, he, -⟩ | ⟨real', hfound, hout⟩⟩
  · cases hentry'.symm.trans he
  · cases hreal'.symm.trans he
  · cases hreal'.symm.trans hfound
    cases hentry'.symm.trans htarget
    exact .inr ⟨target, hentry, .inr ⟨real, hreal, hout⟩⟩

theorem verify_pruned (cwd storageRoot reference path : JsString) (allowRoot : Bool)
    (real : List Name)
    (hverify : verifyStoragePathContainment after cwd storageRoot reference allowRoot = .ok path)
    (hreal : realpath after (names path) = .ok real) :
    verifyStoragePathContainment fs cwd storageRoot reference allowRoot = .ok path := by
  rw [verify_ok] at hverify ⊢
  obtain ⟨hresolve, hnone⟩ := hverify
  have hresolves : ∀ q, q <+: names path → ∃ real, realpath after q = .ok real := by
    rintro q ⟨rest, hrest⟩
    exact realpath_prefix after q rest real (hrest ▸ hreal)
  obtain ⟨base, hbase⟩ := hresolves _ (resolved_way _ _ _ _ _ hresolve)
  refine ⟨hresolve, fun q hq hrefused => ?_⟩
  obtain ⟨real', hreal'⟩ := hresolves q hq.2
  exact hnone q hq (refused_pruned h cwd _ q base real' hbase hreal' hrefused)

end Pruning

/-- A path that is returned is contained exactly when a reference that is refused at no entry meets
no dangling link that leads outside. -/
theorem links_contained (fs : FileSystem Name) (cwd storageRoot reference : JsString)
    (allowRoot : Bool) :
    (∀ path, verifyStoragePathContainment fs cwd storageRoot reference allowRoot = .ok path →
      Contained fs (names (resolve cwd [storageRoot])) (names path)) ↔
    ∀ path, resolveStoragePath cwd storageRoot reference allowRoot = .ok path →
      (∃ q, OnTheWay (names (resolve cwd [storageRoot])) (names path) q ∧
        Refused fs cwd (resolve cwd [storageRoot]) q) ∨
      ∀ q, OnTheWay (names (resolve cwd [storageRoot])) (names path) q → Dangling fs q →
        Inside fs (names (resolve cwd [storageRoot])) q := by
  constructor
  · intro h path hresolve
    by_cases hrefused : ∃ q, OnTheWay (names (resolve cwd [storageRoot])) (names path) q ∧
        Refused fs cwd (resolve cwd [storageRoot]) q
    · exact .inl hrefused
    · have hverify := (verify_ok fs cwd storageRoot reference path allowRoot).mpr
        ⟨hresolve, fun q hq hr => hrefused ⟨q, hq, hr⟩⟩
      exact .inr fun q hq _ => h path hverify q hq
  · intro h path hverify
    obtain ⟨hresolve, hnone⟩ := (verify_ok fs cwd storageRoot reference path allowRoot).mp hverify
    rcases h path hresolve with ⟨q, hq, hrefused⟩ | hdangling
    · exact absurd hrefused (hnone q hq)
    · exact contained_of_dangling fs cwd _ (names path) hnone hdangling

def sampleName (name : String) (h : Plain (js name)) : Name := ⟨js name, h⟩

def data : Name := sampleName "data" (by decide)
def storage : Name := sampleName "storage" (by decide)
def pictures : Name := sampleName "pictures" (by decide)
def newPicture : Name := sampleName "new.png" (by decide)
def outside : Name := sampleName "outside" (by decide)

def danglingTree : FileSystem Name where
  entries := [([], .directory), ([data], .directory), ([data, storage], .directory),
    ([data, storage, pictures], .directory), ([outside], .directory),
    ([data, storage, pictures, newPicture], .link ⟨true, [.down outside, .down newPicture]⟩)]
  linkLimit := 40
  root := rfl
  parents := by decide +kernel

/-- A write through the reference creates a file outside the storage root. -/
theorem dangling_link_escapes :
    ¬∀ path, resolveAndVerify danglingTree ⟨js "/", [js "/data/storage"]⟩
        (js "pictures/new.png") = .ok path →
      Contained danglingTree [data, storage] (names path) := by
  intro h
  have hverify : resolveAndVerify danglingTree ⟨js "/", [js "/data/storage"]⟩
      (js "pictures/new.png") = .ok (js "/data/storage/pictures/new.png") := by decide +kernel
  have hway : OnTheWay [data, storage] (names (js "/data/storage/pictures/new.png"))
      [data, storage, pictures, newPicture] :=
    ⟨⟨[pictures, newPicture], rfl⟩, ⟨[], by decide +kernel⟩⟩
  have hplace : leads danglingTree [data, storage, pictures, newPicture] =
      .ok [outside, newPicture] := by decide +kernel
  have hroot : leads danglingTree [data, storage] = .ok [data, storage] := by decide +kernel
  obtain ⟨base, hbase, hprefix⟩ := h _ hverify _ hway _ hplace
  obtain rfl := Except.ok.inj (hroot.symm.trans hbase)
  revert hprefix
  decide +kernel

end Glassbeetle.StorageLinks
