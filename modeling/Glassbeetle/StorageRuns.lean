import Glassbeetle.AtomicFiles
import Glassbeetle.FileWrites

set_option autoImplicit false

namespace Glassbeetle.StorageRuns
open JsText PosixPath Identifiers StoragePaths StorageReferences ContentTypes FileWrites

abbrev FileAction := AtomicFiles.Action JsString UInt8
abbrev FileStore := AtomicFiles.Store JsString UInt8

def Temporary (path : JsString) : Prop :=
  ∃ id, (components path).getLast? = some (js ".tmp-" ++ id)

def bucketDir (service : FileStorageService) (bucket : JsString) : JsString :=
  joinPath service.configuredRoot bucket

/-- What the service does to the disk. A reference that is deleted is one that a write has returned. -/
inductive Issued (service : FileStorageService) : FileAction → Prop
  | creates (bucket : JsString) (draw : Draw) (hbucket : BucketName bucket) :
      Issued service (.opens (tempPath (bucketDir service bucket) draw))
  | writes (temp : JsString) (chunk : List UInt8) : Issued service (.appends temp chunk)
  | renames (bucket : JsString) (draw : Draw) (size : ℕ) (detected : DetectedContentType)
      (hbucket : BucketName bucket) :
      Issued service (.commits (tempPath (bucketDir service bucket) draw)
        (storedFile bucket (bucketDir service bucket) draw size detected).targetPath)
  | cleansUp (temp : JsString) : Issued service (.abandons temp)
  | deletes (bucket : JsString) (draw : Draw) (size : ℕ) (detected : DetectedContentType)
      (hbucket : BucketName bucket) : Issued service
        (.removes (storedFile bucket (bucketDir service bucket) draw size detected).targetPath)
  | stops : Issued service .crashes

/-- Names are drawn once, and a request writes to its own temporary file until it has renamed or
unlinked it. -/
def Turn (s : FileStore) : FileAction → Prop
  | .opens temp => temp ∉ s.used
  | .appends temp _ | .commits temp _ | .abandons temp => temp ∈ s.writing
  | .removes _ | .crashes => True

def Served (service : FileStorageService) (s : FileStore) (action : FileAction) : Prop :=
  Issued service action ∧ Turn s action

/-! ### Names -/

theorem named_components (service : FileStorageService) (bucket name : JsString)
    (hbucket : BucketName bucket) (hname : Plain name) :
    components (joinPath (bucketDir service bucket) name) =
      resolved service.cwd service.rootPaths ++ entry bucket ++ [name] := by
  have hroot := resolved_plain service.cwd service.rootPaths
  have hall : ∀ s ∈ resolved service.cwd service.rootPaths ++ entry bucket ++ [name], Plain s := by
    intro s hs
    rcases List.mem_append.mp hs with hs | hs
    · exact bucketDir_plain _ hroot bucket hbucket s hs
    · exact List.mem_singleton.mp hs ▸ hname
  change components (joinPath (joinPath (absolute (resolved service.cwd service.rootPaths)) bucket)
    name) = _
  rw [joinPath_named _ hroot bucket name hbucket hname, components_absolute _ hall]

theorem temp_plain (draw : Draw) : Plain (js ".tmp-" ++ draw.id) := by
  have hslash : slash ∉ js ".tmp-" ++ draw.id := by
    intro h
    rcases List.mem_append.mp h with h | h
    · exact absurd h (by decide)
    · have hunit := newId_units draw.now draw.random _ h
      revert hunit
      decide
  have ht : 0x74 ∈ js ".tmp-" ++ draw.id := List.mem_append_left _ (by decide)
  refine ⟨List.ne_nil_of_mem ht, hslash, ?_, ?_⟩ <;>
    (intro e; rw [e] at ht; revert ht; decide)

theorem tempPath_temporary (service : FileStorageService) (bucket : JsString) (draw : Draw)
    (hbucket : BucketName bucket) : Temporary (tempPath (bucketDir service bucket) draw) := by
  refine ⟨draw.id, ?_⟩
  rw [tempPath, named_components service bucket _ hbucket (temp_plain draw), List.getLast?_concat]

theorem targetPath_lasting (service : FileStorageService) (bucket : JsString) (draw : Draw)
    (size : ℕ) (detected : DetectedContentType) (hbucket : BucketName bucket) :
    ¬Temporary (storedFile bucket (bucketDir service bucket) draw size detected).targetPath := by
  rintro ⟨id, hid⟩
  have hlast := named_components service bucket _ hbucket
    (fileName_plain draw.now draw.random detected)
  change components (storedFile bucket (bucketDir service bucket) draw size detected).targetPath = _
    at hlast
  rw [hlast, List.getLast?_concat] at hid
  have hsame := Option.some.inj hid
  have hhyphen : 0x2D ∈ draw.id := by
    simp [Draw.id, newId, formatUuid, join, js, utf16, List.intercalate, List.intersperse]
  obtain ⟨first, rest, hdraw⟩ := List.exists_cons_of_ne_nil (List.ne_nil_of_mem hhyphen)
  have hfirst : first ∈ draw.id := hdraw ▸ List.mem_cons_self
  have hunit := newId_units draw.now draw.random first hfirst
  change draw.id ++ detected.extension = _ at hsame
  rw [hdraw] at hsame
  obtain rfl : first = 0x2E := (List.cons.inj hsame).1
  revert hunit
  decide

theorem served_proper (service : FileStorageService) (s : FileStore) (action : FileAction)
    (h : Served service s action) : AtomicFiles.Proper Temporary s action := by
  obtain ⟨hissued, hturn⟩ := h
  cases hissued with
  | creates bucket draw hbucket => exact ⟨tempPath_temporary service bucket draw hbucket, hturn⟩
  | writes temp chunk => exact hturn
  | renames bucket draw size detected hbucket =>
    exact ⟨hturn, targetPath_lasting service bucket draw size detected hbucket⟩
  | cleansUp temp => exact hturn
  | deletes bucket draw size detected hbucket =>
    exact targetPath_lasting service bucket draw size detected hbucket
  | stops => trivial

/-! ### A write on its own -/

def pieces : Content → List (List UInt8)
  | .buffer bytes => [bytes]
  | .stream chunks => chunks

def attempt (temp : JsString) (chunks : List (List UInt8)) (last : FileAction) : List FileAction :=
  .opens temp :: chunks.map (.appends temp) ++ [last]

def put (files : FileWrites.Disk) (content : Content) :
    Except FileStorageError StoredFile → FileWrites.Disk
  | .ok stored => Function.update files stored.targetPath (some (pieces content).flatten)
  | .error _ => files

def appended (path : JsString) (chunks : List (List UInt8)) (disk : FileWrites.Disk) :
    FileWrites.Disk :=
  chunks.foldl (fun disk chunk => append disk path chunk) disk

theorem consume_ok_disk (maxBytes : Option ℕ) (path : JsString) (chunks : List (List UInt8))
    (s t : Intake) (h : consume maxBytes path s chunks = .ok t) :
    t.disk = appended path chunks s.disk := by
  induction chunks generalizing s with
  | nil =>
    obtain rfl := Except.ok.inj h
    rfl
  | cons buf rest ih =>
    rw [consume, onData] at h
    cases hsize : checkSize maxBytes (s.totalBytes + buf.length) with
    | error error => simp [hsize] at h
    | ok _ =>
      simp only [hsize] at h
      rw [ih _ h]
      unfold keepHeader
      split <;> rfl

theorem consume_error_disk (maxBytes : Option ℕ) (path : JsString) (chunks : List (List UInt8))
    (s : Intake) (error : FileStorageError) (disk : FileWrites.Disk)
    (h : consume maxBytes path s chunks = .error (error, disk)) :
    ∃ n, disk = appended path (chunks.take n) s.disk := by
  induction chunks generalizing s with
  | nil => simp [consume] at h
  | cons buf rest ih =>
    rw [consume, onData] at h
    cases hsize : checkSize maxBytes (s.totalBytes + buf.length) with
    | error _ =>
      simp only [hsize, Except.error.injEq, Prod.mk.injEq] at h
      exact ⟨0, h.2.symm⟩
    | ok _ =>
      simp only [hsize] at h
      obtain ⟨n, hn⟩ := ih _ h
      refine ⟨n + 1, ?_⟩
      rw [hn]
      unfold keepHeader
      split <;> rfl

theorem appends_disk (temp : JsString) (chunks : List (List UInt8)) (s : FileStore) :
    (chunks.map (AtomicFiles.Action.appends temp)).foldl AtomicFiles.step s =
      { s with disk := appended temp chunks s.disk } := by
  induction chunks generalizing s with
  | nil => rfl
  | cons chunk rest ih =>
    rw [List.map_cons, List.foldl_cons, ih]
    rfl

theorem appends_said (temp : JsString) (chunks : List (List UInt8))
    (a : AtomicFiles.Published JsString UInt8) :
    (chunks.map (AtomicFiles.Action.appends temp)).foldl AtomicFiles.publish a =
      { a with said := Function.update a.said temp (a.said temp ++ chunks.flatten) } := by
  induction chunks generalizing a with
  | nil => simp
  | cons chunk rest ih => simp [ih, AtomicFiles.publish]

theorem attempt_run (temp : JsString) (chunks : List (List UInt8)) (last : FileAction)
    (s : FileStore) : (attempt temp chunks last).foldl AtomicFiles.step s =
      AtomicFiles.step ⟨appended temp chunks (writeFile s.disk temp []), temp :: s.writing,
        temp :: s.used, s.lost⟩ last := by
  rw [attempt, List.foldl_append, List.foldl_cons, List.foldl_nil, List.foldl_cons, appends_disk]
  rfl

theorem attempt_publishes (temp : JsString) (chunks : List (List UInt8)) (last : FileAction)
    (a : AtomicFiles.Published JsString UInt8) :
    (attempt temp chunks last).foldl AtomicFiles.publish a =
      AtomicFiles.publish ⟨a.files, Function.update a.said temp chunks.flatten⟩ last := by
  rw [attempt, List.foldl_append, List.foldl_cons, List.foldl_nil, List.foldl_cons, appends_said]
  simp [AtomicFiles.publish]

theorem attempt_served (service : FileStorageService) (temp : JsString) (chunks : List (List UInt8))
    (last : FileAction) (s : FileStore) (hopens : Issued service (.opens temp))
    (hlast : Issued service last) (hturn : ∀ t : FileStore, temp ∈ t.writing → Turn t last)
    (hfresh : temp ∉ s.used) :
    Runs.Allowed AtomicFiles.step (Served service) s (attempt temp chunks last) := by
  have happends : ∀ t : FileStore, temp ∈ t.writing → Runs.Allowed AtomicFiles.step (Served service) t
      (chunks.map (AtomicFiles.Action.appends temp) ++ [last]) := by
    induction chunks with
    | nil =>
      intro t ht
      exact ⟨⟨hlast, hturn t ht⟩, trivial⟩
    | cons chunk rest ih =>
      intro t ht
      exact ⟨⟨.writes temp chunk, ht⟩, ih _ ht⟩
  exact ⟨⟨hopens, hfresh⟩, happends _ List.mem_cons_self⟩

/-- The run is one the service may take among others, and it comes to what the write comes to. -/
def Simulates (service : FileStorageService) (content : Content) (s : FileStore)
    (outcome : Except FileStorageError StoredFile × FileWrites.Disk) (actions : List FileAction) :
    Prop :=
  Runs.Allowed AtomicFiles.step (Served service) s actions ∧
    (actions.foldl AtomicFiles.step s).disk = outcome.2 ∧
    (actions.foldl AtomicFiles.step s).writing = s.writing ∧
    ∀ a, (actions.foldl AtomicFiles.publish a).files = put a.files content outcome.1

theorem commit_simulates (service : FileStorageService) (bucket : JsString) (content : Content)
    (draw : Draw) (size : ℕ) (detected : DetectedContentType) (s : FileStore)
    (hbucket : BucketName bucket) (hfresh : tempPath (bucketDir service bucket) draw ∉ s.used) :
    let temp := tempPath (bucketDir service bucket) draw
    let stored := storedFile bucket (bucketDir service bucket) draw size detected
    Simulates service content s (.ok stored, rename
        (appended temp (pieces content) (writeFile s.disk temp [])) temp stored.targetPath)
      (attempt temp (pieces content) (.commits temp stored.targetPath)) := by
  intro temp stored
  refine ⟨?_, ?_, ?_, ?_⟩
  · exact attempt_served service temp _ _ s (.creates bucket draw hbucket)
      (.renames bucket draw size detected hbucket) (fun t ht => ht) hfresh
  · rw [attempt_run]
    rfl
  · rw [attempt_run]
    simp [AtomicFiles.step]
  · intro a
    rw [attempt_publishes]
    simp [AtomicFiles.publish, put]

theorem abandon_simulates (service : FileStorageService) (bucket : JsString) (content : Content)
    (draw : Draw) (error : FileStorageError) (n : ℕ) (s : FileStore) (hbucket : BucketName bucket)
    (hfresh : tempPath (bucketDir service bucket) draw ∉ s.used) :
    let temp := tempPath (bucketDir service bucket) draw
    Simulates service content s (.error error, unlink
        (appended temp ((pieces content).take n) (writeFile s.disk temp [])) temp)
      (attempt temp ((pieces content).take n) (.abandons temp)) := by
  intro temp
  refine ⟨?_, ?_, ?_, ?_⟩
  · exact attempt_served service temp _ _ s (.creates bucket draw hbucket) (.cleansUp temp)
      (fun t ht => ht) hfresh
  · rw [attempt_run]
    rfl
  · rw [attempt_run]
    simp [AtomicFiles.step]
  · intro a
    rw [attempt_publishes]
    rfl

theorem nothing_simulates (service : FileStorageService) (content : Content)
    (error : FileStorageError) (s : FileStore) :
    Simulates service content s (.error error, s.disk) [] :=
  ⟨trivial, rfl, rfl, fun _ => rfl⟩

theorem writeBuffer_simulated (builtins : Builtins) (service : FileStorageService)
    (bucket : JsString) (bytes : List UInt8) (options : FileValidationOptions) (draw : Draw)
    (s : FileStore) (hbucket : BucketName bucket)
    (hfresh : tempPath (bucketDir service bucket) draw ∉ s.used) :
    ∃ actions, Simulates service (.buffer bytes) s
      (writeBuffer builtins bucket (bucketDir service bucket) bytes options draw s.disk) actions := by
  unfold writeBuffer
  split
  · exact ⟨[], nothing_simulates service _ _ s⟩
  · have hwritten : writeFile s.disk (tempPath (bucketDir service bucket) draw) bytes =
        appended (tempPath (bucketDir service bucket) draw) (pieces (.buffer bytes))
          (writeFile s.disk (tempPath (bucketDir service bucket) draw) []) := by
      simp [pieces, appended, append, writeFile]
    rw [hwritten]
    exact ⟨_, commit_simulates service bucket _ draw _ _ s hbucket hfresh⟩

theorem writeStreamInternal_simulated (builtins : Builtins) (service : FileStorageService)
    (bucket : JsString) (chunks : List (List UInt8)) (options : FileValidationOptions) (draw : Draw)
    (s : FileStore) (hbucket : BucketName bucket)
    (hfresh : tempPath (bucketDir service bucket) draw ∉ s.used) :
    ∃ actions, Simulates service (.stream chunks) s
      (writeStreamInternal builtins bucket (bucketDir service bucket) chunks options draw s.disk)
      actions := by
  unfold writeStreamInternal
  dsimp only
  split
  · next error disk htaken =>
    obtain ⟨n, rfl⟩ := consume_error_disk _ _ chunks _ error disk htaken
    exact ⟨_, abandon_simulates service bucket (.stream chunks) draw error n s hbucket hfresh⟩
  · next t htaken =>
    simp only [settle]
    rw [consume_ok_disk _ _ chunks _ t htaken]
    split
    · next error _ =>
      have habandon := abandon_simulates service bucket (.stream chunks) draw error chunks.length s
        hbucket hfresh
      rw [pieces, List.take_length] at habandon
      exact ⟨_, habandon⟩
    · exact ⟨_, commit_simulates service bucket (.stream chunks) draw _ _ s hbucket hfresh⟩

/-- Whatever becomes of a write, it is a run of the steps above that leaves no temporary file of its
own, and amounts to one file that appears whole or to none. -/
theorem write_simulated (builtins : Builtins) (service : FileStorageService) (bucket : JsString)
    (content : Content) (options : FileValidationOptions) (draw : Draw) (s : FileStore)
    (hfresh : tempPath (bucketDir service (trim bucket)) draw ∉ s.used) :
    ∃ actions, Simulates service content s
      (FileWrites.write builtins service bucket content options draw s.disk) actions := by
  unfold FileWrites.write
  cases hbucket : assertValidBucket bucket with
  | error error => exact ⟨[], nothing_simulates service content error s⟩
  | ok valid =>
    obtain ⟨rfl, hname⟩ := assertValidBucket_ok bucket valid hbucket
    cases content with
    | buffer bytes =>
      exact writeBuffer_simulated builtins service _ bytes options draw s hname hfresh
    | stream chunks =>
      exact writeStreamInternal_simulated builtins service _ chunks options draw s hname hfresh

/-- A second picture, refused for its size while the first is still being written. -/
theorem write_simulated_refused :
    let first := tempPath (bucketDir storage (js "pictures")) ⟨1, fun _ => 0⟩
    let s : FileStore := AtomicFiles.step (AtomicFiles.start fun _ => none) (.opens first)
    ∃ actions, Simulates storage (.stream [[0x89], [0x50, 0x4E]]) s
      (FileWrites.write ⟨id, fun _ => false⟩ storage (js "pictures") (.stream [[0x89], [0x50, 0x4E]])
        ⟨some 2, none⟩ ⟨2, fun _ => 0⟩ s.disk) actions := by
  intro first s
  refine write_simulated _ storage _ _ _ _ s ?_
  change ¬_ ∈ [_]
  decide +kernel

/-! ### Many at once -/

/-- Whatever the order in which uploads, deletes and crashes take their steps, a reader finds under
every name but the temporary ones what it would find had each upload come into being at its rename,
whole; and a temporary file is there only while it is written, or if the process has stopped. -/
theorem writes_appear_whole (builtins : Builtins) (service : FileStorageService)
    (disk : FileWrites.Disk) (hclean : ∀ path, Temporary path → disk path = none)
    (actions : List FileAction)
    (hrun : Runs.Allowed AtomicFiles.step (Served service) (AtomicFiles.start disk) actions) :
    let reached := actions.foldl AtomicFiles.step (AtomicFiles.start disk)
    let published := actions.foldl AtomicFiles.publish ⟨disk, fun _ => []⟩
    (∀ path, ¬Temporary path → reached.disk path = published.files path) ∧
      (∀ reference path, resolveStoragePath service.cwd service.configuredRoot reference false =
        .ok path → ¬Temporary path →
          stat builtins service reached.disk reference = stat builtins service published.files reference) ∧
      ∀ temp, Temporary temp → (reached.disk temp).isSome = true →
        temp ∈ reached.writing ∨ temp ∈ reached.lost := by
  intro reached published
  have hproper : Runs.Allowed AtomicFiles.step (AtomicFiles.Proper Temporary)
      (AtomicFiles.start disk) actions :=
    Runs.allowed_mono AtomicFiles.step _ _ (fun s action h => served_proper service s action h) _ _ hrun
  have hshows := AtomicFiles.run_shows _ _ actions
    (AtomicFiles.start_shows disk hclean : AtomicFiles.Shows Temporary _ _) hproper
  refine ⟨hshows.files, ?_, hshows.left⟩
  intro reference path hresolved hlasting
  simp only [stat, hresolved, statFile, Except.map]
  rw [hshows.files path hlasting]

def cutOff : List FileAction :=
  let dir := bucketDir storage (js "pictures")
  let one := tempPath dir ⟨1, fun _ => 0⟩
  let two := tempPath dir ⟨2, fun _ => 0⟩
  [.opens one, .opens two, .appends two [0x89], .appends one [0x89, 0x50],
    .commits one (storedFile (js "pictures") dir ⟨1, fun _ => 0⟩ 2 png).targetPath, .crashes]

theorem cutOff_served :
    Runs.Allowed AtomicFiles.step (Served storage) (AtomicFiles.start fun _ => none) cutOff := by
  have hbucket : BucketName (js "pictures") :=
    ⟨by decide, by decide, by decide, by decide, by decide⟩
  refine ⟨⟨.creates _ _ hbucket, List.not_mem_nil⟩, ⟨.creates _ _ hbucket, ?_⟩,
    ⟨.writes _ _, List.mem_cons_self⟩, ⟨.writes _ _, List.mem_cons_of_mem _ List.mem_cons_self⟩,
    ⟨.renames _ _ _ _ hbucket, List.mem_cons_of_mem _ List.mem_cons_self⟩, ⟨.stops, trivial⟩, trivial⟩
  change ¬_ ∈ [_]
  decide +kernel

theorem writes_appear_whole_cutOff :
    let reached := cutOff.foldl AtomicFiles.step (AtomicFiles.start fun _ => none)
    let published := cutOff.foldl AtomicFiles.publish ⟨fun _ => none, fun _ => []⟩
    (∀ path, ¬Temporary path → reached.disk path = published.files path) ∧
      (∀ reference path, resolveStoragePath storage.cwd storage.configuredRoot reference false =
        .ok path → ¬Temporary path →
          stat ⟨id, fun _ => false⟩ storage reached.disk reference =
            stat ⟨id, fun _ => false⟩ storage published.files reference) ∧
      ∀ temp, Temporary temp → (reached.disk temp).isSome = true →
        temp ∈ reached.writing ∨ temp ∈ reached.lost :=
  writes_appear_whole ⟨id, fun _ => false⟩ storage (fun _ => none) (fun _ _ => rfl) cutOff cutOff_served

end Glassbeetle.StorageRuns
