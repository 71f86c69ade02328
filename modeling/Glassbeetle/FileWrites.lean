import Glassbeetle.ContentTypes
import Glassbeetle.StorageReferences

set_option autoImplicit false

/-!
# Writing a file at once and as a stream

The operations on the disk take effect in the order in which they are issued.
-/
namespace Glassbeetle.FileWrites
open JsText PosixPath Identifiers StoragePaths StorageReferences ContentTypes

variable (builtins : Builtins)

abbrev Disk := JsString → Option (List UInt8)

def writeFile (disk : Disk) (path : JsString) (bytes : List UInt8) : Disk :=
  Function.update disk path (some bytes)

def append (disk : Disk) (path : JsString) (bytes : List UInt8) : Disk :=
  Function.update disk path (some ((disk path).getD [] ++ bytes))

def unlink (disk : Disk) (path : JsString) : Disk := Function.update disk path none

def rename (disk : Disk) (oldPath newPath : JsString) : Disk :=
  (disk oldPath).elim disk fun bytes => writeFile (unlink disk oldPath) newPath bytes

structure Draw where
  now : ℕ
  random : Fin 10 → UInt8

def Draw.id (draw : Draw) : JsString := newId draw.now draw.random

/-- The paths a write uses in the directory of its bucket. -/
def tempPath (bucketDir : JsString) (draw : Draw) : JsString :=
  joinPath bucketDir (js ".tmp-" ++ draw.id)

def storedFile (bucket bucketDir : JsString) (draw : Draw) (size : ℕ)
    (detected : DetectedContentType) : StoredFile where
  reference := bucket ++ js "/" ++ (draw.id ++ detected.extension)
  targetPath := joinPath bucketDir (draw.id ++ detected.extension)
  size := size
  contentType := detected.mime

def writeBuffer (bucket bucketDir : JsString) (buffer : List UInt8)
    (options : FileValidationOptions) (draw : Draw) (disk : Disk) :
    Except FileStorageError StoredFile × Disk :=
  match validateFile builtins buffer options with
  | .error error => (.error error, disk)
  | .ok detected =>
    let stored := storedFile bucket bucketDir draw buffer.length detected
    let written := writeFile disk (tempPath bucketDir draw) buffer
    (.ok stored, rename written (tempPath bucketDir draw) stored.targetPath)

structure Intake where
  initialChunks : List (List UInt8)
  initialBytesCount : ℕ
  totalBytes : ℕ
  disk : Disk

def maxHeaderBytes : ℕ := 4096

def keepHeader (buf : List UInt8) (s : Intake) : Intake :=
  if s.initialBytesCount < maxHeaderBytes then
    let slice := buf.take (maxHeaderBytes - s.initialBytesCount)
    { s with
      initialChunks := s.initialChunks ++ [slice]
      initialBytesCount := s.initialBytesCount + slice.length }
  else s

/-- The handler of a chunk. One too many ends the stream before it is written. -/
def onData (maxBytes : Option ℕ) (path : JsString) (s : Intake) (buf : List UInt8) :
    Except (FileStorageError × Disk) Intake :=
  let totalBytes := s.totalBytes + buf.length
  match checkSize maxBytes totalBytes with
  | .error error => .error (error, s.disk)
  | .ok () =>
    .ok (keepHeader buf { s with totalBytes := totalBytes, disk := append s.disk path buf })

def consume (maxBytes : Option ℕ) (path : JsString) (s : Intake) :
    List (List UInt8) → Except (FileStorageError × Disk) Intake
  | [] => .ok s
  | buf :: rest =>
    match onData maxBytes path s buf with
    | .error failure => .error failure
    | .ok s => consume maxBytes path s rest

def checkHeader (header : List UInt8) (allowedMimeTypes : Option (List JsString)) :
    Except FileStorageError Unit :=
  if allowedMimeTypes.getD [] = [] then .ok ()
  else (validateFile builtins header ⟨none, allowedMimeTypes⟩).map fun _ => ()

def settle (bucket bucketDir : JsString) (options : FileValidationOptions) (draw : Draw)
    (s : Intake) : Except FileStorageError StoredFile × Disk :=
  let path := tempPath bucketDir draw
  let headerBuffer := s.initialChunks.flatten
  let detected := detectContentType builtins headerBuffer
  match checkHeader builtins headerBuffer options.allowedMimeTypes with
  | .error error => (.error error, unlink s.disk path)
  | .ok () =>
    let stored := storedFile bucket bucketDir draw s.totalBytes detected
    (.ok stored, rename s.disk path stored.targetPath)

def writeStreamInternal (bucket bucketDir : JsString) (chunks : List (List UInt8))
    (options : FileValidationOptions) (draw : Draw) (disk : Disk) :
    Except FileStorageError StoredFile × Disk :=
  let path := tempPath bucketDir draw
  match consume options.maxBytes path ⟨[], 0, 0, writeFile disk path []⟩ chunks with
  | .error (error, disk) => (.error error, unlink disk path)
  | .ok s => settle builtins bucket bucketDir options draw s

inductive Content where
  | buffer (bytes : List UInt8)
  | stream (chunks : List (List UInt8))

def write (service : FileStorageService) (bucket : JsString) (content : Content)
    (options : FileValidationOptions) (draw : Draw) (disk : Disk) :
    Except FileStorageError StoredFile × Disk :=
  match assertValidBucket bucket with
  | .error error => (.error error, disk)
  | .ok validBucket =>
    let bucketDir := joinPath service.configuredRoot validBucket
    match content with
    | .buffer bytes => writeBuffer builtins validBucket bucketDir bytes options draw disk
    | .stream chunks => writeStreamInternal builtins validBucket bucketDir chunks options draw disk

structure FileStat where
  size : ℕ
  contentType : JsString
  deriving DecidableEq

/-- `none` where there is no file. -/
def statFile (disk : Disk) (path : JsString) : Option FileStat :=
  (disk path).map fun bytes =>
    ⟨bytes.length, (detectContentType builtins (bytes.take (min bytes.length 4096))).mime⟩

def stat (service : FileStorageService) (disk : Disk) (reference : JsString) :
    Except FileStorageError (Option FileStat) :=
  (resolveStoragePath service.cwd service.configuredRoot reference false).map
    (statFile builtins disk)

/-! ## The stream's bookkeeping -/

structure Sound (disk : Disk) (path : JsString) (seen : List UInt8) (s : Intake) : Prop where
  header : s.initialChunks.flatten = seen.take maxHeaderBytes
  count : s.initialBytesCount = min maxHeaderBytes seen.length
  total : s.totalBytes = seen.length
  disk : s.disk = writeFile disk path seen

theorem keepHeader_sound (disk : Disk) (path : JsString) (seen buf : List UInt8) (s : Intake)
    (h : Sound disk path seen s) :
    Sound disk path (seen ++ buf)
      (keepHeader buf { s with totalBytes := s.totalBytes + buf.length, disk := append s.disk path buf }) := by
  have htotal : s.totalBytes + buf.length = (seen ++ buf).length := by
    rw [h.total, List.length_append]
  have hdisk : append s.disk path buf = writeFile disk path (seen ++ buf) := by
    rw [append, h.disk, writeFile, writeFile, Function.update_self, Function.update_idem]
    rfl
  unfold keepHeader
  have hcount := h.count
  dsimp only
  split_ifs with hroom
  · have hshort : seen.length < maxHeaderBytes := by omega
    have hseen : s.initialBytesCount = seen.length := by omega
    refine ⟨?_, ?_, htotal, hdisk⟩
    · dsimp only
      rw [List.flatten_append, h.header, hseen, List.take_append,
        List.take_of_length_le (Nat.le_of_lt hshort), List.flatten_singleton]
    · dsimp only
      rw [hseen, List.length_take, List.length_append]
      omega
  · have hfull : maxHeaderBytes ≤ seen.length := by omega
    refine ⟨?_, ?_, htotal, hdisk⟩
    · rw [List.take_append_of_le_length hfull]
      exact h.header
    · rw [List.length_append]
      dsimp only
      omega

theorem checkSize_smaller (maxBytes : Option ℕ) (small large : ℕ) (h : small ≤ large)
    (hlarge : checkSize maxBytes large = .ok ()) : checkSize maxBytes small = .ok () := by
  cases maxBytes with
  | none => rfl
  | some limit =>
    have hfits : ¬limit < large := by
      intro hover
      rw [checkSize, Option.elim_some, if_pos hover] at hlarge
      cases hlarge
    rw [checkSize, Option.elim_some, if_neg (by omega)]

theorem checkSize_error (maxBytes : Option ℕ) (size : ℕ) (error : FileStorageError)
    (h : checkSize maxBytes size = .error error) :
    ∃ limit, maxBytes = some limit ∧ error = .payloadTooLarge limit size := by
  cases maxBytes with
  | none => cases h
  | some limit =>
    rw [checkSize, Option.elim_some] at h
    split_ifs at h
    exact ⟨limit, rfl, (Except.error.inj h).symm⟩

section Streams
variable (maxBytes : Option ℕ) (disk : Disk) (path : JsString)

theorem consume_ok (chunks : List (List UInt8)) (seen : List UInt8) (s : Intake)
    (h : Sound disk path seen s) (hsize : checkSize maxBytes (seen ++ chunks.flatten).length = .ok ()) :
    ∃ t, consume maxBytes path s chunks = .ok t ∧ Sound disk path (seen ++ chunks.flatten) t := by
  induction chunks generalizing seen s with
  | nil =>
    rw [List.flatten_nil, List.append_nil]
    exact ⟨s, rfl, h⟩
  | cons buf rest ih =>
    rw [List.flatten_cons, ← List.append_assoc] at hsize ⊢
    have hnext : checkSize maxBytes (s.totalBytes + buf.length) = .ok () := by
      apply checkSize_smaller maxBytes _ _ _ hsize
      rw [h.total, List.length_append, List.length_append]
      omega
    obtain ⟨t, ht, hsound⟩ := ih (seen ++ buf) _ (keepHeader_sound disk path seen buf s h) hsize
    refine ⟨t, ?_, hsound⟩
    rw [consume, onData, hnext]
    exact ht

theorem consume_error (chunks : List (List UInt8)) (seen : List UInt8) (s : Intake)
    (h : Sound disk path seen s) (hsmall : checkSize maxBytes seen.length = .ok ())
    (error : FileStorageError) (hsize : checkSize maxBytes (seen ++ chunks.flatten).length = .error error) :
    ∃ limit actual left, maxBytes = some limit ∧
      consume maxBytes path s chunks = .error (.payloadTooLarge limit actual, left) ∧
      unlink left path = unlink disk path := by
  induction chunks generalizing seen s with
  | nil =>
    rw [List.flatten_nil, List.append_nil, hsmall] at hsize
    cases hsize
  | cons buf rest ih =>
    rw [List.flatten_cons, ← List.append_assoc] at hsize
    have htotal : s.totalBytes + buf.length = (seen ++ buf).length := by
      rw [h.total, List.length_append]
    rw [consume, onData]
    cases hnext : checkSize maxBytes (s.totalBytes + buf.length) with
    | error refusal =>
      obtain ⟨limit, hlimit, rfl⟩ := checkSize_error maxBytes _ refusal hnext
      refine ⟨limit, _, s.disk, hlimit, rfl, ?_⟩
      rw [h.disk]
      exact Function.update_idem _ _ _
    | ok _ =>
      exact ih (seen ++ buf) _ (keepHeader_sound disk path seen buf s h) (htotal ▸ hnext) hsize

end Streams

theorem validateFile_eq (data : List UInt8) (options : FileValidationOptions) :
    validateFile builtins data options =
      (checkSize options.maxBytes data.length).bind fun _ =>
        (checkType builtins options.allowedMimeTypes (detectContentType builtins data)).map fun _ =>
          detectContentType builtins data := by
  unfold validateFile
  cases checkSize options.maxBytes data.length with
  | error error => rfl
  | ok _ =>
    cases hcheck : checkType builtins options.allowedMimeTypes (detectContentType builtins data) with
    | error error =>
      change (checkType builtins _ _ >>= _) = _
      rw [hcheck]
      rfl
    | ok _ =>
      change (checkType builtins _ _ >>= _) = _
      rw [hcheck]
      rfl

theorem checkHeader_take (bytes : List UInt8) (allowedMimeTypes : Option (List JsString)) :
    checkHeader builtins (bytes.take maxHeaderBytes) allowedMimeTypes =
      checkType builtins allowedMimeTypes (detectContentType builtins bytes) := by
  unfold checkHeader
  split_ifs with hnone
  · unfold checkType
    rw [hnone]
    rfl
  · rw [validateFile_eq]
    change ((checkType builtins allowedMimeTypes
      (detectContentType builtins (bytes.take sampleSize))).map _).map _ = _
    rw [detectContentType_take]
    cases checkType builtins allowedMimeTypes (detectContentType builtins bytes) <;> rfl

inductive SameKind : FileStorageError → FileStorageError → Prop where
  | same (error : FileStorageError) : SameKind error error
  | tooLarge (limit actual actual' : ℕ) :
      SameKind (.payloadTooLarge limit actual) (.payloadTooLarge limit actual')

section Writes
variable (bucket bucketDir : JsString) (chunks : List (List UInt8)) (options : FileValidationOptions)
  (draw : Draw) (disk : Disk)

theorem opened_sound (path : JsString) : Sound disk path [] ⟨[], 0, 0, writeFile disk path []⟩ where
  header := rfl
  count := rfl
  total := rfl
  disk := rfl

section Settled
variable (bytes : List UInt8) (s : Intake) (h : Sound disk (tempPath bucketDir draw) bytes s)

include h in
theorem settle_error (error : FileStorageError)
    (htype : checkType builtins options.allowedMimeTypes (detectContentType builtins bytes) = .error error) :
    settle builtins bucket bucketDir options draw s =
      (.error error, unlink disk (tempPath bucketDir draw)) := by
  unfold settle
  dsimp only
  rw [h.header, checkHeader_take, htype]
  dsimp only
  rw [h.disk]
  exact congrArg (Prod.mk _) (Function.update_idem _ _ _)

include h in
theorem settle_ok
    (htype : checkType builtins options.allowedMimeTypes (detectContentType builtins bytes) = .ok ()) :
    settle builtins bucket bucketDir options draw s =
      (.ok (storedFile bucket bucketDir draw bytes.length (detectContentType builtins bytes)),
        rename (writeFile disk (tempPath bucketDir draw) bytes) (tempPath bucketDir draw)
          (storedFile bucket bucketDir draw bytes.length
            (detectContentType builtins bytes)).targetPath) := by
  have hdetected : detectContentType builtins (bytes.take maxHeaderBytes) =
      detectContentType builtins bytes := detectContentType_take builtins bytes
  unfold settle
  dsimp only
  rw [h.header, checkHeader_take, htype, hdetected, h.total, h.disk]

end Settled

def Stores (service : FileStorageService) (bytes : List UInt8)
    (outcome : Except FileStorageError StoredFile × Disk) : Prop :=
  let detected := detectContentType builtins bytes
  outcome.1 = .ok (storedFile bucket bucketDir draw bytes.length detected) ∧
    outcome.2 (storedFile bucket bucketDir draw bytes.length detected).targetPath = some bytes ∧
    ∀ reference, resolveStoragePath service.cwd service.configuredRoot reference false =
        .ok (storedFile bucket bucketDir draw bytes.length detected).targetPath →
      stat builtins service outcome.2 reference = .ok (some ⟨bytes.length, detected.mime⟩)

/-- No file is left that was not there, neither a temporary one nor a stored one. -/
def Refuses (disk : Disk) (error : FileStorageError)
    (outcome : Except FileStorageError StoredFile × Disk) : Prop :=
  outcome.1 = .error error ∧ ∀ path, outcome.2 path = disk path ∨
    path = tempPath bucketDir draw ∧ outcome.2 path = none

theorem statFile_written (bytes : List UInt8) (disk : Disk) (path : JsString)
    (h : disk path = some bytes) :
    statFile builtins disk path = some ⟨bytes.length, (detectContentType builtins bytes).mime⟩ := by
  have hhead : bytes.take (min bytes.length 4096) = bytes.take sampleSize := by
    rw [List.take_eq_take_iff]
    change min (min bytes.length 4096) bytes.length = min 4096 bytes.length
    omega
  rw [statFile, h, Option.map_some, hhead, detectContentType_take]

theorem stores_renamed (service : FileStorageService) (bytes : List UInt8) :
    Stores builtins bucket bucketDir draw service bytes
      (.ok (storedFile bucket bucketDir draw bytes.length (detectContentType builtins bytes)),
        rename (writeFile disk (tempPath bucketDir draw) bytes) (tempPath bucketDir draw)
          (storedFile bucket bucketDir draw bytes.length
            (detectContentType builtins bytes)).targetPath) := by
  have hthere : rename (writeFile disk (tempPath bucketDir draw) bytes) (tempPath bucketDir draw)
      (storedFile bucket bucketDir draw bytes.length (detectContentType builtins bytes)).targetPath
      (storedFile bucket bucketDir draw bytes.length (detectContentType builtins bytes)).targetPath =
        some bytes := by
    unfold rename
    rw [writeFile, Function.update_self, Option.elim_some, writeFile, Function.update_self]
  refine ⟨rfl, hthere, ?_⟩
  intro reference hreference
  unfold stat
  rw [hreference]
  exact congrArg Except.ok (statFile_written builtins bytes _ _ hthere)

theorem refuses_unlinked (error : FileStorageError) :
    Refuses bucketDir draw disk error (.error error, unlink disk (tempPath bucketDir draw)) := by
  refine ⟨rfl, ?_⟩
  intro path
  by_cases hpath : path = tempPath bucketDir draw
  · refine .inr ⟨hpath, ?_⟩
    rw [hpath]
    exact Function.update_self _ _ _
  · exact .inl (Function.update_of_ne hpath _ _)

theorem contents_alike (service : FileStorageService) (one two : Draw) :
    (Stores builtins bucket bucketDir one service chunks.flatten
        (writeBuffer builtins bucket bucketDir chunks.flatten options one disk) ∧
      Stores builtins bucket bucketDir two service chunks.flatten
        (writeStreamInternal builtins bucket bucketDir chunks options two disk)) ∨
    ∃ error error', SameKind error error' ∧
      Refuses bucketDir one disk error
        (writeBuffer builtins bucket bucketDir chunks.flatten options one disk) ∧
      Refuses bucketDir two disk error'
        (writeStreamInternal builtins bucket bucketDir chunks options two disk) := by
  have hopened := opened_sound disk (tempPath bucketDir two)
  unfold writeBuffer
  rw [validateFile_eq]
  cases hsize : checkSize options.maxBytes chunks.flatten.length with
  | error error =>
    have hsmall : checkSize options.maxBytes 0 = .ok () := by
      cases options.maxBytes <;> rfl
    obtain ⟨limit, actual, left, hlimit, hstream, hleft⟩ :=
      consume_error options.maxBytes disk _ chunks [] _ hopened hsmall error hsize
    obtain ⟨limit', hlimit', rfl⟩ := checkSize_error options.maxBytes _ error hsize
    obtain rfl : limit = limit' := Option.some.inj (hlimit.symm.trans hlimit')
    refine .inr ⟨_, _, .tooLarge limit _ actual, ⟨rfl, fun path => .inl rfl⟩, ?_⟩
    have houtcome : writeStreamInternal builtins bucket bucketDir chunks options two disk =
        (.error (.payloadTooLarge limit actual), unlink disk (tempPath bucketDir two)) := by
      unfold writeStreamInternal
      dsimp only
      rw [hstream]
      exact congrArg (Prod.mk _) hleft
    rw [houtcome]
    exact refuses_unlinked bucketDir two disk _
  | ok _ =>
    obtain ⟨s, hs, hsound⟩ := consume_ok options.maxBytes disk (tempPath bucketDir two) chunks [] _
      hopened hsize
    have houtcome : writeStreamInternal builtins bucket bucketDir chunks options two disk =
        settle builtins bucket bucketDir options two s := by
      unfold writeStreamInternal
      dsimp only
      rw [hs]
    rw [houtcome]
    cases htype : checkType builtins options.allowedMimeTypes
      (detectContentType builtins chunks.flatten) with
    | error error =>
      rw [settle_error builtins bucket bucketDir options two disk chunks.flatten s hsound error htype]
      exact .inr ⟨error, error, .same error, ⟨rfl, fun path => .inl rfl⟩,
        refuses_unlinked bucketDir two disk error⟩
    | ok _ =>
      rw [settle_ok builtins bucket bucketDir options two disk chunks.flatten s hsound htype]
      exact .inl ⟨stores_renamed builtins bucket bucketDir one disk service chunks.flatten,
        stores_renamed builtins bucket bucketDir two disk service chunks.flatten⟩

end Writes

/-- The reference that a write returns leads to its file from every addressable bucket. -/
theorem reference_resolves (service : FileStorageService) (bucket : JsString) (draw : Draw)
    (size : ℕ) (detected : DetectedContentType) (hvalid : assertValidBucket bucket = .ok (trim bucket))
    (haddressable : Addressable bucket) :
    let stored := storedFile (trim bucket) (joinPath service.configuredRoot (trim bucket)) draw size
      detected
    resolveStoragePath service.cwd service.configuredRoot stored.reference false =
      .ok stored.targetPath := by
  have hwritten : StoragePaths.write service bucket size (.ok detected) draw.now draw.random =
      .ok (storedFile (trim bucket) (joinPath service.configuredRoot (trim bucket)) draw size
        detected) := by
    unfold StoragePaths.write
    rw [hvalid]
    rfl
  exact (resolve_written service bucket size draw.now _ draw.random _ hwritten).mpr haddressable

def Found (service : FileStorageService) (bytes : List UInt8)
    (outcome : Except FileStorageError StoredFile × Disk) : Prop :=
  ∀ stored, outcome.1 = .ok stored → stat builtins service outcome.2 stored.reference =
    .ok (some ⟨bytes.length, (detectContentType builtins bytes).mime⟩)

theorem found_of_stores (service : FileStorageService) (bucket : JsString) (draw : Draw)
    (bytes : List UInt8) (outcome : Except FileStorageError StoredFile × Disk)
    (hvalid : assertValidBucket bucket = .ok (trim bucket)) (haddressable : Addressable bucket)
    (h : Stores builtins (trim bucket) (joinPath service.configuredRoot (trim bucket)) draw service
      bytes outcome) : Found builtins service bytes outcome := by
  intro stored hstored
  obtain ⟨houtcome, -, hstat⟩ := h
  obtain rfl := Except.ok.inj (houtcome.symm.trans hstored)
  exact hstat _ (reference_resolves service bucket draw bytes.length _ hvalid haddressable)

/-- How content is cut into chunks decides neither whether it is stored nor as what, the type is that
of its first 4096 bytes, and in an addressable bucket the reference returned leads to the file. -/
theorem writes_alike :
    (∀ bytes, detectContentType builtins (bytes.take 4096) = detectContentType builtins bytes) ∧
    ∀ (service : FileStorageService) (bucket : JsString) (chunks : List (List UInt8))
      (options : FileValidationOptions) (one two : Draw) (disk : Disk),
      let bucketDir := joinPath service.configuredRoot (trim bucket)
      let whole := write builtins service bucket (.buffer chunks.flatten) options one disk
      let streamed := write builtins service bucket (.stream chunks) options two disk
      ((Stores builtins (trim bucket) bucketDir one service chunks.flatten whole ∧
          Stores builtins (trim bucket) bucketDir two service chunks.flatten streamed) ∨
        ∃ error error', SameKind error error' ∧ Refuses bucketDir one disk error whole ∧
          Refuses bucketDir two disk error' streamed) ∧
      (Addressable bucket → Found builtins service chunks.flatten whole ∧
        Found builtins service chunks.flatten streamed) := by
  refine ⟨detectContentType_take builtins, ?_⟩
  intro service bucket chunks options one two disk
  unfold write
  dsimp only
  cases hbucket : assertValidBucket bucket with
  | error error =>
    refine ⟨.inr ⟨error, error, .same error, ⟨rfl, fun path => .inl rfl⟩,
      ⟨rfl, fun path => .inl rfl⟩⟩, fun _ => ⟨fun _ h => (nomatch h), fun _ h => (nomatch h)⟩⟩
  | ok validBucket =>
    obtain rfl := (assertValidBucket_ok bucket validBucket hbucket).1
    have halike := contents_alike builtins (trim bucket) (joinPath service.configuredRoot (trim bucket))
      chunks options disk service one two
    refine ⟨halike, fun haddressable => ?_⟩
    rcases halike with ⟨hwhole, hstreamed⟩ | ⟨error, error', -, hwhole, hstreamed⟩
    · exact ⟨found_of_stores builtins service bucket one _ _ hbucket haddressable hwhole,
        found_of_stores builtins service bucket two _ _ hbucket haddressable hstreamed⟩
    · refine ⟨fun stored h => ?_, fun stored h => ?_⟩
      · cases hwhole.1.symm.trans h
      · cases hstreamed.1.symm.trans h

end Glassbeetle.FileWrites
