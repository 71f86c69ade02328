import Glassbeetle.Identifiers
import Glassbeetle.PosixPath
import Glassbeetle.UriDecoding

set_option autoImplicit false

/-!
# Storage references

`path-safety.ts` and the naming half of `FileStorageService.write`, on POSIX.
-/
namespace Glassbeetle.StoragePaths
open JsText PosixPath UriDecoding Identifiers

inductive FileStorageError where
  | invalidPath (message : JsString)
  | payloadTooLarge (maxBytes actualBytes : ℕ)
  | unsupportedMediaType (detectedType : JsString) (allowedTypes : List JsString)
  deriving DecidableEq, Repr

def backslash : CodeUnit := 0x5C
def colon : CodeUnit := 0x3A

def isLetter (c : CodeUnit) : Bool := (0x41 ≤ c && c ≤ 0x5A) || (0x61 ≤ c && c ≤ 0x7A)

def isSeparator (c : CodeUnit) : Bool := c == slash || c == backslash

/-- `/^[a-zA-Z]:[/\\]/` -/
def drivePath : JsString → Bool
  | letter :: mark :: c :: _ => isLetter letter && mark == colon && isSeparator c
  | _ => false

/-- `/^[a-zA-Z]:$/` -/
def driveLetter : JsString → Bool
  | [letter, mark] => isLetter letter && mark == colon
  | _ => false

def assertSafeReference (reference : JsString) : Except FileStorageError JsString :=
  if trim reference = [] then
    .error (.invalidPath (js "Storage reference must be a non-empty string"))
  else if includes reference [0] || includes reference (js "%00") then
    .error (.invalidPath (js "Storage reference must not contain null bytes"))
  else match decodeURIComponent reference with
    | none => .error (.invalidPath (js "Storage reference contains malformed URL encoding"))
    | some decodedRef =>
      if includes decodedRef [0] then
        .error (.invalidPath (js "Storage reference must not contain null bytes"))
      else if startsWith decodedRef (js "/") || startsWith decodedRef (js "\\") ||
          startsWith decodedRef (js "//") || startsWith decodedRef (js "\\\\") ||
          drivePath decodedRef || driveLetter decodedRef then
        .error (.invalidPath (js "Storage reference must be relative to storage root, received absolute path: \"" ++
          reference ++ js "\""))
      else .ok decodedRef

/-- `decodedRef.split(/[/\\]+/).filter(Boolean)`: only runs of separators leave empty pieces. -/
def segments (decodedRef : JsString) : List JsString :=
  (decodedRef.splitOnP isSeparator).filter (· ≠ [])

def escapes (relCheck : JsString) (allowRoot : Bool) : Bool :=
  (relCheck == [] && !allowRoot) || relCheck == js ".." ||
    startsWith relCheck (js ".." ++ [slash]) || startsWith relCheck (js "../") ||
    startsWith relCheck (js "..\\") || isAbsolute relCheck

/-- `resolveStoragePath` in a process whose working directory is `cwd`. -/
def resolveStoragePath (cwd storageRoot reference : JsString) (allowRoot : Bool) :
    Except FileStorageError JsString := do
  let decodedRef ← assertSafeReference reference
  let normalizedRoot := resolve cwd [storageRoot]
  let segments := segments decodedRef
  if segments.length = 0 ∧ !allowRoot then
    .error (.invalidPath (js "Storage reference resolves to the root directory itself"))
  else
    let resolvedPath := resolve cwd (normalizedRoot :: segments)
    if escapes (relative cwd normalizedRoot resolvedPath) allowRoot then
      .error (.invalidPath (js "Storage reference \"" ++ reference ++ js "\" escapes the storage root"))
    else
      let rootWithSep :=
        if endsWith normalizedRoot [slash] then normalizedRoot else normalizedRoot ++ [slash]
      if !startsWith resolvedPath rootWithSep && (!allowRoot || resolvedPath != normalizedRoot) then
        .error (.invalidPath (js "Storage reference \"" ++ reference ++
          js "\" escapes the storage root boundary"))
      else .ok resolvedPath

/-- The pairs `detectContentType` returns. -/
def detectable : List (JsString × JsString) :=
  [(js "image/jpeg", js ".jpg"), (js "image/png", js ".png"), (js "image/gif", js ".gif"),
    (js "image/webp", js ".webp"), (js "audio/wav", js ".wav"), (js "image/avif", js ".avif"),
    (js "video/mp4", js ".mp4"), (js "image/bmp", js ".bmp"), (js "image/tiff", js ".tiff"),
    (js "image/x-icon", js ".ico"), (js "application/pdf", js ".pdf"),
    (js "application/gzip", js ".gz"), (js "application/zip", js ".zip"),
    (js "application/vnd.sqlite3", js ".db"), (js "application/x-tar", js ".tar"),
    (js "audio/ogg", js ".ogg"), (js "video/webm", js ".webm"), (js "audio/mpeg", js ".mp3"),
    (js "image/svg+xml", js ".svg"), (js "text/html", js ".html"),
    (js "application/xml", js ".xml"), (js "application/json", js ".json"),
    (js "text/plain", js ".txt"), (js "application/octet-stream", js ".bin")]

structure DetectedContentType where
  mime : JsString
  extension : JsString
  known : (mime, extension) ∈ detectable

/-- The root is whichever of the override, the environment and the data directory is set,
made absolute by the constructor. -/
structure FileStorageService where
  cwd : JsString
  rootPaths : List JsString

def FileStorageService.configuredRoot (service : FileStorageService) : JsString :=
  resolve service.cwd service.rootPaths

def assertValidBucket (bucket : JsString) : Except FileStorageError JsString :=
  if trim bucket = [] then
    .error (.invalidPath (js "Bucket name must be a non-empty string"))
  else
    let trimmed := trim bucket
    if includes trimmed (js "/") || includes trimmed (js "\\") || includes trimmed (js "..") ||
        includes trimmed [0] then
      .error (.invalidPath (js "Invalid bucket name: \"" ++ bucket ++ js "\""))
    else .ok trimmed

/-- What `write` returns, with the path its rename put the bytes at. -/
structure StoredFile where
  reference : JsString
  targetPath : JsString
  size : ℕ
  contentType : JsString
  deriving DecidableEq, Repr

/-- `validated` is the outcome of the size and type checks on the content. -/
def write (service : FileStorageService) (bucket : JsString) (size : ℕ)
    (validated : Except FileStorageError DetectedContentType) (now : ℕ) (random : Fin 10 → UInt8) :
    Except FileStorageError StoredFile := do
  let validBucket ← assertValidBucket bucket
  let bucketDir := joinPath service.configuredRoot validBucket
  let detected ← validated
  let fileName := newId now random ++ detected.extension
  return {
    reference := validBucket ++ js "/" ++ fileName
    targetPath := joinPath bucketDir fileName
    size := size
    contentType := detected.mime }

end Glassbeetle.StoragePaths
