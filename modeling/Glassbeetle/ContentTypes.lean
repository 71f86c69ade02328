import Mathlib.Data.List.Find
import Glassbeetle.StoragePaths
import Glassbeetle.Utf8Text

set_option autoImplicit false

namespace Glassbeetle.ContentTypes
open JsText StoragePaths

structure Builtins where
  toLowerCase : JsString → JsString
  /-- `JSON.parse` does not throw. -/
  parsesJson : JsString → Bool

variable (builtins : Builtins)

def signature : List (List UInt8) → List UInt8 → Bool
  | [], _ => true
  | _ :: _, [] => false
  | allowed :: rest, byte :: bytes => allowed.contains byte && signature rest bytes

def subarray (buf : List UInt8) (start stop : ℕ) : List UInt8 := (buf.take stop).drop start

/-- `toString('ascii')`, which drops the highest bit of each byte. -/
def ascii (bytes : List UInt8) : JsString := bytes.map fun byte => (byte &&& 0x7F).toUInt16

def isControl (byte : UInt8) : Bool := byte < 0x20 && byte != 0x09 && byte != 0x0A && byte != 0x0D

def isText : ℕ → List UInt8 → Bool
  | _, [] => true
  | count, byte :: rest =>
    if byte = 0 then false
    else if isControl byte then decide (count + 1 ≤ 2) && isText (count + 1) rest
    else isText count rest

def sampleSize : ℕ := 4096

def extractTextSample (buf : List UInt8) : Option JsString :=
  let startOffset := if signature [[0xEF], [0xBB], [0xBF]] buf then 3 else 0
  let sample := subarray buf startOffset sampleSize
  if isText 0 sample then some (Utf8Text.ofUtf8 sample) else none

def octetStream : DetectedContentType :=
  ⟨js "application/octet-stream", js ".bin", by decide +kernel⟩

def isSvg (lower : JsString) : Bool :=
  (includes lower (js "<svg") &&
      (startsWith lower (js "<?xml") || startsWith lower (js "<!doctype svg") ||
        startsWith lower (js "<svg"))) ||
    (startsWith lower (js "<svg") && includes lower (js "xmlns"))

def textType (textSample : JsString) : DetectedContentType :=
  let trimmed := trim textSample
  let lower := builtins.toLowerCase trimmed
  if isSvg lower then ⟨js "image/svg+xml", js ".svg", by decide +kernel⟩
  else if startsWith lower (js "<!doctype html") || startsWith lower (js "<html") then
    ⟨js "text/html", js ".html", by decide +kernel⟩
  else if startsWith lower (js "<?xml") then ⟨js "application/xml", js ".xml", by decide +kernel⟩
  else if (startsWith trimmed (js "\x7b") || startsWith trimmed (js "[")) &&
      builtins.parsesJson trimmed then
    ⟨js "application/json", js ".json", by decide +kernel⟩
  else ⟨js "text/plain", js ".txt", by decide +kernel⟩

def unsignedType (buf : List UInt8) : DetectedContentType :=
  (extractTextSample buf).elim octetStream (textType builtins)

def sqliteHeader : JsString := js "SQLite format 3" ++ [0]

/-- The brands of `avif`, and any other for `mp4`. -/
def isAvif (brand : JsString) : Bool :=
  startsWith brand (js "avif") || startsWith brand (js "avis") || startsWith brand (js "mif1") ||
    startsWith brand (js "msf1")

def isRiff (format : JsString) (buf : List UInt8) : Bool :=
  decide (12 ≤ buf.length) && signature [[0x52], [0x49], [0x46], [0x46]] buf &&
    ascii (subarray buf 8 12) == format

def isBaseMedia (buf : List UInt8) : Bool :=
  decide (12 ≤ buf.length) && ascii (subarray buf 4 8) == js "ftyp"

def isSqlite (buf : List UInt8) : Bool :=
  decide (16 ≤ buf.length) && Utf8Text.ofUtf8 (subarray buf 0 16) == sqliteHeader

def isTar (buf : List UInt8) : Bool :=
  decide (262 ≤ buf.length) && startsWith (ascii (subarray buf 257 262)) (js "ustar")

structure Format where
  test : List UInt8 → Bool
  detected : DetectedContentType

def formats : List Format :=
  [⟨signature [[0xFF], [0xD8], [0xFF]], js "image/jpeg", js ".jpg", by decide +kernel⟩,
    ⟨signature [[0x89], [0x50], [0x4E], [0x47], [0x0D], [0x0A], [0x1A], [0x0A]],
      js "image/png", js ".png", by decide +kernel⟩,
    ⟨signature [[0x47], [0x49], [0x46], [0x38], [0x37, 0x39], [0x61]],
      js "image/gif", js ".gif", by decide +kernel⟩,
    ⟨isRiff (js "WEBP"), js "image/webp", js ".webp", by decide +kernel⟩,
    ⟨isRiff (js "WAVE"), js "audio/wav", js ".wav", by decide +kernel⟩,
    ⟨fun buf => isBaseMedia buf && isAvif (ascii (subarray buf 8 12)),
      js "image/avif", js ".avif", by decide +kernel⟩,
    ⟨isBaseMedia, js "video/mp4", js ".mp4", by decide +kernel⟩,
    ⟨signature [[0x42], [0x4D]], js "image/bmp", js ".bmp", by decide +kernel⟩,
    ⟨signature [[0x49], [0x49], [0x2A], [0x00]], js "image/tiff", js ".tiff", by decide +kernel⟩,
    ⟨signature [[0x4D], [0x4D], [0x00], [0x2A]], js "image/tiff", js ".tiff", by decide +kernel⟩,
    ⟨signature [[0x00], [0x00], [0x01], [0x00]], js "image/x-icon", js ".ico", by decide +kernel⟩,
    ⟨signature [[0x25], [0x50], [0x44], [0x46]], js "application/pdf", js ".pdf",
      by decide +kernel⟩,
    ⟨signature [[0x1F], [0x8B]], js "application/gzip", js ".gz", by decide +kernel⟩,
    ⟨signature [[0x50], [0x4B], [0x03, 0x05, 0x07], [0x04, 0x06, 0x08]],
      js "application/zip", js ".zip", by decide +kernel⟩,
    ⟨isSqlite, js "application/vnd.sqlite3", js ".db", by decide +kernel⟩,
    ⟨isTar, js "application/x-tar", js ".tar", by decide +kernel⟩,
    ⟨signature [[0x4F], [0x67], [0x67], [0x53]], js "audio/ogg", js ".ogg", by decide +kernel⟩,
    ⟨signature [[0x1A], [0x45], [0xDF], [0xA3]], js "video/webm", js ".webm", by decide +kernel⟩,
    ⟨signature [[0x49], [0x44], [0x33]], js "audio/mpeg", js ".mp3", by decide +kernel⟩,
    ⟨signature [[0xFF], [0xFB, 0xF3, 0xF2]], js "audio/mpeg", js ".mp3", by decide +kernel⟩]

def detectContentType (buf : List UInt8) : DetectedContentType :=
  if buf.length = 0 then octetStream
  else ((formats.find? fun format => format.test buf).map Format.detected).getD
    (unsignedType builtins buf)

def mimeAliases : List (JsString × JsString) :=
  [(js "image/jpg", js "image/jpeg"), (js "image/x-png", js "image/png"),
    (js "image/vnd.microsoft.icon", js "image/x-icon"),
    (js "application/x-gzip", js "application/gzip"),
    (js "application/x-gunzip", js "application/gzip"),
    (js "application/gzipped", js "application/gzip"), (js "gzip", js "application/gzip"),
    (js "application/x-zip", js "application/zip"),
    (js "application/x-zip-compressed", js "application/zip"),
    (js "application/x-sqlite3", js "application/vnd.sqlite3"),
    (js "application/sqlite3", js "application/vnd.sqlite3"),
    (js "application/x-sqlite", js "application/vnd.sqlite3"), (js "audio/mp3", js "audio/mpeg"),
    (js "text/x-markdown", js "text/markdown")]

def normalizeMimeType (mime : JsString) : JsString :=
  let lower := builtins.toLowerCase (trim mime)
  ((mimeAliases.find? fun entry => entry.1 = lower).map Prod.snd).getD lower

structure FileValidationOptions where
  maxBytes : Option ℕ
  allowedMimeTypes : Option (List JsString)

def checkSize (maxBytes : Option ℕ) (size : ℕ) : Except FileStorageError Unit :=
  maxBytes.elim (.ok ()) fun limit =>
    if limit < size then .error (.payloadTooLarge limit size) else .ok ()

/-- An allowed type is the type itself, any type, or any of one kind. -/
def allows (normalizedDetected allowed : JsString) : Bool :=
  if allowed = js "*/*" ∨ allowed = normalizedDetected then true
  else if endsWith allowed (js "/*") then
    startsWith normalizedDetected (allowed.take (allowed.length - 2) ++ js "/")
  else false

def checkType (allowedMimeTypes : Option (List JsString)) (detected : DetectedContentType) :
    Except FileStorageError Unit :=
  let allowed := allowedMimeTypes.getD []
  if allowed = [] then .ok ()
  else if (allowed.map (normalizeMimeType builtins)).any
      (allows (normalizeMimeType builtins detected.mime)) then .ok ()
  else .error (.unsupportedMediaType detected.mime allowed)

def validateFile (data : List UInt8) (options : FileValidationOptions) :
    Except FileStorageError DetectedContentType := do
  checkSize options.maxBytes data.length
  let detected := detectContentType builtins data
  checkType builtins options.allowedMimeTypes detected
  return detected

/-! ## Only the first bytes count -/

theorem signature_take (tests : List (List UInt8)) (buf : List UInt8) (n : ℕ)
    (h : tests.length ≤ n) : signature tests (buf.take n) = signature tests buf := by
  induction tests generalizing buf n with
  | nil => rw [signature, signature]
  | cons allowed rest ih =>
    cases n with
    | zero => exact absurd h (Nat.not_succ_le_zero _)
    | succ n =>
      cases buf with
      | nil => rfl
      | cons byte bytes =>
        rw [List.take_succ_cons, signature, signature, ih bytes n (Nat.le_of_succ_le_succ h)]

theorem subarray_take (buf : List UInt8) (start stop n : ℕ) (h : stop ≤ n) :
    subarray (buf.take n) start stop = subarray buf start stop := by
  rw [subarray, subarray, List.take_take, Nat.min_eq_left h]

theorem le_length_take (buf : List UInt8) (k n : ℕ) (h : k ≤ n) :
    (k ≤ (buf.take n).length) = (k ≤ buf.length) := by
  rw [List.length_take]
  exact propext (by omega)

theorem extractTextSample_take (buf : List UInt8) :
    extractTextSample (buf.take sampleSize) = extractTextSample buf := by
  unfold extractTextSample
  dsimp only
  rw [signature_take _ _ _ (by decide), subarray_take _ _ _ _ (Nat.le_refl sampleSize)]

theorem formats_take (buf : List UInt8) :
    ∀ format ∈ formats, format.test (buf.take sampleSize) = format.test buf := by
  have hsignature : ∀ tests : List (List UInt8), tests.length ≤ 8 →
      signature tests (buf.take sampleSize) = signature tests buf := by
    intro tests htests
    exact signature_take tests buf sampleSize (htests.trans (by decide))
  have hsubarray : ∀ start stop, stop ≤ 262 →
      subarray (buf.take sampleSize) start stop = subarray buf start stop := by
    intro start stop hstop
    exact subarray_take buf start stop sampleSize (hstop.trans (by decide))
  have hlength : ∀ k, k ≤ 262 → (k ≤ (buf.take sampleSize).length) = (k ≤ buf.length) := by
    intro k hk
    exact le_length_take buf k sampleSize (hk.trans (by decide))
  have hriff : ∀ format, isRiff format (buf.take sampleSize) = isRiff format buf := by
    intro format
    simp only [isRiff, hlength 12 (by decide), hsubarray 8 12 (by decide),
      hsignature [[0x52], [0x49], [0x46], [0x46]] (by decide)]
  have hmedia : isBaseMedia (buf.take sampleSize) = isBaseMedia buf := by
    simp only [isBaseMedia, hlength 12 (by decide), hsubarray 4 8 (by decide)]
  have hsqlite : isSqlite (buf.take sampleSize) = isSqlite buf := by
    simp only [isSqlite, hlength 16 (by decide), hsubarray 0 16 (by decide)]
  have htar : isTar (buf.take sampleSize) = isTar buf := by
    simp only [isTar, hlength 262 (by decide), hsubarray 257 262 (by decide)]
  have havif : (isBaseMedia (buf.take sampleSize) &&
      isAvif (ascii (subarray (buf.take sampleSize) 8 12))) =
        (isBaseMedia buf && isAvif (ascii (subarray buf 8 12))) := by
    rw [hmedia, hsubarray 8 12 (by decide)]
  simp only [formats, List.forall_mem_cons]
  exact ⟨hsignature _ (by decide), hsignature _ (by decide), hsignature _ (by decide), hriff _,
    hriff _, havif, hmedia, hsignature _ (by decide), hsignature _ (by decide),
    hsignature _ (by decide), hsignature _ (by decide), hsignature _ (by decide),
    hsignature _ (by decide), hsignature _ (by decide), hsqlite, htar, hsignature _ (by decide),
    hsignature _ (by decide), hsignature _ (by decide), hsignature _ (by decide),
    List.forall_mem_nil _⟩

theorem detectContentType_take (buf : List UInt8) :
    detectContentType builtins (buf.take sampleSize) = detectContentType builtins buf := by
  have hempty : ((buf.take sampleSize).length = 0) = (buf.length = 0) := by
    rw [List.length_take]
    exact propext (by unfold sampleSize; omega)
  have hfind : (formats.find? fun format => format.test (buf.take sampleSize)) =
      formats.find? fun format => format.test buf :=
    List.find?_congr (formats_take buf)
  unfold detectContentType unsignedType
  simp only [hempty, hfind, extractTextSample_take]

end Glassbeetle.ContentTypes
