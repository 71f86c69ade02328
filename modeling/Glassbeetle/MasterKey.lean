import Glassbeetle.Encryption
import Glassbeetle.UriDecoding
import Mathlib.Logic.Function.Basic

set_option autoImplicit false

/-!
# The master key file

`getMasterKey` in any number of processes that share a key file. Each call to
the operating system is a step of its own.
-/
namespace Glassbeetle.MasterKey
open JsText Utf8Text UriDecoding ExecutionChain Encryption

def keyManagementError (message : JsString) : Failure :=
  .thrown (js "KeyManagementError") message

/-- `Buffer.from(text, 'hex')` -/
def hexOctets : JsString → Octets
  | high :: low :: rest =>
    UInt8.ofNat (16 * (hexValue high).getD 0 + (hexValue low).getD 0) :: hexOctets rest
  | _ => []

def base64Value (c : CodeUnit) : Option ℕ :=
  if 0x41 ≤ c ∧ c ≤ 0x5A then some (c.toNat - 0x41)
  else if 0x61 ≤ c ∧ c ≤ 0x7A then some (c.toNat - 0x61 + 26)
  else if 0x30 ≤ c ∧ c ≤ 0x39 then some (c.toNat - 0x30 + 52)
  else if c = 0x2B then some 62
  else if c = 0x2F then some 63
  else none

/-- `Buffer.from(text, 'base64')`, for whole groups of which the last may end in one `=`. -/
def base64Octets : JsString → Octets
  | a :: b :: c :: d :: rest =>
    let bits := 0x40000 * (base64Value a).getD 0 + 0x1000 * (base64Value b).getD 0 +
      0x40 * (base64Value c).getD 0 + (base64Value d).getD 0
    let octets := [UInt8.ofNat (bits / 0x10000), UInt8.ofNat (bits / 0x100), UInt8.ofNat bits]
    (if base64Value d = none then octets.take 2 else octets) ++ base64Octets rest
  | _ => []

def parseAndValidateKey (content : Octets) (sourceName : JsString) : Except Failure Octets :=
  if content.length = 32 then .ok content
  else
    let text := trim (ofUtf8 content)
    if text.length = 64 ∧ text.all (fun c => (hexValue c).isSome) then .ok (hexOctets text)
    else if text.length = 44 ∧ (text.take 43).all (fun c => (base64Value c).isSome) ∧
        text.drop 43 = js "=" ∧ (base64Octets text).length = 32 then .ok (base64Octets text)
    else .error (keyManagementError (js "Master key from " ++ sourceName ++
      js " is invalid: must be exactly 32 bytes (received " ++ decimal content.length ++
      js " bytes)"))

/-- What `randomBytes(32)` returns. -/
abbrev Key := { octets : Octets // octets.length = 32 }

inductive Phase where
  | generating
  | creating (newKey : Key)
  | writing (newKey : Key) (left : Octets)
  | opening (recovering : Bool)
  | reading (recovering : Bool) (size : ℕ)

/-- A call under way: whether a process had obtained a key when it began, and whether the operating
system has failed it. -/
structure Call where
  phase : Phase
  late : Bool
  faulted : Bool

structure Returned (Process : Type) where
  process : Process
  late : Bool
  faulted : Bool
  result : Except Failure Octets

structure World (Process : Type) where
  file : Option Octets
  masterKey : Process → Option Octets
  call : Process → Option Call
  log : List (Returned Process)

section Steps
variable {Process : Type} [DecidableEq Process]

def World.obtained (w : World Process) : Bool := w.log.any (·.result.isOk)

def World.proceed (w : World Process) (p : Process) (call : Call) : World Process :=
  { w with call := Function.update w.call p (some call) }

def World.finish (w : World Process) (p : Process) (call : Call)
    (result : Except Failure Octets) : World Process where
  file := w.file
  masterKey := match result with
    | .ok key => Function.update w.masterKey p (some key)
    | .error _ => w.masterKey
  call := Function.update w.call p none
  log := w.log ++ [⟨p, call.late, call.faulted, result⟩]

def World.failed (filePath : JsString) (w : World Process) (p : Process) (call : Call)
    (code message : JsString) : World Process :=
  let call := { call with faulted := true }
  let recovering := match call.phase with
    | .opening recovering => recovering
    | .reading recovering _ => recovering
    | _ => false
  if recovering then w.finish p call (.error (.thrown (js "Error") message))
  else if code = js "EEXIST" then w.proceed p { call with phase := .opening true }
  else w.finish p call (.error (keyManagementError
    (js "Failed to initialize master key at " ++ filePath ++ js ": " ++ message)))

inductive Action (Process : Type) where
  | getMasterKey (p : Process)
  | generate (p : Process) (newKey : Key)
  | create (p : Process)
  /-- So many octets of the rest reach the file. -/
  | write (p : Process) (n : ℕ)
  | close (p : Process)
  | openFile (p : Process)
  /-- So many octets are read: at least the size at the opening, at most what is there. -/
  | read (p : Process) (n : ℕ)
  /-- The operating system refuses what the call does next. -/
  | fault (p : Process) (code message : JsString)
  /-- The process is killed. -/
  | kill (p : Process)

def step (filePath : JsString) (w : World Process) : Action Process → World Process
  | .getMasterKey p =>
    match w.call p, w.masterKey p with
    | some _, _ => w
    | none, some key => w.finish p ⟨.generating, w.obtained, false⟩ (.ok key)
    | none, none => w.proceed p
        ⟨if w.file.isSome then .opening false else .generating, w.obtained, false⟩
  | .generate p newKey =>
    match w.call p with
    | some ⟨.generating, late, faulted⟩ => w.proceed p ⟨.creating newKey, late, faulted⟩
    | _ => w
  | .create p =>
    match w.call p, w.file with
    | some ⟨.creating _, late, faulted⟩, some _ => w.proceed p ⟨.opening true, late, faulted⟩
    | some ⟨.creating newKey, late, faulted⟩, none =>
      { w with file := some [] }.proceed p ⟨.writing newKey newKey, late, faulted⟩
    | _, _ => w
  | .write p n =>
    match w.call p with
    | some ⟨.writing newKey left, late, faulted⟩ =>
      { w with file := w.file.map (· ++ left.take n) }.proceed p
        ⟨.writing newKey (left.drop n), late, faulted⟩
    | _ => w
  | .close p =>
    match w.call p with
    | some ⟨.writing newKey [], late, faulted⟩ =>
      w.finish p ⟨.writing newKey [], late, faulted⟩ (.ok newKey)
    | _ => w
  | .openFile p =>
    match w.call p, w.file with
    | some ⟨.opening recovering, late, faulted⟩, some content =>
      w.proceed p ⟨.reading recovering content.length, late, faulted⟩
    | _, _ => w
  | .read p n =>
    match w.call p, w.file with
    | some ⟨.reading recovering size, late, faulted⟩, some content =>
      if size ≤ n ∧ n ≤ content.length then
        w.finish p ⟨.reading recovering size, late, faulted⟩
          (parseAndValidateKey (content.take n) filePath)
      else w
    | _, _ => w
  | .fault p code message =>
    match w.call p with
    | some call => w.failed filePath p call code message
    | none => w
  | .kill p =>
    { w with masterKey := Function.update w.masterKey p none, call := Function.update w.call p none }

def start : World Process := ⟨none, fun _ => none, fun _ => none, []⟩

end Steps

theorem points_length (pending : Option Utf8.Pending) (octet : ℕ) :
    ((TextDecoder.points pending octet).1.flatMap utf16).length +
        (if (TextDecoder.points pending octet).2.isSome then 1 else 0) ≤
      1 + if pending.isSome then 1 else 0 := by
  have hreplacement : (utf16 0xFFFD).length = 1 := rfl
  unfold TextDecoder.points
  cases pending with
  | none =>
    cases hlead : Utf8.read none octet with
    | point p =>
      obtain ⟨rfl, hascii⟩ := Utf8.lead_point octet p hlead
      simp [utf16_ascii p hascii]
    | more q => simp
    | invalid => simp [hreplacement]
  | some q =>
    cases hnext : Utf8.read (some q) octet with
    | point p =>
      have htwo := utf16_length p
      simp
      omega
    | more q => simp
    | invalid =>
      cases hlead : Utf8.lead octet with
      | point p =>
        obtain ⟨rfl, hascii⟩ := Utf8.lead_point octet p hlead
        simp [utf16_ascii p hascii, hreplacement]
      | more q => simp [hreplacement]
      | invalid => simp [hreplacement]

theorem decodePoints_length (octets : Octets) (pending : Option Utf8.Pending) :
    ((decodePoints pending octets).flatMap utf16).length ≤
      octets.length + if pending.isSome then 1 else 0 := by
  induction octets generalizing pending with
  | nil =>
    cases pending with
    | none => exact Nat.le_refl 0
    | some q => exact Nat.le_refl 1
  | cons octet rest ih =>
    have hfirst := points_length pending octet.toNat
    have hrest := ih (TextDecoder.points pending octet.toNat).2
    have hsplit : decodePoints pending (octet :: rest) =
        (TextDecoder.points pending octet.toNat).1 ++
          decodePoints (TextDecoder.points pending octet.toNat).2 rest := by
      cases pending <;> rfl
    rw [hsplit, List.flatMap_append, List.length_append, List.length_cons]
    omega

/-- A key that is not there in full yet is refused: it has too few characters to spell one. -/
theorem parse_partial (content : Octets) (sourceName : JsString) (h : content.length < 32) :
    ∃ failure, parseAndValidateKey content sourceName = .error failure := by
  have htext : (trim (ofUtf8 content)).length < 32 := by
    have htrim := trim_length (ofUtf8 content)
    have hdecoded := decodePoints_length content none
    change (ofUtf8 content).length ≤ content.length + 0 at hdecoded
    omega
  unfold parseAndValidateKey
  rw [if_neg (by omega)]
  dsimp only
  rw [if_neg (by omega), if_neg (by omega)]
  exact ⟨_, rfl⟩

end Glassbeetle.MasterKey
