import Glassbeetle.ExecutionChain
import Glassbeetle.IdealCipher
import Glassbeetle.Utf8Text

set_option autoImplicit false

/-!
# Encryption

`encryption.service.ts` over AES-256-GCM under the master key.
-/
namespace Glassbeetle.Encryption
open JsText Utf8Text IdealCipher ExecutionChain

abbrev Octets := List UInt8

def ENCRYPTION_FORMAT_VERSION_V1 : UInt8 := 0x01

def GCM_NONCE_LENGTH : ℕ := 12

def GCM_AUTH_TAG_LENGTH : ℕ := 16

def MIN_ENCRYPTED_VALUE_LENGTH : ℕ := 1 + GCM_AUTH_TAG_LENGTH

structure EncryptedData where
  encryptedValue : Octets
  nonce : Octets

/-- What `setAAD` binds: nothing for no data and for the empty string. -/
def boundData : Option JsString → Octets
  | none => []
  | some data => if data = [] then [] else utf8 data

def encrypt (drawn : Drawn UInt8) (plaintext : JsString) (associatedData : Option JsString) :
    EncryptedData × Sealing UInt8 :=
  (⟨ENCRYPTION_FORMAT_VERSION_V1 :: (drawn.ciphertext ++ drawn.tag), drawn.nonce⟩,
    drawn.sealing (boundData associatedData) (utf8 plaintext))

def decryptionError (text : JsString) : Failure :=
  .thrown (js "DecryptionError") (js "Decryption failed: " ++ text)

def decryptToBuffer (sealings : List (Sealing UInt8)) (encryptedValue nonce : Octets)
    (associatedData : Option JsString) : Except Failure Octets :=
  if nonce.length ≠ GCM_NONCE_LENGTH then .error (decryptionError (js "invalid nonce length"))
  else if encryptedValue.length < MIN_ENCRYPTED_VALUE_LENGTH then
    .error (decryptionError (js "invalid ciphertext payload"))
  else
    let version := encryptedValue.headD 0
    if version ≠ ENCRYPTION_FORMAT_VERSION_V1 then
      .error (decryptionError
        (js "unsupported encryption version byte (" ++ decimal version.toNat ++ js ")"))
    else
      let tagStart := encryptedValue.length - GCM_AUTH_TAG_LENGTH
      let authTag := encryptedValue.drop tagStart
      let ciphertext := (encryptedValue.take tagStart).drop 1
      match opened sealings nonce (boundData associatedData) ciphertext authTag with
      | some plaintext => .ok plaintext
      | none => .error (decryptionError
          (js "authentication verification failed or ciphertext is corrupted"))

def decrypt (sealings : List (Sealing UInt8)) (encryptedValue nonce : Octets)
    (associatedData : Option JsString) : Except Failure JsString :=
  (decryptToBuffer sealings encryptedValue nonce associatedData).map ofUtf8

def IsDecryptionError {α : Type} (result : Except Failure α) : Prop :=
  ∃ message, result = .error (.thrown (js "DecryptionError") message)

theorem boundData_some (data : JsString) : boundData (some data) = utf8 data := by
  by_cases h : data = []
  · rw [h]
    rfl
  · rw [boundData, if_neg h]

/-- Every rejection is a `DecryptionError`; what is accepted has the layout and opens. -/
theorem decrypt_cases (sealings : List (Sealing UInt8)) (encryptedValue nonce : Octets)
    (associatedData : Option JsString) :
    IsDecryptionError (decrypt sealings encryptedValue nonce associatedData) ∨
      ∃ ciphertext tag plaintext, tag.length = GCM_AUTH_TAG_LENGTH ∧
        encryptedValue = ENCRYPTION_FORMAT_VERSION_V1 :: (ciphertext ++ tag) ∧
        opened sealings nonce (boundData associatedData) ciphertext tag = some plaintext := by
  unfold decrypt decryptToBuffer
  split_ifs with hnonce hlength
  · exact .inl ⟨_, rfl⟩
  · exact .inl ⟨_, rfl⟩
  obtain ⟨version, rest, rfl⟩ : ∃ version rest, encryptedValue = version :: rest := by
    cases encryptedValue with
    | nil => exact absurd (by decide) hlength
    | cons version rest => exact ⟨version, rest, rfl⟩
  have hrest : GCM_AUTH_TAG_LENGTH ≤ rest.length := by
    simp only [MIN_ENCRYPTED_VALUE_LENGTH, List.length_cons] at hlength
    omega
  have hstart : (version :: rest).length - GCM_AUTH_TAG_LENGTH =
      rest.length - GCM_AUTH_TAG_LENGTH + 1 := by
    rw [List.length_cons]
    omega
  simp only [List.headD_cons, hstart, List.drop_succ_cons, List.take_succ_cons, List.drop_zero]
  split_ifs with hversion
  · exact .inl ⟨_, rfl⟩
  cases hopen : opened sealings nonce (boundData associatedData)
    (rest.take (rest.length - GCM_AUTH_TAG_LENGTH))
    (rest.drop (rest.length - GCM_AUTH_TAG_LENGTH)) with
  | none => exact .inl ⟨_, rfl⟩
  | some plaintext =>
    refine .inr ⟨_, _, plaintext, ?_, ?_, hopen⟩
    · rw [List.length_drop]
      omega
    · rw [List.take_append_drop, not_not.mp hversion]

theorem decrypt_layout (sealings : List (Sealing UInt8)) (ciphertext tag nonce : Octets)
    (associatedData : Option JsString) (hnonce : nonce.length = GCM_NONCE_LENGTH)
    (htag : tag.length = GCM_AUTH_TAG_LENGTH) (plaintext : Octets)
    (hopen : opened sealings nonce (boundData associatedData) ciphertext tag = some plaintext) :
    decrypt sealings (ENCRYPTION_FORMAT_VERSION_V1 :: (ciphertext ++ tag)) nonce associatedData =
      .ok (ofUtf8 plaintext) := by
  have hlength : ¬(ENCRYPTION_FORMAT_VERSION_V1 :: (ciphertext ++ tag)).length <
      MIN_ENCRYPTED_VALUE_LENGTH := by
    rw [MIN_ENCRYPTED_VALUE_LENGTH, List.length_cons, List.length_append]
    omega
  have hstart : (ENCRYPTION_FORMAT_VERSION_V1 :: (ciphertext ++ tag)).length -
      GCM_AUTH_TAG_LENGTH = ciphertext.length + 1 := by
    rw [List.length_cons, List.length_append]
    omega
  unfold decrypt decryptToBuffer
  rw [if_neg (not_not.mpr hnonce), if_neg hlength]
  simp only [List.headD_cons, hstart, List.drop_succ_cons, List.take_succ_cons, List.drop_zero,
    List.drop_left, List.take_left, hopen, ne_eq, not_true_eq_false, if_false, Except.map]

section Sealed

variable (sealings : List (Sealing UInt8)) (distinct : Distinct sealings) (drawn : Drawn UInt8)
  (secret : JsString) (associatedData : Option JsString)
  (sealed : (encrypt drawn secret associatedData).2 ∈ sealings)

include distinct sealed

theorem decrypt_encrypt (htag : drawn.tag.length = GCM_AUTH_TAG_LENGTH)
    (hnonce : drawn.nonce.length = GCM_NONCE_LENGTH)
    (hsecret : wellFormed secret = true) :
    decrypt sealings (encrypt drawn secret associatedData).1.encryptedValue
      (encrypt drawn secret associatedData).1.nonce associatedData = .ok secret := by
  have hopen := opened_sealing sealings distinct _ sealed
  refine (decrypt_layout sealings _ _ _ associatedData hnonce htag _ hopen).trans ?_
  exact congrArg _ (ofUtf8_utf8 secret hsecret)

theorem decrypt_altered (other : Octets) (data : Option JsString)
    (hne : other ≠ (encrypt drawn secret associatedData).1.encryptedValue ∨
      boundData data ≠ boundData associatedData) :
    IsDecryptionError (decrypt sealings other (encrypt drawn secret associatedData).1.nonce data) := by
  rcases decrypt_cases sealings other drawn.nonce data with h | ⟨c, t, p, ht, hlayout, hopen⟩
  · exact h
  · have hsame : ¬(boundData data = boundData associatedData ∧ c = drawn.ciphertext ∧
        t = drawn.tag) := by
      rintro ⟨hdata, rfl, rfl⟩
      exact hne.elim (fun h => h hlayout) fun h => h hdata
    have hnone := opened_altered sealings distinct _ sealed _ _ _ hsame
    cases hnone.symm.trans hopen

theorem decrypt_renonced (htag : drawn.tag.length = GCM_AUTH_TAG_LENGTH) (nonce : Octets)
    (data : Option JsString) (hne : nonce ≠ (encrypt drawn secret associatedData).1.nonce) :
    IsDecryptionError
      (decrypt sealings (encrypt drawn secret associatedData).1.encryptedValue nonce data) := by
  rcases decrypt_cases sealings (encrypt drawn secret associatedData).1.encryptedValue nonce data
    with h | ⟨c, t, p, ht, hlayout, hopen⟩
  · exact h
  · have hparts : drawn.ciphertext ++ drawn.tag = c ++ t := (List.cons.inj hlayout).2
    obtain ⟨rfl, rfl⟩ := List.append_inj' hparts (htag.trans ht.symm)
    have hnone := opened_renonced sealings distinct _ sealed nonce (boundData data) hne
    cases hnone.symm.trans hopen

end Sealed

end Glassbeetle.Encryption
