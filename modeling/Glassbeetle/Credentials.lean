import Glassbeetle.Encryption
import Glassbeetle.Providers

set_option autoImplicit false

/-!
# Provider credentials

`credentials.service.ts` and `mask-key.ts`.
-/
namespace Glassbeetle.Credentials
open JsText Database ContextConstruction ExecutionChain Providers IdealCipher Encryption

structure SetCredentialDto where
  apiKey : Property JsString
  value : Property JsString

structure CredentialResponseDto where
  providerId : JsString
  configured : Bool
  maskedPreview : JsString
  createdAt : JsString
  updatedAt : JsString

structure ProviderCredentialRow where
  providerId : JsString
  encryptedValue : Octets
  nonce : Octets
  maskedPreview : Option JsString
  createdAt : JsString
  updatedAt : JsString
  deriving DecidableEq

/-- The tables the service reads and writes, and what the cipher has sealed under the master key. -/
structure Vault where
  providers : List ProviderRow
  credentials : List ProviderCredentialRow
  sealings : List (Sealing UInt8)

def KNOWN_CREDENTIAL_PREFIXES : List JsString :=
  [js "sk-ant-", js "sk-proj-", js "sk-admin-", js "sk-org-", js "sk-", js "gsk_", js "ghp_",
    js "gho_", js "xoxb-", js "xoxp-", js "key-"]

def DEFAULT_SUFFIX_LENGTH : ℕ := 4

def MASK_ELLIPSIS : JsString := js "…"

def maskKey (key : JsString) : JsString :=
  if key = [] then []
  else if key.length ≤ DEFAULT_SUFFIX_LENGTH then MASK_ELLIPSIS
  else
    let matchedPrefix := (KNOWN_CREDENTIAL_PREFIXES.find? (startsWith key)).getD []
    let suffix := key.drop (key.length - DEFAULT_SUFFIX_LENGTH)
    if matchedPrefix ≠ [] ∧ matchedPrefix.length + DEFAULT_SUFFIX_LENGTH + 1 ≤ key.length then
      matchedPrefix ++ MASK_ELLIPSIS ++ suffix
    else MASK_ELLIPSIS ++ suffix

def Vault.credential (s : Vault) (providerId : JsString) : Option ProviderCredentialRow :=
  s.credentials.find? (·.providerId = providerId)

def providerNotFound (providerId : JsString) : Failure :=
  .http 404 (js "NOT_FOUND") (js "Provider '" ++ providerId ++ js "' not found")

def assertProviderExists (s : Vault) (providerId : JsString) : Except Failure Unit :=
  if s.providers.any (·.id = providerId) then .ok () else .error (providerNotFound providerId)

/-- `ON CONFLICT(provider_id) DO UPDATE` keeps `created_at`. -/
def upsert (row : ProviderCredentialRow) : List ProviderCredentialRow → List ProviderCredentialRow
  | [] => [row]
  | old :: rest =>
    if old.providerId = row.providerId then { row with createdAt := old.createdAt } :: rest
    else old :: upsert row rest

def response (row : ProviderCredentialRow) : CredentialResponseDto where
  providerId := row.providerId
  configured := true
  maskedPreview := row.maskedPreview.getD []
  createdAt := row.createdAt
  updatedAt := row.updatedAt

/-- The secret a request carries: `apiKey`, or else `value`, without the blanks around it. -/
def requested (dto : SetCredentialDto) : Option JsString :=
  truthy ((dto.apiKey.toOption.or dto.value.toOption).map trim)

def credentialRequired : Failure :=
  .http 400 (js "BAD_REQUEST") (js "Credential value is required and cannot be empty")

def set (s : Vault) (providerId : JsString) (dto : SetCredentialDto) (drawn : Drawn UInt8)
    (now : JsString) : Except Failure (CredentialResponseDto × Vault) := do
  assertProviderExists s providerId
  let some secret := requested dto | throw credentialRequired
  let (encrypted, sealing) := encrypt drawn secret (some providerId)
  let row : ProviderCredentialRow := {
    providerId := providerId
    encryptedValue := encrypted.encryptedValue
    nonce := encrypted.nonce
    maskedPreview := some (maskKey secret)
    createdAt := now
    updatedAt := now }
  let written : Vault := ⟨s.providers, upsert row s.credentials, sealing :: s.sealings⟩
  let some persisted := written.credential providerId
    | throw (.http 500 (js "INTERNAL_SERVER_ERROR")
        (js "Failed to retrieve persisted credential record"))
  return (response persisted, written)

def remove (s : Vault) (providerId : JsString) : Except Failure Vault := do
  assertProviderExists s providerId
  return { s with credentials := s.credentials.filter (·.providerId ≠ providerId) }

def notConfigured (providerId : JsString) : Failure :=
  .http 404 (js "NOT_FOUND") (js "No credential configured for provider '" ++ providerId ++ js "'")

def find (s : Vault) (providerId : JsString) : Except Failure CredentialResponseDto := do
  assertProviderExists s providerId
  let some row := s.credential providerId | throw (notConfigured providerId)
  return response row

def getDecryptedCredential (s : Vault) (providerId : JsString) : Except Failure JsString := do
  assertProviderExists s providerId
  let some row := s.credential providerId | throw (notConfigured providerId)
  decrypt s.sealings row.encryptedValue row.nonce (some providerId)

theorem assertProviderExists_ok (s : Vault) (providerId : JsString)
    (h : s.providers.any (·.id = providerId) = true) : assertProviderExists s providerId = .ok () :=
  if_pos h

theorem assertProviderExists_error (s : Vault) (providerId : JsString)
    (h : s.providers.any (·.id = providerId) = false) :
    assertProviderExists s providerId = .error (providerNotFound providerId) :=
  if_neg (by rw [h]; decide)

/-- The row written is the one under its key, with all three columns of its own. -/
theorem find_upsert (row : ProviderCredentialRow) (rows : List ProviderCredentialRow) :
    ∃ createdAt, (upsert row rows).find? (·.providerId = row.providerId) =
      some { row with createdAt := createdAt } := by
  induction rows with
  | nil => exact ⟨row.createdAt, by simp [upsert]⟩
  | cons old rest ih =>
    unfold upsert
    split_ifs with h
    · exact ⟨old.createdAt, by simp⟩
    · obtain ⟨createdAt, hfind⟩ := ih
      exact ⟨createdAt, (List.find?_cons_of_neg (by simpa using h)).trans hfind⟩

theorem find_upsert_other (row : ProviderCredentialRow) (rows : List ProviderCredentialRow)
    (id : JsString) (hid : id ≠ row.providerId) :
    (upsert row rows).find? (·.providerId = id) = rows.find? (·.providerId = id) := by
  induction rows with
  | nil => simp [upsert, hid.symm]
  | cons old rest ih =>
    unfold upsert
    split_ifs with h
    · rw [List.find?_cons_of_neg (by simpa using hid.symm),
        List.find?_cons_of_neg (by simpa [h] using hid.symm)]
    · rw [List.find?_cons, List.find?_cons, ih]

/-- A request that is accepted seals the secret for its provider and writes what the cipher gave. -/
theorem set_cases (s : Vault) (providerId : JsString) (dto : SetCredentialDto)
    (drawn : Drawn UInt8) (now : JsString) :
    ((∃ failure, set s providerId dto drawn now = .error failure) ∧
      (s.providers.any (·.id = providerId) = false ∨ requested dto = none)) ∨
    ∃ secret maskedPreview answer, s.providers.any (·.id = providerId) = true ∧
      requested dto = some secret ∧
      set s providerId dto drawn now = .ok (answer,
        ⟨s.providers, upsert ⟨providerId, (encrypt drawn secret (some providerId)).1.encryptedValue,
          drawn.nonce, maskedPreview, now, now⟩ s.credentials,
          (encrypt drawn secret (some providerId)).2 :: s.sealings⟩) := by
  cases hexists : s.providers.any (·.id = providerId) with
  | false =>
    refine .inl ⟨⟨providerNotFound providerId, ?_⟩, .inl rfl⟩
    unfold set
    rw [assertProviderExists_error s providerId hexists]
    rfl
  | true =>
    unfold set
    rw [assertProviderExists_ok s providerId hexists]
    cases hsecret : requested dto with
    | none => exact .inl ⟨⟨_, rfl⟩, .inr rfl⟩
    | some secret =>
      let row : ProviderCredentialRow := ⟨providerId,
        (encrypt drawn secret (some providerId)).1.encryptedValue, drawn.nonce,
        some (maskKey secret), now, now⟩
      obtain ⟨createdAt, hfind⟩ := find_upsert row s.credentials
      have hcredential : Vault.credential ⟨s.providers, upsert row s.credentials,
          (encrypt drawn secret (some providerId)).2 :: s.sealings⟩ providerId =
          some { row with createdAt := createdAt } := hfind
      refine .inr ⟨secret, some (maskKey secret), response { row with createdAt := createdAt }, rfl,
        rfl, ?_⟩
      simp only [bind, Except.bind]
      erw [hcredential]
      rfl

theorem remove_cases (s : Vault) (providerId : JsString) :
    ((∃ failure, remove s providerId = .error failure) ∧
      s.providers.any (·.id = providerId) = false) ∨
    s.providers.any (·.id = providerId) = true ∧ remove s providerId =
      .ok { s with credentials := s.credentials.filter (·.providerId ≠ providerId) } := by
  cases hexists : s.providers.any (·.id = providerId) with
  | false =>
    refine .inl ⟨⟨providerNotFound providerId, ?_⟩, rfl⟩
    unfold remove
    rw [assertProviderExists_error s providerId hexists]
    rfl
  | true =>
    refine .inr ⟨rfl, ?_⟩
    unfold remove
    rw [assertProviderExists_ok s providerId hexists]
    rfl

theorem getDecryptedCredential_stored (s : Vault) (providerId : JsString)
    (row : ProviderCredentialRow) (hexists : s.providers.any (·.id = providerId) = true)
    (hrow : s.credential providerId = some row) :
    getDecryptedCredential s providerId =
      decrypt s.sealings row.encryptedValue row.nonce (some providerId) := by
  unfold getDecryptedCredential
  rw [assertProviderExists_ok s providerId hexists, hrow]
  rfl

theorem getDecryptedCredential_absent (s : Vault) (providerId : JsString)
    (hrow : s.credential providerId = none) :
    ∃ message, getDecryptedCredential s providerId =
      .error (.http 404 (js "NOT_FOUND") message) := by
  unfold getDecryptedCredential
  cases hexists : s.providers.any (·.id = providerId) with
  | false =>
    rw [assertProviderExists_error s providerId hexists]
    exact ⟨_, rfl⟩
  | true =>
    rw [assertProviderExists_ok s providerId hexists, hrow]
    exact ⟨_, rfl⟩

end Glassbeetle.Credentials
