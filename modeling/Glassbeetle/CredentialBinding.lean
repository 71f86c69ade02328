import Glassbeetle.Credentials
import Glassbeetle.Identifiers
import Glassbeetle.Runs

set_option autoImplicit false

namespace Glassbeetle.CredentialBinding
open JsText Utf8Text Identifiers Database ExecutionChain Providers IdealCipher Encryption Credentials

inductive Action where
  | set (providerId : JsString) (dto : SetCredentialDto) (drawn : Drawn UInt8) (now : JsString)
  | remove (providerId : JsString)

def step (s : Vault) : Action → Vault
  | .set providerId dto drawn now =>
    match set s providerId dto drawn now with
    | .ok (_, written) => written
    | .error _ => s
  | .remove providerId =>
    match remove s providerId with
    | .ok written => written
    | .error _ => s

def start (providers : List ProviderRow) : Vault := ⟨providers, [], []⟩

def Ideal (s : Vault) : Action → Prop
  | .set _ dto drawn _ =>
    Fresh s.sealings drawn ∧ drawn.nonce.length = GCM_NONCE_LENGTH ∧
      drawn.tag.length = GCM_AUTH_TAG_LENGTH ∧
      ∀ text, dto.apiKey.toOption.or dto.value.toOption = some text → wellFormed text = true
  | .remove _ => True

/-- The secret of the last `set` for a provider that no `remove` followed, newest action first. -/
def lastSecret (p : JsString) : List Action → Option JsString
  | [] => none
  | .set q dto _ _ :: earlier =>
    if q = p then (requested dto).or (lastSecret p earlier) else lastSecret p earlier
  | .remove q :: earlier => if q = p then none else lastSecret p earlier

/-- What may stand in a row in place of the value and the nonce written there. -/
inductive Tampering (s : Vault) (p : JsString) (row : ProviderCredentialRow) :
    Octets → Octets → Prop
  | transplanted (q : JsString) (other : ProviderCredentialRow) (hq : q ≠ p)
      (h : s.credential q = some other) : Tampering s p row other.encryptedValue other.nonce
  | value (changed : Octets) (h : changed ≠ row.encryptedValue) : Tampering s p row changed row.nonce
  | nonce (changed : Octets) (h : changed ≠ row.nonce) : Tampering s p row row.encryptedValue changed

def overwrite (s : Vault) (p : JsString) (value nonce : Octets) : Vault :=
  { s with credentials := s.credentials.map fun row =>
      if row.providerId = p then { row with encryptedValue := value, nonce := nonce } else row }

def Sealed (s : Vault) (p secret : JsString) (row : ProviderCredentialRow) : Prop :=
  ∃ drawn : Drawn UInt8, drawn.nonce.length = GCM_NONCE_LENGTH ∧
    drawn.tag.length = GCM_AUTH_TAG_LENGTH ∧ wellFormed secret = true ∧
    row.encryptedValue = (encrypt drawn secret (some p)).1.encryptedValue ∧
    row.nonce = drawn.nonce ∧ (encrypt drawn secret (some p)).2 ∈ s.sealings

structure Holds (s : Vault) (secrets : JsString → Option JsString) : Prop where
  distinct : Distinct s.sealings
  present : ∀ p row, s.credential p = some row → s.providers.any (·.id = p) = true
  stored : ∀ p, s.providers.any (·.id = p) = true →
    (secrets p = none ∧ s.credential p = none) ∨
      ∃ secret row, secrets p = some secret ∧ s.credential p = some row ∧ Sealed s p secret row

theorem sealed_mono (s t : Vault) (p secret : JsString) (row : ProviderCredentialRow)
    (h : Sealed s p secret row) (hst : ∀ x ∈ s.sealings, x ∈ t.sealings) :
    Sealed t p secret row := by
  obtain ⟨drawn, hnonce, htag, hsecret, hvalue, hn, hmem⟩ := h
  exact ⟨drawn, hnonce, htag, hsecret, hvalue, hn, hst _ hmem⟩

theorem requested_wellFormed (dto : SetCredentialDto) (secret : JsString)
    (hsecret : requested dto = some secret)
    (h : ∀ text, dto.apiKey.toOption.or dto.value.toOption = some text → wellFormed text = true) :
    wellFormed secret = true := by
  have htrim := (Option.filter_eq_some_iff.mp hsecret).1
  obtain ⟨text, htext, rfl⟩ := Option.map_eq_some_iff.mp htrim
  exact trim_wellFormed text (h text htext)

theorem step_providers (s : Vault) (action : Action) : (step s action).providers = s.providers := by
  cases action with
  | set p dto drawn now =>
    rcases set_cases s p dto drawn now with ⟨⟨f, h⟩, -⟩ | ⟨secret, preview, answer, -, -, h⟩
    · simp only [step, h]
    · simp only [step, h]
  | remove p =>
    rcases remove_cases s p with ⟨⟨f, h⟩, -⟩ | ⟨-, h⟩
    · simp only [step, h]
    · simp only [step, h]

theorem step_set (s : Vault) (p : JsString) (dto : SetCredentialDto) (drawn : Drawn UInt8)
    (now : JsString) (earlier : List Action) (hok : Ideal s (.set p dto drawn now))
    (h : Holds s fun q => lastSecret q earlier) :
    Holds (step s (.set p dto drawn now)) fun q => lastSecret q (.set p dto drawn now :: earlier) := by
  obtain ⟨hfresh, hnonce, htag, htext⟩ := hok
  rcases set_cases s p dto drawn now with ⟨⟨f, hset⟩, hwhy⟩ | ⟨secret, preview, answer, hp, hs, hset⟩
  · have hstep : step s (.set p dto drawn now) = s := by simp only [step, hset]
    rw [hstep]
    refine ⟨h.distinct, h.present, fun q hq => ?_⟩
    have hlast : lastSecret q (.set p dto drawn now :: earlier) = lastSecret q earlier := by
      rw [lastSecret]
      split_ifs with hpq
      · rcases hwhy with hwhy | hwhy
        · rw [hpq, hq] at hwhy
          cases hwhy
        · rw [hwhy, Option.none_or]
      · rfl
    rw [hlast]
    exact h.stored q hq
  · simp only [step, hset]
    set row : ProviderCredentialRow := ⟨p, (encrypt drawn secret (some p)).1.encryptedValue,
      drawn.nonce, preview, now, now⟩ with hrow
    refine ⟨distinct_cons _ drawn _ _ h.distinct hfresh, fun q found hfound => ?_, fun q hq => ?_⟩
    · by_cases hqp : q = p
      · rwa [hqp]
      · exact h.present q found ((find_upsert_other row _ q hqp).symm.trans hfound)
    · by_cases hqp : q = p
      · subst hqp
        obtain ⟨createdAt, hfind⟩ := find_upsert row s.credentials
        refine .inr ⟨secret, { row with createdAt := createdAt }, ?_, hfind, drawn, hnonce, htag,
          requested_wellFormed dto secret hs htext, rfl, rfl, List.mem_cons_self⟩
        rw [lastSecret, if_pos rfl, hs, Option.some_or]
      · have hsame := find_upsert_other row s.credentials q hqp
        have hlast : lastSecret q (.set p dto drawn now :: earlier) = lastSecret q earlier := by
          rw [lastSecret, if_neg (Ne.symm hqp)]
        rw [hlast]
        rcases h.stored q hq with ⟨hn, hc⟩ | ⟨old, found, ho, hc, hsealed⟩
        · exact .inl ⟨hn, hsame.trans hc⟩
        · exact .inr ⟨old, found, ho, hsame.trans hc,
            sealed_mono s _ q old found hsealed fun x hx => List.mem_cons_of_mem _ hx⟩

theorem find_filter_ne (rows : List ProviderCredentialRow) (p q : JsString) :
    (rows.filter (·.providerId ≠ p)).find? (·.providerId = q) =
      if q = p then none else rows.find? (·.providerId = q) := by
  rw [List.find?_filter]
  split_ifs with h
  · rw [List.find?_eq_none]
    intro row _ hrow
    simp_all
  · congr 1
    funext row
    by_cases hrow : row.providerId = q
    · simp [hrow, h]
    · simp [hrow]

theorem step_remove (s : Vault) (p : JsString) (earlier : List Action)
    (h : Holds s fun q => lastSecret q earlier) :
    Holds (step s (.remove p)) fun q => lastSecret q (.remove p :: earlier) := by
  rcases remove_cases s p with ⟨⟨f, hremove⟩, hp⟩ | ⟨hp, hremove⟩
  · have hstep : step s (.remove p) = s := by simp only [step, hremove]
    rw [hstep]
    refine ⟨h.distinct, h.present, fun q hq => ?_⟩
    have hpq : p ≠ q := by
      rintro rfl
      rw [hp] at hq
      cases hq
    rw [lastSecret, if_neg hpq]
    exact h.stored q hq
  · simp only [step, hremove]
    refine ⟨h.distinct, fun q found hfound => ?_, fun q hq => ?_⟩
    · rw [Vault.credential, find_filter_ne] at hfound
      split_ifs at hfound with hqp
      exact h.present q found hfound
    · by_cases hqp : q = p
      · refine .inl ⟨?_, (find_filter_ne _ p q).trans (if_pos hqp)⟩
        rw [lastSecret, if_pos hqp.symm]
      · have hsame := (find_filter_ne s.credentials p q).trans (if_neg hqp)
        rw [lastSecret, if_neg (Ne.symm hqp)]
        rcases h.stored q hq with ⟨hn, hc⟩ | ⟨old, found, ho, hc, hsealed⟩
        · exact .inl ⟨hn, hsame.trans hc⟩
        · exact .inr ⟨old, found, ho, hsame.trans hc, hsealed⟩

theorem run_holds (s : Vault) (actions earlier : List Action)
    (hok : Runs.Allowed step Ideal s actions) (h : Holds s fun q => lastSecret q earlier) :
    Holds (actions.foldl step s) fun q => lastSecret q (actions.reverse ++ earlier) := by
  induction actions generalizing s earlier with
  | nil => exact h
  | cons action rest ih =>
    have hstep : Holds (step s action) fun q => lastSecret q (action :: earlier) := by
      cases action with
      | set p dto drawn now => exact step_set s p dto drawn now earlier hok.1 h
      | remove p => exact step_remove s p earlier h
    simpa only [List.foldl_cons, List.reverse_cons, List.append_assoc, List.singleton_append] using
      ih (step s action) (action :: earlier) hok.2 hstep

theorem run_providers (s : Vault) (actions : List Action) :
    (actions.foldl step s).providers = s.providers := by
  induction actions generalizing s with
  | nil => rfl
  | cons action rest ih => exact (ih (step s action)).trans (step_providers s action)

theorem start_holds (providers : List ProviderRow) :
    Holds (start providers) fun q => lastSecret q [] :=
  ⟨distinct_nil, nofun, fun _ _ => .inl ⟨rfl, rfl⟩⟩

theorem sealed_decrypts (s : Vault) (hdistinct : Distinct s.sealings) (p secret : JsString)
    (row : ProviderCredentialRow) (h : Sealed s p secret row) :
    decrypt s.sealings row.encryptedValue row.nonce (some p) = .ok secret := by
  obtain ⟨drawn, hnonce, htag, hsecret, hvalue, hn, hmem⟩ := h
  rw [hvalue, hn]
  exact decrypt_encrypt s.sealings hdistinct drawn secret (some p) hmem htag hnonce hsecret

theorem sealed_bound (s : Vault) (hdistinct : Distinct s.sealings) (p q secret : JsString)
    (other : ProviderCredentialRow) (h : Sealed s q secret other) (hp : wellFormed p = true)
    (hq : wellFormed q = true) (hqp : q ≠ p) :
    IsDecryptionError (decrypt s.sealings other.encryptedValue other.nonce (some p)) := by
  obtain ⟨drawn, -, -, -, hvalue, hn, hmem⟩ := h
  have hdata : boundData (some p) ≠ boundData (some q) := by
    rw [boundData_some, boundData_some]
    exact fun hpq => hqp (utf8_injective q p hq hp hpq.symm)
  rw [hvalue, hn]
  exact decrypt_altered s.sealings hdistinct drawn secret (some q) hmem _ (some p) (.inr hdata)

theorem overwrite_credential (s : Vault) (p : JsString) (row : ProviderCredentialRow)
    (value nonce : Octets) (h : s.credential p = some row) :
    (overwrite s p value nonce).credential p =
      some { row with encryptedValue := value, nonce := nonce } := by
  have hrow : row.providerId = p := by simpa using List.find?_some h
  have hkey : (fun old : ProviderCredentialRow => decide (old.providerId = p)) ∘
      (fun old => if old.providerId = p then { old with encryptedValue := value, nonce := nonce }
        else old) = fun old => decide (old.providerId = p) := by
    funext old
    by_cases hold : old.providerId = p
    · simp [hold]
    · simp [hold]
  rw [Vault.credential, overwrite, List.find?_map, hkey]
  refine (congrArg _ h).trans ?_
  rw [Option.map_some, if_pos hrow]

theorem tampered_rejected (s : Vault) (secrets : JsString → Option JsString) (h : Holds s secrets)
    (hids : ∀ row ∈ s.providers, wellFormed row.id = true) (p : JsString)
    (row : ProviderCredentialRow) (hrow : s.credential p = some row) (value nonce : Octets)
    (ht : Tampering s p row value nonce) :
    IsDecryptionError (getDecryptedCredential (overwrite s p value nonce) p) := by
  have hformed : ∀ q, s.providers.any (·.id = q) = true → wellFormed q = true := by
    intro q hq
    obtain ⟨provider, hmem, hid⟩ := List.any_eq_true.mp hq
    rw [← of_decide_eq_true hid]
    exact hids provider hmem
  have hstored : ∀ q found, s.credential q = some found → ∃ secret, Sealed s q secret found := by
    intro q found hfound
    rcases h.stored q (h.present q found hfound) with ⟨-, hn⟩ | ⟨secret, other, -, ho, hsealed⟩
    · cases hn.symm.trans hfound
    · cases ho.symm.trans hfound
      exact ⟨secret, hsealed⟩
  have hp := h.present p row hrow
  rw [getDecryptedCredential_stored (overwrite s p value nonce) p _ hp
    (overwrite_credential s p row value nonce hrow)]
  obtain ⟨secret, drawn, hnonce, htag, -, hvalue, hn, hmem⟩ := hstored p row hrow
  cases ht with
  | transplanted q other hqp hother =>
    obtain ⟨theirs, hsealed⟩ := hstored q other hother
    exact sealed_bound s h.distinct p q theirs other hsealed (hformed p hp)
      (hformed q (h.present q other hother)) hqp
  | value changed hne =>
    rw [hn]
    rw [hvalue] at hne
    exact decrypt_altered s.sealings h.distinct drawn secret (some p) hmem value (some p)
      (.inl hne)
  | nonce changed hne =>
    rw [hvalue]
    rw [hn] at hne
    exact decrypt_renonced s.sealings h.distinct drawn secret (some p) hmem htag nonce (some p)
      hne

theorem newId_wellFormed (timestamp : ℕ) (random : Fin 10 → UInt8) :
    wellFormed (newId timestamp random) = true := by
  refine plain_wellFormed _ fun c hc => ?_
  have hunit := newId_units timestamp random c hc
  simp only [UuidUnit, UInt16.le_iff_toNat_le, ← UInt16.toNat_inj, UInt16.reduceToNat] at hunit
  simp only [isHigh, isLow, Bool.and_eq_false_iff, decide_eq_false_iff_not, UInt16.le_iff_toNat_le,
    UInt16.reduceToNat]
  omega

def IsNotFound (result : Except Failure JsString) : Prop :=
  ∃ message, result = .error (.http 404 (js "NOT_FOUND") message)

/-- A credential is the last secret set, and a row that was tampered with gives no plaintext. -/
theorem credentials_bound (providers : List ProviderRow)
    (hids : ∀ row ∈ providers, wellFormed row.id = true) (actions : List Action)
    (hideal : Runs.Allowed step Ideal (start providers) actions) :
    let s := actions.foldl step (start providers)
    (∀ p, match if providers.any (·.id = p) then lastSecret p actions.reverse else none with
      | some secret => getDecryptedCredential s p = .ok secret
      | none => IsNotFound (getDecryptedCredential s p)) ∧
    ∀ p row, s.credential p = some row → ∀ value nonce, Tampering s p row value nonce →
      IsDecryptionError (getDecryptedCredential (overwrite s p value nonce) p) := by
  intro s
  have hproviders : s.providers = providers := run_providers (start providers) actions
  have h : Holds s fun q => lastSecret q actions.reverse := by
    simpa only [List.append_nil] using
      run_holds (start providers) actions [] hideal (start_holds providers)
  constructor
  · intro p
    by_cases hp : providers.any (·.id = p) = true
    · have hps : s.providers.any (·.id = p) = true := by rwa [hproviders]
      rw [if_pos hp]
      rcases h.stored p hps with ⟨hn, hc⟩ | ⟨secret, row, hsecret, hc, hsealed⟩
      · rw [hn]
        exact getDecryptedCredential_absent s p hc
      · rw [hsecret]
        exact (getDecryptedCredential_stored s p row hps hc).trans
          (sealed_decrypts s h.distinct p secret row hsealed)
    · rw [if_neg hp]
      refine getDecryptedCredential_absent s p ?_
      rw [Option.eq_none_iff_forall_ne_some]
      intro row hrow
      exact hp (by rw [← hproviders]; exact h.present p row hrow)
  · exact tampered_rejected s _ h (by rwa [hproviders])

def sampleProvider (timestamp : ℕ) : ProviderRow where
  id := newId timestamp fun _ => 0
  name := js "Anthropic"
  kind := js "anthropic"
  baseUrl := none
  isLocal := false
  enabled := true
  createdAt := js "2026-10-24T12:00:00.000Z"
  updatedAt := js "2026-10-24T12:00:00.000Z"

def sampleDrawn (n : UInt8) (plaintext : String) : Drawn UInt8 :=
  ⟨List.replicate 12 n, (utf8 (js plaintext)).map (· ^^^ n), List.replicate 16 n⟩

def sampleSet (timestamp : ℕ) (secret : String) (n : UInt8) : Action :=
  .set (newId timestamp fun _ => 0) ⟨.value (js (" " ++ secret ++ " ")), .undefined⟩
    (sampleDrawn n secret) (js "2026-10-24T12:00:00.000Z")

def sampleActions : List Action :=
  [sampleSet 1 "sk-old" 1, sampleSet 2 "key-é" 2, sampleSet 1 "sk-new" 3,
    .remove (newId 3 fun _ => 0)]

def sampleVault : Vault := sampleActions.foldl step (start [sampleProvider 1, sampleProvider 2])

/-- Two providers: the second set of the first one counts, and the rows cannot be swapped. -/
theorem credentials_bound_two :
    getDecryptedCredential sampleVault (newId 1 fun _ => 0) = .ok (js "sk-new") ∧
      ∀ row other, sampleVault.credential (newId 1 fun _ => 0) = some row →
        sampleVault.credential (newId 2 fun _ => 0) = some other →
        IsDecryptionError (getDecryptedCredential
          (overwrite sampleVault (newId 1 fun _ => 0) other.encryptedValue other.nonce)
          (newId 1 fun _ => 0)) := by
  have hideal : Runs.Allowed step Ideal (start [sampleProvider 1, sampleProvider 2])
      sampleActions := by
    have hformed : ∀ timestamp secret n, wellFormed (js (" " ++ secret ++ " ")) = true →
        ∀ s, Fresh s.sealings (sampleDrawn n secret) → Ideal s (sampleSet timestamp secret n) := by
      intro timestamp secret n hsecret s hfresh
      refine ⟨hfresh, rfl, rfl, ?_⟩
      rintro text ⟨⟩
      exact hsecret
    refine ⟨hformed 1 "sk-old" 1 (by decide) _ ⟨nofun, nofun⟩,
      hformed 2 "key-é" 2 (by decide) _ ⟨?_, ?_⟩, hformed 1 "sk-new" 3 (by decide) _ ⟨?_, ?_⟩,
      trivial, trivial⟩
    all_goals decide +kernel
  obtain ⟨hread, htampered⟩ := credentials_bound [sampleProvider 1, sampleProvider 2]
    (by
      intro row hrow
      rcases List.mem_pair.mp hrow with rfl | rfl
      · exact newId_wellFormed 1 fun _ => 0
      · exact newId_wellFormed 2 fun _ => 0)
    sampleActions hideal
  have hlast : (if [sampleProvider 1, sampleProvider 2].any (·.id = newId 1 fun _ => 0) then
      lastSecret (newId 1 fun _ => 0) sampleActions.reverse else none) = some (js "sk-new") := by
    decide +kernel
  constructor
  · have h := hread (newId 1 fun _ => 0)
    rw [hlast] at h
    exact h
  · intro row other hrow hother
    have hne : newId 2 (fun _ => 0) ≠ newId 1 fun _ => 0 := by decide +kernel
    exact htampered _ row hrow _ _ (.transplanted _ other hne hother)

end Glassbeetle.CredentialBinding
