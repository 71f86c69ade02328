import Mathlib.Data.List.Basic

set_option autoImplicit false

/-!
# An ideal authenticated cipher

Under one key the cipher remembers what it has sealed. Opening is a look-up: it
succeeds only for the nonce, associated data, ciphertext and tag of a sealing.
-/
namespace Glassbeetle.IdealCipher

variable {β : Type}

structure Sealing (β : Type) where
  nonce : List β
  associatedData : List β
  plaintext : List β
  ciphertext : List β
  tag : List β

structure Drawn (β : Type) where
  nonce : List β
  ciphertext : List β
  tag : List β

def Drawn.sealing (drawn : Drawn β) (associatedData plaintext : List β) : Sealing β :=
  ⟨drawn.nonce, associatedData, plaintext, drawn.ciphertext, drawn.tag⟩

def opened [DecidableEq β] (sealings : List (Sealing β))
    (nonce associatedData ciphertext tag : List β) : Option (List β) :=
  (sealings.find? fun s => s.nonce = nonce ∧ s.associatedData = associatedData ∧
    s.ciphertext = ciphertext ∧ s.tag = tag).map (·.plaintext)

structure Fresh (sealings : List (Sealing β)) (drawn : Drawn β) : Prop where
  nonce : ∀ s ∈ sealings, s.nonce ≠ drawn.nonce
  output : ∀ s ∈ sealings, ¬(s.ciphertext = drawn.ciphertext ∧ s.tag = drawn.tag)

structure Distinct (sealings : List (Sealing β)) : Prop where
  nonce : ∀ s ∈ sealings, ∀ t ∈ sealings, s.nonce = t.nonce → s = t
  output : ∀ s ∈ sealings, ∀ t ∈ sealings, s.ciphertext = t.ciphertext → s.tag = t.tag → s = t

theorem distinct_nil : Distinct ([] : List (Sealing β)) := ⟨nofun, nofun⟩

theorem distinct_cons (sealings : List (Sealing β)) (drawn : Drawn β)
    (associatedData plaintext : List β) (h : Distinct sealings) (hfresh : Fresh sealings drawn) :
    Distinct (drawn.sealing associatedData plaintext :: sealings) := by
  constructor
  · intro s hs t ht hst
    rcases List.mem_cons.mp hs with rfl | hs <;> rcases List.mem_cons.mp ht with rfl | ht
    · rfl
    · exact absurd hst.symm (hfresh.nonce t ht)
    · exact absurd hst (hfresh.nonce s hs)
    · exact h.nonce s hs t ht hst
  · intro s hs t ht hc htag
    rcases List.mem_cons.mp hs with rfl | hs <;> rcases List.mem_cons.mp ht with rfl | ht
    · rfl
    · exact absurd ⟨hc.symm, htag.symm⟩ (hfresh.output t ht)
    · exact absurd ⟨hc, htag⟩ (hfresh.output s hs)
    · exact h.output s hs t ht hc htag

variable [DecidableEq β]

theorem opened_some (sealings : List (Sealing β))
    (nonce associatedData ciphertext tag plaintext : List β)
    (h : opened sealings nonce associatedData ciphertext tag = some plaintext) :
    Sealing.mk nonce associatedData plaintext ciphertext tag ∈ sealings := by
  obtain ⟨s, hs, hplain⟩ := Option.map_eq_some_iff.mp h
  have hmem := List.mem_of_find?_eq_some hs
  have hkey := List.find?_some hs
  rw [decide_eq_true_eq] at hkey
  obtain ⟨rfl, rfl, rfl, rfl⟩ := hkey
  rwa [← hplain]

theorem opened_sealing (sealings : List (Sealing β)) (h : Distinct sealings) (s : Sealing β)
    (hs : s ∈ sealings) :
    opened sealings s.nonce s.associatedData s.ciphertext s.tag = some s.plaintext := by
  cases hopen : opened sealings s.nonce s.associatedData s.ciphertext s.tag with
  | none =>
    rw [opened, Option.map_eq_none_iff, List.find?_eq_none] at hopen
    exact absurd (decide_eq_true ⟨rfl, rfl, rfl, rfl⟩) (hopen s hs)
  | some plaintext =>
    have hmem := opened_some sealings _ _ _ _ _ hopen
    rw [h.nonce s hs _ hmem rfl]

theorem opened_altered (sealings : List (Sealing β)) (h : Distinct sealings) (s : Sealing β)
    (hs : s ∈ sealings) (associatedData ciphertext tag : List β)
    (hne : ¬(associatedData = s.associatedData ∧ ciphertext = s.ciphertext ∧ tag = s.tag)) :
    opened sealings s.nonce associatedData ciphertext tag = none := by
  rw [Option.eq_none_iff_forall_ne_some]
  intro plaintext hopen
  have hmem := opened_some sealings _ _ _ _ _ hopen
  exact hne (by rw [h.nonce s hs _ hmem rfl]; exact ⟨rfl, rfl, rfl⟩)

theorem opened_renonced (sealings : List (Sealing β)) (h : Distinct sealings) (s : Sealing β)
    (hs : s ∈ sealings) (nonce associatedData : List β) (hne : nonce ≠ s.nonce) :
    opened sealings nonce associatedData s.ciphertext s.tag = none := by
  rw [Option.eq_none_iff_forall_ne_some]
  intro plaintext hopen
  have hmem := opened_some sealings _ _ _ _ _ hopen
  exact hne (by rw [h.output s hs _ hmem rfl rfl])

end Glassbeetle.IdealCipher
