import Glassbeetle.Providers
import Glassbeetle.Runs

set_option autoImplicit false

namespace Glassbeetle.ProviderUpdates
open JsText Database ContextConstruction ExecutionChain Providers

section Frame

variable {ν : Type}

theorem field_named {α : Type} (named : Option (Option α)) (other : α) (h : named = none) :
    (field named).orElse other = other := by
  rw [h]
  rfl

theorem field_isIn {α : Type} (named : Option (Option α)) : (field named).isIn = true := by
  rcases named with _ | _ | v <;> rfl

theorem field_toOption {α : Type} (named : Option (Option α)) :
    (field named).toOption = named.join := by
  rcases named with _ | _ | v <;> rfl

/-- The base URL that the body asks for, which is none where it does not name it. -/
theorem updatedBaseUrl_instantiate (existing : ProviderRow) (body : UpdateProviderBody) :
    updatedBaseUrl existing (instantiate body) = body.baseUrl.join := by
  have hin : (instantiate body).baseUrl.isIn = true := field_isIn body.baseUrl
  unfold updatedBaseUrl
  rw [if_pos hin]
  exact field_toOption body.baseUrl

def newKind (row : ProviderRow) (body : UpdateProviderBody) : JsString :=
  body.kind.join.getD row.kind

theorem kind_orElse (row : ProviderRow) (body : UpdateProviderBody) :
    (instantiate body).kind.orElse row.kind = newKind row body := by
  unfold Property.orElse newKind
  rw [← field_toOption]
  rfl

theorem writeProvider_id (new row : ProviderRow) : (writeProvider new row).id = row.id := by
  unfold writeProvider
  split_ifs <;> rfl

theorem provider_id (db : Tables ν) (id : JsString) (row : ProviderRow)
    (h : db.provider id = some row) : row.id = id := by
  have hfound := List.find?_some h
  exact of_decide_eq_true hfound

theorem provider_written (db : Tables ν) (id : JsString) (row new : ProviderRow)
    (h : db.provider id = some row) :
    Tables.provider { db with providers := db.providers.map (writeProvider new) } id =
      some (writeProvider new row) := by
  unfold Tables.provider
  rw [List.find?_map]
  have hids : ((fun row : ProviderRow => decide (row.id = id)) ∘ writeProvider new) =
      fun row : ProviderRow => decide (row.id = id) := by
    funext row
    rw [Function.comp_apply, writeProvider_id]
  rw [hids]
  exact congrArg (Option.map (writeProvider new)) h

/-- A kind that needs a base URL would be left without one. -/
def LacksBaseUrl (row : ProviderRow) (dto : UpdateProviderDto) : Prop :=
  dto.kind.orElse row.kind ∈ localOrCustomKinds ∧ (truthy (updatedBaseUrl row dto)).isNone

theorem update_refused (db : Tables ν) (id : JsString) (row : ProviderRow)
    (hrow : db.provider id = some row) (dto : UpdateProviderDto) (now : JsString)
    (h : LacksBaseUrl row dto) :
    update db id dto now = .error (missingBaseUrl (dto.kind.orElse row.kind)) := by
  unfold LacksBaseUrl at h
  unfold update findOneOrFail
  rw [hrow]
  change (assertBaseUrl _ _ >>= _) = _
  unfold assertBaseUrl
  rw [if_pos h]
  rfl

theorem update_written (db : Tables ν) (id : JsString) (row : ProviderRow)
    (hrow : db.provider id = some row) (dto : UpdateProviderDto) (now : JsString)
    (h : ¬LacksBaseUrl row dto) :
    update db id dto now =
      .ok { db with providers := db.providers.map (writeProvider (updatedRow row dto now)) } := by
  unfold LacksBaseUrl at h
  unfold update findOneOrFail
  rw [hrow]
  change (assertBaseUrl _ _ >>= _) = _
  unfold assertBaseUrl
  rw [if_neg h]
  rfl

theorem updatedRow_written (row : ProviderRow) (dto : UpdateProviderDto) (now : JsString) :
    writeProvider (updatedRow row dto now) row = updatedRow row dto now := if_pos rfl

structure KeepsUnnamed (row after : ProviderRow) (body : UpdateProviderBody) : Prop where
  name : body.name = none → after.name = row.name
  kind : body.kind = none → after.kind = row.kind
  baseUrl : body.baseUrl = none → after.baseUrl = row.baseUrl
  enabled : body.enabled = none → after.enabled = row.enabled

/-- What a `PATCH` of a provider promises. -/
structure PatchKeeps (db : Tables ν) (id : JsString) (row : ProviderRow)
    (body : UpdateProviderBody) (now : JsString) : Prop where
  keeps : ∀ after new, update db id (instantiate body) now = .ok after →
    after.provider id = some new → KeepsUnnamed row new body
  accepted : body.kind = none → body.baseUrl = none →
    ∀ kind, update db id (instantiate body) now ≠ .error (missingBaseUrl kind)

/-- A body that does not name the base URL does no harm where the update is refused for a kind it
does name, or where there is no base URL to lose. -/
def NothingToLose (row : ProviderRow) (body : UpdateProviderBody) : Prop :=
  if newKind row body ∈ localOrCustomKinds then body.kind ≠ none else row.baseUrl = none

theorem keeps_others (row : ProviderRow) (body : UpdateProviderBody) (now : JsString)
    (hbase : body.baseUrl = none → row.baseUrl = none) :
    KeepsUnnamed row (updatedRow row (instantiate body) now) body where
  name := field_named body.name row.name
  kind := field_named body.kind row.kind
  baseUrl h := by
    change updatedBaseUrl row (instantiate body) = row.baseUrl
    rw [updatedBaseUrl_instantiate, h, hbase h]
    rfl
  enabled := field_named body.enabled row.enabled

/-- A `PATCH` changes only what it names exactly when it names the base URL or has none to lose. -/
theorem patch_keeps_unnamed (db : Tables ν) (id : JsString) (row : ProviderRow)
    (hrow : db.provider id = some row) (body : UpdateProviderBody) (now : JsString) :
    PatchKeeps db id row body now ↔ body.baseUrl ≠ none ∨ NothingToLose row body := by
  have hlacks : LacksBaseUrl row (instantiate body) ↔
      newKind row body ∈ localOrCustomKinds ∧ (truthy body.baseUrl.join).isNone := by
    unfold LacksBaseUrl
    rw [kind_orElse, updatedBaseUrl_instantiate]
  by_cases hrefused : LacksBaseUrl row (instantiate body)
  · have herror := update_refused db id row hrow (instantiate body) now hrefused
    have hcustom := (hlacks.mp hrefused).1
    have hiff : PatchKeeps db id row body now ↔ ¬(body.kind = none ∧ body.baseUrl = none) := by
      constructor
      · exact fun h hnone => h.accepted hnone.1 hnone.2 _ herror
      · refine fun h => ⟨fun after new hok => ?_, fun hkind hbase => absurd ⟨hkind, hbase⟩ h⟩
        rw [herror] at hok
        cases hok
    rw [hiff]
    unfold NothingToLose
    rw [if_pos hcustom]
    tauto
  · have hok := update_written db id row hrow (instantiate body) now hrefused
    have hafter := provider_written db id row (updatedRow row (instantiate body) now) hrow
    rw [updatedRow_written] at hafter
    have hiff : PatchKeeps db id row body now ↔ (body.baseUrl = none → row.baseUrl = none) := by
      constructor
      · intro h hnone
        have hkept := (h.keeps _ _ hok hafter).baseUrl hnone
        change updatedBaseUrl row (instantiate body) = row.baseUrl at hkept
        rw [updatedBaseUrl_instantiate, hnone] at hkept
        exact hkept.symm
      · refine fun h => ⟨fun after new hafterOk hnew => ?_, fun _ _ kind => ?_⟩
        · rw [hok] at hafterOk
          rw [← Except.ok.inj hafterOk, hafter] at hnew
          rw [← Option.some.inj hnew]
          exact keeps_others row body now h
        · rw [hok]
          exact fun h => nomatch h
    rw [hiff]
    by_cases hnamed : body.baseUrl = none
    · have hremote : newKind row body ∉ localOrCustomKinds := by
        intro hcustom
        exact hrefused (hlacks.mpr ⟨hcustom, by rw [hnamed]; rfl⟩)
      unfold NothingToLose
      rw [if_neg hremote]
      simp [hnamed]
    · exact iff_of_true (fun h => absurd h hnamed) (.inl hnamed)

end Frame

def proxied : ProviderRow where
  id := js "p"
  name := js "Claude"
  kind := js "anthropic"
  baseUrl := some (js "https://proxy.example")
  isLocal := false
  enabled := true
  createdAt := []
  updatedAt := []

def proxiedTables : Tables ℤ where
  agents := []
  models := []
  providers := [proxied]
  credentials := []
  systemPrompts := []
  teams := []
  teamMembers := []
  chats := []
  messages := []
  usageEvents := []

def emptyBody : UpdateProviderBody := ⟨none, none, none, none, none⟩

theorem patch_with_baseUrl :
    PatchKeeps proxiedTables (js "p") proxied
      { emptyBody with baseUrl := some (some (js "https://other.example")) } [] :=
  (patch_keeps_unnamed proxiedTables (js "p") proxied rfl
    { emptyBody with baseUrl := some (some (js "https://other.example")) } []).mpr (.inl (by simp))

/-- A body that only renames the provider clears its base URL. -/
theorem rename_clears_baseUrl :
    ¬PatchKeeps proxiedTables (js "p") proxied
      { emptyBody with name := some (some (js "Sonnet")) } [] := by
  intro h
  have hkept := (h.keeps _ _ rfl rfl).baseUrl rfl
  cases hkept

end Glassbeetle.ProviderUpdates
