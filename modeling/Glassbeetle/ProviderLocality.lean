import Glassbeetle.ProviderUpdates

set_option autoImplicit false

namespace Glassbeetle.ProviderLocality
open JsText Database ContextConstruction ExecutionChain Providers ProviderUpdates

variable {ν : Type}

structure Registry (ν : Type) where
  db : Tables ν
  supplied : JsString → Option Bool

inductive ProviderAction (ν : Type) where
  | create (id : JsString) (dto : CreateProviderDto) (now : JsString)
  | update (id : JsString) (dto : UpdateProviderDto) (now : JsString)
  | elsewhere (change : Tables ν → Tables ν)

/-- A request that is refused counts for nothing. -/
def committed (s : Registry ν) (r : Except Failure (Tables ν))
    (supplied : JsString → Option Bool) : Registry ν :=
  match r with
  | .ok db => ⟨db, supplied⟩
  | .error _ => s

def step (s : Registry ν) : ProviderAction ν → Registry ν
  | .create id dto now =>
    committed s (create s.db id dto now) (Function.update s.supplied id dto.isLocal.toOption)
  | .update id dto now =>
    committed s (update s.db id dto now)
      (Function.update s.supplied id (dto.isLocal.toOption.or (s.supplied id)))
  | .elsewhere change => { s with db := { change s.db with providers := s.db.providers } }

structure Kept (s : Registry ν) : Prop where
  unique : (s.db.providers.map (·.id)).Nodup
  forced : ∀ row ∈ s.db.providers, row.kind ∈ alwaysLocalKinds → row.isLocal = true
  address : ∀ row ∈ s.db.providers, row.kind ∈ localOrCustomKinds →
    ∃ url, row.baseUrl = some url ∧ url ≠ []

/-- No key is stored for the provider, or a blank one. -/
def KeyLess (db : Tables ν) (providerId : JsString) : Prop :=
  db.credentials.lookup providerId = none ∨
    ∃ key, db.credentials.lookup providerId = some (.ok key) ∧ trim key = []

def Truthful (s : Registry ν) : Prop :=
  ∀ row ∈ s.db.providers, row.kind ∉ alwaysLocalKinds →
    row.isLocal = (s.supplied row.id).getD false

structure Governed (s : Registry ν) : Prop where
  truthful : Truthful s
  address : ∀ row ∈ s.db.providers, row.kind ∈ localOrCustomKinds →
    ∃ url, row.baseUrl = some url ∧ url ≠ []
  refuses : ∀ row ∈ s.db.providers, row.kind ∉ alwaysLocalKinds → s.supplied row.id ≠ some true →
    KeyLess s.db row.id → row.enabled = true → ∀ modelId model, s.db.model modelId = some model →
      model.enabled = true → model.providerId = row.id →
        ∃ message, resolveModel s.db modelId = .error (unprocessable "CREDENTIAL_MISSING" message)

theorem provider_of_mem (db : Tables ν) (h : (db.providers.map (·.id)).Nodup) (row : ProviderRow)
    (hrow : row ∈ db.providers) : db.provider row.id = some row := by
  obtain ⟨before, after, heq⟩ := List.append_of_mem hrow
  unfold Tables.provider
  rw [heq] at h ⊢
  rw [List.map_append, List.map_cons, List.nodup_middle, List.nodup_cons, ← List.map_append] at h
  rw [List.find?_append]
  have hnone : before.find? (fun other => decide (other.id = row.id)) = none := by
    refine List.find?_eq_none.mpr fun other hother hsame => h.1 ?_
    rw [← of_decide_eq_true hsame]
    exact List.mem_map_of_mem (List.mem_append_left _ hother)
  rw [hnone, List.find?_cons_of_pos (by simp)]
  rfl

theorem resolveModel_refuses (db : Tables ν) (modelId : JsString) (model : ModelRow ν)
    (row : ProviderRow) (hmodel : db.model modelId = some model) (hmodelOn : model.enabled = true)
    (hprovider : db.provider model.providerId = some row) (hon : row.enabled = true)
    (hremote : row.kind ∉ alwaysLocalKinds) (hflag : row.isLocal = false)
    (hkeyless : KeyLess db row.id) :
    ∃ message, resolveModel db modelId = .error (unprocessable "CREDENTIAL_MISSING" message) := by
  have hkind : row.kind ≠ js "ollama" ∧ row.kind ≠ js "lmstudio" := by
    simpa [alwaysLocalKinds] using hremote
  refine ⟨js "Provider \"" ++ row.name ++
    js "\" requires an API credential that is not configured", ?_⟩
  unfold resolveModel
  rcases hkeyless with hnone | ⟨key, hkey, hblank⟩
  · simp [hmodel, hmodelOn, hprovider, hon, hkind.1, hkind.2, hflag, hnone]
    rfl
  · simp [hmodel, hmodelOn, hprovider, hon, hkind.1, hkind.2, hflag, hkey, hblank]
    rfl

theorem governed_iff (s : Registry ν) (h : Kept s) : Governed s ↔ Truthful s := by
  refine ⟨fun hg => hg.truthful, fun ht => ⟨ht, h.address, ?_⟩⟩
  intro row hrow hremote hunmarked hkeyless hon modelId model hmodel hmodelOn hprovider
  have hfound : s.db.provider model.providerId = some row := by
    rw [hprovider]
    exact provider_of_mem s.db h.unique row hrow
  have hflag : row.isLocal = false := by
    rw [ht row hrow hremote]
    rcases hs : s.supplied row.id with _ | _ | _
    · rfl
    · rfl
    · exact absurd hs hunmarked
  exact resolveModel_refuses s.db modelId model row hmodel hmodelOn hfound hon hremote hflag hkeyless

theorem truthy_some (value : Option JsString) (h : ¬(truthy value).isNone = true) :
    ∃ text, value = some text ∧ text ≠ [] := by
  rw [Option.isNone_iff_eq_none] at h
  obtain ⟨text, htext⟩ := Option.ne_none_iff_exists'.mp h
  obtain ⟨hvalue, hne⟩ := Option.filter_eq_some_iff.mp htext
  exact ⟨text, hvalue, of_decide_eq_true hne⟩

def createdRow (id : JsString) (dto : CreateProviderDto) (now : JsString) : ProviderRow where
  id := id
  name := dto.name
  kind := dto.kind
  baseUrl := dto.baseUrl.toOption
  isLocal := deriveIsLocal dto.kind dto.isLocal.toOption
  enabled := dto.enabled.orElse true
  createdAt := now
  updatedAt := now

theorem create_ok (db : Tables ν) (id : JsString) (dto : CreateProviderDto) (now : JsString)
    (after : Tables ν) (h : create db id dto now = .ok after) :
    after = { db with providers := db.providers ++ [createdRow id dto now] } ∧
      id ∉ db.providers.map (·.id) ∧
      ¬(dto.kind ∈ localOrCustomKinds ∧ (truthy dto.baseUrl.toOption).isNone) := by
  obtain ⟨_, hbase, h⟩ := ok_of_bind _ _ _ h
  split_ifs at h with htaken
  refine ⟨(Except.ok.inj h).symm, fun hin => htaken ?_, fun hlacks => ?_⟩
  · obtain ⟨row, hrow, rfl⟩ := List.mem_map.mp hin
    unfold Tables.provider
    rw [List.find?_isSome]
    exact ⟨row, hrow, by simp⟩
  · unfold assertBaseUrl at hbase
    rw [if_pos hlacks] at hbase
    cases hbase

theorem create_step (s : Registry ν) (id : JsString) (dto : CreateProviderDto) (now : JsString)
    (h : Kept s) (ht : Truthful s) :
    Kept (step s (.create id dto now)) ∧ Truthful (step s (.create id dto now)) := by
  change Kept (committed s (create s.db id dto now) _) ∧
    Truthful (committed s (create s.db id dto now) _)
  cases hc : create s.db id dto now with
  | error e => exact ⟨h, ht⟩
  | ok after =>
    obtain ⟨rfl, hfresh, hbase⟩ := create_ok s.db id dto now after hc
    refine ⟨⟨?_, fun row hrow hkind => ?_, fun row hrow hkind => ?_⟩, fun row hrow hkind => ?_⟩
    · change ((s.db.providers ++ [createdRow id dto now]).map (·.id)).Nodup
      rw [List.map_append, List.map_singleton, List.nodup_append_comm]
      exact List.nodup_cons.mpr ⟨hfresh, h.unique⟩
    · rcases List.mem_append.mp hrow with hrow | hrow
      · exact h.forced row hrow hkind
      · obtain rfl := List.mem_singleton.mp hrow
        exact if_pos hkind
    · rcases List.mem_append.mp hrow with hrow | hrow
      · exact h.address row hrow hkind
      · obtain rfl := List.mem_singleton.mp hrow
        exact truthy_some _ fun hnone => hbase ⟨hkind, hnone⟩
    · rcases List.mem_append.mp hrow with hrow | hrow
      · have hne : row.id ≠ id := fun heq => hfresh (heq ▸ List.mem_map_of_mem hrow)
        change row.isLocal = (Function.update s.supplied id dto.isLocal.toOption row.id).getD false
        rw [Function.update_of_ne hne]
        exact ht row hrow hkind
      · obtain rfl := List.mem_singleton.mp hrow
        change deriveIsLocal dto.kind dto.isLocal.toOption =
          (Function.update s.supplied id dto.isLocal.toOption id).getD false
        rw [Function.update_self]
        exact if_neg hkind

/-- The flag is not inherited from a kind that forces it, unless it was last supplied as true. -/
def NotInherited (s : Registry ν) : ProviderAction ν → Prop
  | .update id dto _ => ∀ row, s.db.provider id = some row → ¬LacksBaseUrl row dto →
      row.kind ∈ alwaysLocalKinds → dto.kind.orElse row.kind ∉ alwaysLocalKinds →
        dto.isLocal.toOption = none → s.supplied id = some true
  | _ => True

theorem mem_written (db : Tables ν) (row : ProviderRow) (dto : UpdateProviderDto) (now : JsString)
    (hunique : (db.providers.map (·.id)).Nodup) (hrow : db.provider row.id = some row)
    (other : ProviderRow) (h : other ∈ db.providers.map (writeProvider (updatedRow row dto now))) :
    other = updatedRow row dto now ∨ other.id ≠ row.id ∧ other ∈ db.providers := by
  obtain ⟨old, hold, rfl⟩ := List.mem_map.mp h
  by_cases hid : old.id = row.id
  · have hsame := provider_of_mem db hunique old hold
    rw [hid, hrow] at hsame
    obtain rfl := Option.some.inj hsame
    exact .inl (updatedRow_written row dto now)
  · have hkept : writeProvider (updatedRow row dto now) old = old := if_neg hid
    rw [hkept]
    exact .inr ⟨hid, hold⟩

/-- What an update makes of the flag agrees with what was supplied, unless it is inherited. -/
theorem updated_flag (row : ProviderRow) (dto : UpdateProviderDto) (now : JsString)
    (supplied : Option Bool) (hforced : row.kind ∈ alwaysLocalKinds → row.isLocal = true)
    (ht : row.kind ∉ alwaysLocalKinds → row.isLocal = supplied.getD false)
    (hremote : dto.kind.orElse row.kind ∉ alwaysLocalKinds) :
    (updatedRow row dto now).isLocal = (dto.isLocal.toOption.or supplied).getD false ↔
      (row.kind ∈ alwaysLocalKinds → dto.isLocal.toOption = none → supplied = some true) := by
  have hflag : (updatedRow row dto now).isLocal = dto.isLocal.toOption.getD row.isLocal :=
    if_neg hremote
  rw [hflag]
  cases hs : dto.isLocal.toOption with
  | some v => exact iff_of_true rfl fun _ h => nomatch h
  | none =>
    change row.isLocal = supplied.getD false ↔ _
    by_cases hlocal : row.kind ∈ alwaysLocalKinds
    · rw [hforced hlocal]
      rcases supplied with _ | _ | _ <;> simp [hlocal]
    · exact iff_of_true (ht hlocal) fun h => absurd h hlocal

theorem update_step (s : Registry ν) (id : JsString) (dto : UpdateProviderDto) (now : JsString)
    (h : Kept s) (ht : Truthful s) :
    Kept (step s (.update id dto now)) ∧
      (Truthful (step s (.update id dto now)) ↔ NotInherited s (.update id dto now)) := by
  change Kept (committed s (update s.db id dto now) _) ∧
    (Truthful (committed s (update s.db id dto now) _) ↔ ∀ row, s.db.provider id = some row →
      ¬LacksBaseUrl row dto → row.kind ∈ alwaysLocalKinds →
        dto.kind.orElse row.kind ∉ alwaysLocalKinds → dto.isLocal.toOption = none →
          s.supplied id = some true)
  cases hp : s.db.provider id with
  | none =>
    have herror : ∃ e, update s.db id dto now = .error e := by
      unfold update findOneOrFail
      rw [hp]
      exact ⟨_, rfl⟩
    obtain ⟨e, he⟩ := herror
    rw [he]
    exact ⟨h, iff_of_true ht fun row hrow => nomatch hrow⟩
  | some row =>
    have hid := provider_id s.db id row hp
    have hmem : row ∈ s.db.providers := List.mem_of_find?_eq_some hp
    by_cases hlacks : LacksBaseUrl row dto
    · rw [update_refused s.db id row hp dto now hlacks]
      refine ⟨h, iff_of_true ht fun other hother hnot => ?_⟩
      obtain rfl := Option.some.inj hother
      exact absurd hlacks hnot
    · rw [update_written s.db id row hp dto now hlacks]
      subst hid
      have hcases := mem_written s.db row dto now h.unique hp
      have hnew : updatedRow row dto now ∈
          s.db.providers.map (writeProvider (updatedRow row dto now)) :=
        List.mem_map.mpr ⟨row, hmem, updatedRow_written row dto now⟩
      refine ⟨⟨?_, fun other hother hkind => ?_, fun other hother hkind => ?_⟩, ?_⟩
      · change ((s.db.providers.map (writeProvider (updatedRow row dto now))).map (·.id)).Nodup
        rw [List.map_map]
        have hids : ((·.id) ∘ writeProvider (updatedRow row dto now)) = fun row => row.id :=
          funext fun other => writeProvider_id _ other
        rw [hids]
        exact h.unique
      · rcases hcases other hother with rfl | ⟨-, hother⟩
        · exact if_pos hkind
        · exact h.forced other hother hkind
      · rcases hcases other hother with rfl | ⟨-, hother⟩
        · exact truthy_some _ fun hnone => hlacks ⟨hkind, hnone⟩
        · exact h.address other hother hkind
      · have hflag (hremote : dto.kind.orElse row.kind ∉ alwaysLocalKinds) :=
          updated_flag row dto now (s.supplied row.id) (h.forced row hmem) (ht row hmem) hremote
        constructor
        · intro hafter other hother _ hlocal hremote hnone
          obtain rfl := Option.some.inj hother
          refine (hflag hremote).mp ?_ hlocal hnone
          have := hafter _ hnew hremote
          change _ = (Function.update s.supplied row.id _ row.id).getD false at this
          rw [Function.update_self] at this
          exact this
        · intro hok other hother hkind
          rcases hcases other hother with rfl | ⟨hne, hother⟩
          · change _ = (Function.update s.supplied row.id _ row.id).getD false
            rw [Function.update_self]
            exact (hflag hkind).mpr fun hlocal hnone => hok row rfl hlacks hlocal hkind hnone
          · change _ = (Function.update s.supplied row.id _ other.id).getD false
            rw [Function.update_of_ne hne]
            exact ht other hother hkind

theorem step_spec (s : Registry ν) (action : ProviderAction ν) (h : Kept s) (ht : Truthful s) :
    Kept (step s action) ∧ (Truthful (step s action) ↔ NotInherited s action) := by
  cases action with
  | create id dto now =>
    have hboth := create_step s id dto now h ht
    exact ⟨hboth.1, iff_of_true hboth.2 trivial⟩
  | update id dto now => exact update_step s id dto now h ht
  | elsewhere change => exact ⟨⟨h.unique, h.forced, h.address⟩, iff_of_true ht trivial⟩

def emptyRegistry (db : Tables ν) : Registry ν := ⟨{ db with providers := [] }, fun _ => none⟩

/-- The flag follows the requests throughout exactly when it is never inherited from a kind that
forces it. -/
theorem providers_governed (db : Tables ν) (actions : List (ProviderAction ν)) :
    (∀ s ∈ Runs.states step (emptyRegistry db) actions, Governed s) ↔
      Runs.Allowed step NotInherited (emptyRegistry db) actions := by
  have hstart : Kept (emptyRegistry db) :=
    ⟨List.nodup_nil, fun _ hrow => (nomatch hrow), fun _ hrow => (nomatch hrow)⟩
  refine Runs.run_iff step NotInherited Kept Governed ?_ ?_ _ actions hstart
    ((governed_iff _ hstart).mpr fun _ hrow => (nomatch hrow))
  · exact fun s action hkept hgoverned => (step_spec s action hkept hgoverned.truthful).1
  · intro s action hkept hgoverned
    obtain ⟨hkept', hiff⟩ := step_spec s action hkept hgoverned.truthful
    exact (governed_iff _ hkept').trans hiff

/-- An Ollama provider becomes an OpenAI one and still counts as local. -/
theorem local_flag_inherited :
    ¬∀ s ∈ Runs.states step (emptyRegistry proxiedTables)
      [.create (js "p") ⟨js "P", js "ollama", .value (js "http://localhost:11434"), .undefined,
          .undefined⟩ [],
        .update (js "p") (instantiate { emptyBody with kind := some (some (js "openai")) }) []],
      Governed s := by
  intro h
  have hlast := (h _ (List.mem_of_getLast? rfl)).truthful _ (List.mem_singleton_self _)
    (by decide)
  exact absurd hlast (by decide)

end Glassbeetle.ProviderLocality
