import Glassbeetle.DiscoveryRetention

set_option autoImplicit false

namespace Glassbeetle.DiscoveryLaws
open JsText JsValue AdapterTypes Utf8Text ModelDiscovery DiscoveryRetention

variable {ν : Type} [DecidableEq ν]

def total (counts : Counts) : ℕ :=
  counts.added + counts.updated + counts.unchanged + counts.disabled

instance (providerId : JsString) (row : ModelRow ν) : Decidable (Managed providerId row) :=
  decidable_of_iff (row.providerId = providerId ∧ row.source = .discovered)
    ⟨fun h => ⟨h.1, h.2⟩, fun h => ⟨h.provider, h.source⟩⟩

def settleItem (now providerId : JsString) (row : ModelRow ν) (item : UpstreamModel ν) :
    ModelRow ν :=
  if Managed providerId row ∧ row.modelIdentifier = item.modelIdentifier ∧
      hasChanged row item = true then (refreshed item now).apply row
  else row

def settle (now providerId : JsString) (items : List (UpstreamModel ν)) (row : ModelRow ν) :
    ModelRow ν := items.foldl (settleItem now providerId) row

def retireRow (now providerId : JsString) (seen : List JsString) (row : ModelRow ν) : ModelRow ν :=
  if Managed providerId row ∧ row.modelIdentifier ∉ seen ∧ row.enabled = true then
    { row with enabled := false, updatedAt := now }
  else row

structure Created (providerId : JsString) (item : UpstreamModel ν) (row : ModelRow ν) : Prop where
  managed : Managed providerId row
  modelIdentifier : row.modelIdentifier = item.modelIdentifier
  unchanged : hasChanged row item = false

/-- The database keeps the model's strings as they are. -/
structure Unicode (item : UpstreamModel ν) : Prop where
  modelIdentifier : stored item.modelIdentifier = item.modelIdentifier
  displayName : stored item.displayName = item.displayName

section Rows
variable (now providerId : JsString)

theorem settleItem_same (row : ModelRow ν) (item : UpstreamModel ν) :
    SameModel row (settleItem now providerId row item) := by
  unfold settleItem
  split_ifs
  · exact ⟨rfl, rfl, rfl⟩
  · exact ⟨rfl, rfl, rfl⟩

theorem settle_same (items : List (UpstreamModel ν)) (row : ModelRow ν) :
    SameModel row (settle now providerId items row) := by
  induction items generalizing row with
  | nil => exact ⟨rfl, rfl, rfl⟩
  | cons item rest ih =>
    exact (settleItem_same now providerId row item).trans (ih (settleItem now providerId row item))

omit [DecidableEq ν] in
theorem retireRow_same (seen : List JsString) (row : ModelRow ν) :
    SameModel row (retireRow now providerId seen row) := by
  unfold retireRow
  split_ifs
  · exact ⟨rfl, rfl, rfl⟩
  · exact ⟨rfl, rfl, rfl⟩

theorem settleItem_other (row : ModelRow ν) (item : UpstreamModel ν)
    (h : row.modelIdentifier ≠ item.modelIdentifier) : settleItem now providerId row item = row :=
  if_neg fun hc => h hc.2.1

theorem settle_other (items : List (UpstreamModel ν)) (row : ModelRow ν)
    (h : row.modelIdentifier ∉ items.map (·.modelIdentifier)) :
    settle now providerId items row = row := by
  induction items with
  | nil => rfl
  | cons item rest ih =>
    rw [List.map_cons, List.mem_cons, not_or] at h
    have hfirst : settle now providerId (item :: rest) row =
        settle now providerId rest (settleItem now providerId row item) := rfl
    rw [hfirst, settleItem_other now providerId row item h.1, ih h.2]

theorem settle_unmanaged (items : List (UpstreamModel ν)) (row : ModelRow ν)
    (h : ¬Managed providerId row) : settle now providerId items row = row := by
  induction items with
  | nil => rfl
  | cons item rest ih =>
    have hfirst : settle now providerId (item :: rest) row =
        settle now providerId rest (settleItem now providerId row item) := rfl
    rw [hfirst, settleItem, if_neg fun hc => h hc.1, ih]

theorem settleItem_unchanged (row : ModelRow ν) (item : UpstreamModel ν) (hunicode : Unicode item)
    (hm : Managed providerId row) (hid : row.modelIdentifier = item.modelIdentifier) :
    hasChanged (settleItem now providerId row item) item = false := by
  unfold settleItem
  by_cases hchanged : hasChanged row item = true
  · rw [if_pos ⟨hm, hid, hchanged⟩]
    simp [hasChanged, Refresh.apply, refreshed, hunicode.displayName]
  · rw [if_neg fun hc => hchanged hc.2.2]
    exact Bool.eq_false_iff.mpr hchanged

theorem settle_unchanged (items : List (UpstreamModel ν))
    (hitems : (items.map (·.modelIdentifier)).Nodup) (hunicode : ∀ item ∈ items, Unicode item)
    (row : ModelRow ν)
    (hm : Managed providerId row) (item : UpstreamModel ν) (hitem : item ∈ items)
    (hid : row.modelIdentifier = item.modelIdentifier) :
    hasChanged (settle now providerId items row) item = false := by
  induction items with
  | nil => cases hitem
  | cons first rest ih =>
    rw [List.map_cons, List.nodup_cons] at hitems
    have hfirst : settle now providerId (first :: rest) row =
        settle now providerId rest (settleItem now providerId row first) := rfl
    rw [hfirst]
    rcases List.mem_cons.mp hitem with rfl | hitem
    · have hkey := ((key_eq _ _).mp (settleItem_same now providerId row item).key).2
      rw [settle_other now providerId rest _ (by rw [hkey, hid]; exact hitems.1)]
      exact settleItem_unchanged now providerId row item (hunicode item (List.mem_cons_self ..)) hm hid
    · have hne : row.modelIdentifier ≠ first.modelIdentifier := fun h =>
        hitems.1 (List.mem_map.mpr ⟨item, hitem, hid.symm.trans h⟩)
      rw [settleItem_other now providerId row first hne]
      exact ih hitems.2 (fun other hother => hunicode other (List.mem_cons_of_mem _ hother)) hitem

end Rows

section Passes
variable (now providerId : JsString)

/-- The identifiers that the provider has no row for. -/
def missing (start : ModelsTable ν) (identifiers : List JsString) : List JsString :=
  identifiers.filter (· ∉ (existingRows start providerId).map (·.modelIdentifier))

def Untouched (start table : ModelsTable ν) (identifier : JsString) : Prop :=
  ∀ row : ModelRow ν, row.providerId = providerId → row.modelIdentifier = identifier →
    (row ∈ table.rows ↔ row ∈ start.rows)

theorem settleItem_stays (table : ModelsTable ν) (item : UpstreamModel ν)
    (h : ∀ row ∈ table.rows, Managed providerId row → row.modelIdentifier = item.modelIdentifier →
      hasChanged row item = false) :
    table.rows.map (settleItem now providerId · item) = table.rows := by
  refine (List.map_congr_left fun row hrow => ?_).trans (List.map_id _)
  exact if_neg fun hc => Bool.eq_false_iff.mp (h row hrow hc.1 hc.2.1) hc.2.2

omit [DecidableEq ν] in
theorem missing_single (start : ModelsTable ν) (identifier : JsString) (absent : Bool)
    (h : absent = true ↔ identifier ∉ (existingRows start providerId).map (·.modelIdentifier)) :
    missing providerId start [identifier] = if absent then [identifier] else [] := by
  unfold missing
  rw [List.filter_singleton]
  simp only [← h]
  cases absent <;> rfl

def Steps (start table : ModelsTable ν) (counts : Counts) (item : UpstreamModel ν)
    (result : Option (ModelsTable ν × Counts)) : Prop :=
  ∃ created after counts', result = some (after, counts') ∧
    after.rows = table.rows.map (settleItem now providerId · item) ++ created ∧
    (∀ row ∈ created, Created providerId item row) ∧
    created.map (·.modelIdentifier) = missing providerId start [item.modelIdentifier] ∧
    total counts' = total counts + 1

theorem reconcileItem_creates (ids : IdSource) (start table : ModelsTable ν) (counts : Counts)
    (item : UpstreamModel ν) (hunicode : Unicode item)
    (h : Untouched providerId start table item.modelIdentifier)
    (hfind : (existingRows start providerId).find? (fun row =>
      decide (row.modelIdentifier = item.modelIdentifier)) = none) :
    Steps now providerId start table counts item
      (reconcileItem ids now providerId (existingRows start providerId) (table, counts) item) := by
  have habsent : ∀ row ∈ start.rows, row.providerId = providerId →
      row.modelIdentifier ≠ item.modelIdentifier := fun row hrow hp => by
    simpa using List.find?_eq_none.mp hfind row ((mem_existingRows row).mpr ⟨hrow, hp⟩)
  have hnone : ∀ row ∈ table.rows, row.providerId = providerId →
      row.modelIdentifier ≠ item.modelIdentifier := fun row hrow hp hid =>
    habsent row ((h row hp hid).mp hrow) hp hid
  have hfree : (newRow ids now providerId item table).written.key ∉ table.rows.map ModelRow.key := by
    intro hmem
    obtain ⟨row, hrow, heq⟩ := List.mem_map.mp hmem
    obtain ⟨hp, hid⟩ := (key_eq _ _).mp heq
    exact hnone row hrow hp (hid.trans hunicode.modelIdentifier)
  unfold reconcileItem
  dsimp only
  rw [hfind]
  refine ⟨[(newRow ids now providerId item table).written], _, _,
    congrArg (Option.map _) (dif_pos ⟨ids.fresh _, hfree⟩), ?_, ?_, ?_, ?_⟩
  · rw [settleItem_stays now providerId table item fun row hrow hm hid =>
      absurd hid (hnone row hrow hm.provider)]
  · intro row hrow
    obtain rfl := List.mem_singleton.mp hrow
    refine ⟨⟨rfl, rfl⟩, hunicode.modelIdentifier, ?_⟩
    simp [hasChanged, newRow, ModelRow.written, hunicode.displayName]
  · refine (congrArg (fun identifier => [identifier]) hunicode.modelIdentifier).trans
      (missing_single providerId start _ true (iff_of_true rfl fun hmem => ?_)).symm
    obtain ⟨row, hrow, hid⟩ := List.mem_map.mp hmem
    obtain ⟨hrow, hp⟩ := (mem_existingRows row).mp hrow
    exact habsent row hrow hp hid
  · unfold total
    dsimp only
    omega

theorem reconcileItem_updates (ids : IdSource) (start table : ModelsTable ν) (counts : Counts)
    (item : UpstreamModel ν) (h : Untouched providerId start table item.modelIdentifier)
    (existing : ModelRow ν) (hfind : (existingRows start providerId).find? (fun row =>
      decide (row.modelIdentifier = item.modelIdentifier)) = some existing) :
    Steps now providerId start table counts item
      (reconcileItem ids now providerId (existingRows start providerId) (table, counts) item) := by
  have hid : existing.modelIdentifier = item.modelIdentifier := by
    simpa using List.find?_some hfind
  have hin := List.mem_of_find?_eq_some hfind
  obtain ⟨hmem, hp⟩ := (mem_existingRows existing).mp hin
  have he : existing ∈ table.rows := (h existing hp hid).mpr hmem
  have honly : ∀ row ∈ table.rows, row.providerId = providerId →
      row.modelIdentifier = item.modelIdentifier → row = existing := fun row hrow hpr hi =>
    same_identifier table providerId row existing hrow he hpr hp (hi.trans hid.symm)
  have hpresent := missing_single providerId start item.modelIdentifier false
    (iff_of_false Bool.false_ne_true fun hn => hn (List.mem_map.mpr ⟨existing, hin, hid⟩))
  have hnil : ∀ row ∈ ([] : List (ModelRow ν)), Created providerId item row :=
    fun _ hrow => absurd hrow List.not_mem_nil
  have hsame : (Managed providerId existing → hasChanged existing item = false) →
      table.rows = table.rows.map (settleItem now providerId · item) ++ [] := by
    intro hunchanged
    rw [List.append_nil]
    refine (settleItem_stays now providerId table item fun row hrow hm hi => ?_).symm
    obtain rfl := honly row hrow hm.provider hi
    exact hunchanged hm
  unfold reconcileItem
  dsimp only
  rw [hfind]
  dsimp only
  cases hsource : existing.source with
  | manual =>
    refine ⟨[], table, _, rfl, hsame fun hm => ?_, hnil, hpresent.symm, ?_⟩
    · exact absurd (hm.source.symm.trans hsource) (by decide)
    · unfold total
      dsimp only
      omega
  | discovered =>
    dsimp only
    split_ifs with hchanged
    · refine ⟨[], _, _, rfl, ?_, hnil, hpresent.symm, ?_⟩
      · rw [List.append_nil]
        refine List.map_congr_left fun row hrow => ?_
        unfold settleItem
        by_cases hrid : row.id = existing.id
        · obtain rfl := same_id table row existing hrow he hrid
          rw [if_pos rfl, if_pos ⟨⟨hp, hsource⟩, hid, hchanged⟩]
        · rw [if_neg hrid, if_neg fun hc => hrid ?_]
          rw [honly row hrow hc.1.provider hc.2.1]
      · unfold total
        dsimp only
        omega
    · refine ⟨[], table, _, rfl, hsame fun _ => Bool.eq_false_iff.mpr hchanged, hnil,
        hpresent.symm, ?_⟩
      unfold total
      dsimp only
      omega

theorem reconcileItem_rows (ids : IdSource) (start table : ModelsTable ν) (counts : Counts)
    (item : UpstreamModel ν) (hunicode : Unicode item)
    (h : Untouched providerId start table item.modelIdentifier) :
    Steps now providerId start table counts item
      (reconcileItem ids now providerId (existingRows start providerId) (table, counts) item) := by
  cases hfind : (existingRows start providerId).find? fun row =>
    decide (row.modelIdentifier = item.modelIdentifier) with
  | none => exact reconcileItem_creates now providerId ids start table counts item hunicode h hfind
  | some existing =>
    exact reconcileItem_updates now providerId ids start table counts item h existing hfind

theorem reconcileItems_rows (ids : IdSource) (start table : ModelsTable ν) (counts : Counts)
    (items : List (UpstreamModel ν)) (hitems : (items.map (·.modelIdentifier)).Nodup)
    (hunicode : ∀ item ∈ items, Unicode item)
    (h : ∀ item ∈ items, Untouched providerId start table item.modelIdentifier) :
    ∃ created after counts', items.foldlM (reconcileItem ids now providerId
        (existingRows start providerId)) (table, counts) = some (after, counts') ∧
      after.rows = table.rows.map (settle now providerId items) ++ created ∧
      (∀ row ∈ created, ∃ item ∈ items, Created providerId item row) ∧
      created.map (·.modelIdentifier) =
        missing providerId start (items.map (·.modelIdentifier)) ∧
      total counts' = total counts + items.length := by
  induction items generalizing table counts with
  | nil =>
    refine ⟨[], table, counts, rfl, ?_, fun _ hrow => absurd hrow List.not_mem_nil, rfl, rfl⟩
    rw [List.append_nil]
    exact (List.map_id _).symm
  | cons item rest ih =>
    rw [List.map_cons, List.nodup_cons] at hitems
    obtain ⟨first, mid, counts₁, hstep, hmid, hfirst, hfirstIds, htotal⟩ :=
      reconcileItem_rows now providerId ids start table counts item
        (hunicode item (List.mem_cons_self ..)) (h item (List.mem_cons_self ..))
    -- the step leaves the rows with other identifiers alone
    have hrest : ∀ other ∈ rest, Untouched providerId start mid other.modelIdentifier := by
      intro other hother row hp hid
      have hne : row.modelIdentifier ≠ item.modelIdentifier := fun heq =>
        hitems.1 (List.mem_map.mpr ⟨other, hother, hid.symm.trans heq⟩)
      rw [← h other (List.mem_cons_of_mem _ hother) row hp hid, hmid, List.mem_append, List.mem_map]
      constructor
      · rintro (⟨old, hold, rfl⟩ | hcreated)
        · have hkey := ((key_eq _ _).mp (settleItem_same now providerId old item).key).2
          rwa [settleItem_other now providerId old item (hkey ▸ hne)]
        · exact absurd (hfirst row hcreated).modelIdentifier hne
      · exact fun hrow => .inl ⟨row, hrow, settleItem_other now providerId row item hne⟩
    obtain ⟨created, after, counts₂, hrun, hafter, hcreated, hids, htotal'⟩ :=
      ih mid counts₁ hitems.2 (fun other hother => hunicode other (List.mem_cons_of_mem _ hother))
        hrest
    refine ⟨first ++ created, after, counts₂, ?_, ?_, fun row hrow => ?_, ?_, ?_⟩
    · rw [List.foldlM_cons, hstep]
      exact hrun
    · have hkeep : first.map (settle now providerId rest) = first := by
        refine (List.map_congr_left fun row hrow => ?_).trans (List.map_id _)
        exact settle_other now providerId rest row
          (by rw [(hfirst row hrow).modelIdentifier]; exact hitems.1)
      rw [hafter, hmid, List.map_append, hkeep, List.map_map, List.append_assoc]
      rfl
    · rcases List.mem_append.mp hrow with hrow | hrow
      · exact ⟨item, List.mem_cons_self .., hfirst row hrow⟩
      · obtain ⟨other, hother, hc⟩ := hcreated row hrow
        exact ⟨other, List.mem_cons_of_mem _ hother, hc⟩
    · rw [List.map_append, hfirstIds, hids, List.map_cons]
      exact (List.filter_append [item.modelIdentifier] _).symm
    · rw [htotal', htotal, List.length_cons]
      omega

/-- The row that the second loop comes to is still there, as it was read unless it is listed. -/
def Standing (seen : List JsString) (table : ModelsTable ν) (existing : ModelRow ν) : Prop :=
  ∃ row ∈ table.rows, SameModel existing row ∧ (existing.modelIdentifier ∉ seen → row = existing)

omit [DecidableEq ν] in
theorem retire_rows (seen : List JsString) (table : ModelsTable ν) (counts : Counts)
    (existing : ModelRow ν) (hp : existing.providerId = providerId)
    (h : Standing seen table existing) :
    (retire now seen (table, counts) existing).1.rows = table.rows.map (fun row =>
        if row.id = existing.id then retireRow now providerId seen row else row) ∧
      total (retire now seen (table, counts) existing).2 =
        total counts + if existing.modelIdentifier ∈ seen then 0 else 1 := by
  obtain ⟨standing, hmem, hsame, hasRead⟩ := h
  have honly : ∀ row ∈ table.rows, row.id = existing.id → row = standing := fun row hrow hid =>
    same_id table row standing hrow hmem (hid.trans hsame.id.symm)
  have hkeep : retireRow now providerId seen standing = standing →
      table.rows = table.rows.map (fun row =>
        if row.id = existing.id then retireRow now providerId seen row else row) := by
    intro hstays
    refine ((List.map_congr_left fun row hrow => ?_).trans (List.map_id _)).symm
    split_ifs with hid
    · rw [honly row hrow hid]
      exact hstays
    · rfl
  unfold retire
  dsimp only
  by_cases hseen : existing.modelIdentifier ∈ seen
  · rw [if_pos hseen, if_pos hseen]
    have hkey := ((key_eq _ _).mp hsame.key).2
    exact ⟨hkeep (if_neg fun hc => hc.2.1 (hkey ▸ hseen)), rfl⟩
  · obtain rfl := hasRead hseen
    rw [if_neg hseen, if_neg hseen]
    cases hsource : standing.source with
    | manual =>
      refine ⟨hkeep (if_neg fun hc => ?_), ?_⟩
      · exact absurd (hc.1.source.symm.trans hsource) (by decide)
      · unfold total
        dsimp only
        omega
    | discovered =>
      dsimp only
      by_cases hon : standing.enabled = true
      · rw [if_pos hon]
        refine ⟨List.map_congr_left fun row hrow => ?_, ?_⟩
        · by_cases hid : row.id = standing.id
          · obtain rfl := honly row hrow hid
            rw [if_pos rfl, if_pos rfl]
            exact (if_pos ⟨⟨hp, hsource⟩, hseen, hon⟩).symm
          · rw [if_neg hid, if_neg hid]
        · unfold total
          dsimp only
          omega
      · rw [if_neg hon]
        refine ⟨hkeep (if_neg fun hc => hon hc.2.2), ?_⟩
        unfold total
        dsimp only
        omega

omit [DecidableEq ν] in
theorem retireAll_rows (seen : List JsString) (rows : List (ModelRow ν))
    (hrows : (rows.map (·.id)).Nodup) (hp : ∀ row ∈ rows, row.providerId = providerId)
    (table : ModelsTable ν) (counts : Counts) (h : ∀ row ∈ rows, Standing seen table row) :
    (rows.foldl (retire now seen) (table, counts)).1.rows = table.rows.map (fun row =>
        if row.id ∈ rows.map (·.id) then retireRow now providerId seen row else row) ∧
      total (rows.foldl (retire now seen) (table, counts)).2 =
        total counts + (rows.filter (·.modelIdentifier ∉ seen)).length := by
  induction rows generalizing table counts with
  | nil => exact ⟨(List.map_id' _).symm, rfl⟩
  | cons existing rest ih =>
    rw [List.map_cons, List.nodup_cons] at hrows
    obtain ⟨hmid, htotal⟩ := retire_rows now providerId seen table counts existing
      (hp existing (List.mem_cons_self ..)) (h existing (List.mem_cons_self ..))
    have hstanding : ∀ row ∈ rest, Standing seen (retire now seen (table, counts) existing).1 row := by
      intro row hrow
      obtain ⟨standing, hmem, hsame, hasRead⟩ := h row (List.mem_cons_of_mem _ hrow)
      have hne : standing.id ≠ existing.id := fun hid =>
        hrows.1 (List.mem_map.mpr ⟨row, hrow, hsame.id.symm.trans hid⟩)
      exact ⟨standing, hmid ▸ List.mem_map.mpr ⟨standing, hmem, if_neg hne⟩, hsame, hasRead⟩
    obtain ⟨hafter, htotal'⟩ := ih hrows.2 (fun row hrow => hp row (List.mem_cons_of_mem _ hrow))
      (retire now seen (table, counts) existing).1 (retire now seen (table, counts) existing).2
      hstanding
    rw [List.foldl_cons]
    refine ⟨?_, ?_⟩
    · refine hafter.trans ?_
      rw [hmid, List.map_map]
      refine List.map_congr_left fun row _ => ?_
      rw [Function.comp_apply, List.map_cons]
      by_cases hid : row.id = existing.id
      · have hretired := (retireRow_same now providerId seen row).id
        rw [if_pos hid, if_neg (by rw [hretired, hid]; exact hrows.1),
          if_pos (List.mem_cons.mpr (.inl hid))]
      · rw [if_neg hid]
        simp only [List.mem_cons, hid, false_or]
    · refine htotal'.trans ?_
      rw [htotal, List.filter_cons]
      split_ifs with hseen hcond hcond
      · simp_all
      · omega
      · rw [List.length_cons]
        omega
      · simp_all

omit [DecidableEq ν] in
theorem provider_length (f : ModelRow ν → ModelRow ν) (hf : ∀ row, SameModel row (f row))
    (rows : List (ModelRow ν)) :
    ((rows.map f).filter fun row => row.providerId = providerId).length =
      (rows.filter fun row => row.providerId = providerId).length := by
  rw [List.filter_map, List.length_map]
  refine congrArg List.length (List.filter_congr fun row _ => ?_)
  rw [Function.comp_apply, ((key_eq _ _).mp (hf row).key).1]

theorem common_length (a b : List JsString) (ha : a.Nodup) (hb : b.Nodup) :
    (a.filter (· ∈ b)).length = (b.filter (· ∈ a)).length := by
  apply List.Perm.length_eq
  rw [List.perm_ext_iff_of_nodup (ha.filter _) (hb.filter _)]
  intro identifier
  simp only [List.mem_filter, decide_eq_true_eq]
  exact and_comm

theorem union_length (a b : List JsString) (ha : a.Nodup) (hb : b.Nodup) :
    a.length + (b.filter (· ∉ a)).length = b.length + (a.filter (· ∉ b)).length := by
  have hcommon := common_length a b ha hb
  have hsplitA := a.length_eq_length_filter_add (fun x => decide (x ∈ b))
  have hsplitB := b.length_eq_length_filter_add (fun x => decide (x ∈ a))
  simp only [← decide_not] at hsplitA hsplitB
  omega

/-- The second loop after the first: the rows that were read are settled and then retired. -/
theorem retireAll_reconciled (start mid : ModelsTable ν) (items : List (UpstreamModel ν))
    (created : List (ModelRow ν)) (counts : Counts)
    (hmid : mid.rows = start.rows.map (settle now providerId items) ++ created)
    (hcreated : ∀ row ∈ created, ∃ item ∈ items, Created providerId item row) :
    let seen := items.map (·.modelIdentifier)
    let result := (existingRows start providerId).foldl (retire now seen) (mid, counts)
    result.1.rows = (start.rows.map (settle now providerId items)).map
        (retireRow now providerId seen) ++ created ∧
      total result.2 = total counts +
        ((existingRows start providerId).filter (·.modelIdentifier ∉ seen)).length := by
  intro seen result
  have hstanding : ∀ row ∈ existingRows start providerId, Standing seen mid row := by
    intro row hrow
    obtain ⟨hmem, -⟩ := (mem_existingRows row).mp hrow
    refine ⟨settle now providerId items row, ?_, settle_same now providerId items row,
      settle_other now providerId items row⟩
    rw [hmid]
    exact List.mem_append_left _ (List.mem_map_of_mem hmem)
  obtain ⟨hafter, htotal⟩ := retireAll_rows now providerId seen (existingRows start providerId)
    ((List.Sublist.map ModelRow.id List.filter_sublist).nodup start.ids)
    (fun row hrow => ((mem_existingRows row).mp hrow).2) mid counts hstanding
  refine ⟨?_, htotal⟩
  rw [hafter, hmid, List.map_append]
  refine congrArg₂ (· ++ ·) ?_ ?_
  · rw [List.map_map, List.map_map]
    refine List.map_congr_left fun row hrow => ?_
    have hsame := settle_same now providerId items row
    dsimp only [Function.comp_apply]
    split_ifs with hin
    · rfl
    · refine (if_neg fun hc => hin (List.mem_map.mpr ⟨row, ?_, hsame.id.symm⟩)).symm
      exact (mem_existingRows row).mpr
        ⟨hrow, (((key_eq _ _).mp hsame.key).1).symm.trans hc.1.provider⟩
  · refine (List.map_congr_left fun row hrow => ?_).trans (List.map_id _)
    obtain ⟨item, hitem, hc⟩ := hcreated row hrow
    have hlisted : row.modelIdentifier ∈ seen := hc.modelIdentifier ▸ List.mem_map_of_mem hitem
    split_ifs
    · exact if_neg fun h => h.2.1 hlisted
    · rfl

/-- How many rows the provider has after a run: those that were read and those created. -/
theorem reconciled_length (start after : ModelsTable ν) (items : List (UpstreamModel ν))
    (created : List (ModelRow ν))
    (hafter : after.rows = (start.rows.map (settle now providerId items)).map
      (retireRow now providerId (items.map (·.modelIdentifier))) ++ created)
    (hcreated : ∀ row ∈ created, ∃ item ∈ items, Created providerId item row) :
    (existingRows after providerId).length =
      (existingRows start providerId).length + created.length := by
  have hrows : existingRows after providerId =
      ((start.rows.map (settle now providerId items)).map
        (retireRow now providerId (items.map (·.modelIdentifier)))).filter
          (fun row => row.providerId = providerId) ++ created := by
    unfold existingRows
    rw [hafter, List.filter_append]
    refine congrArg _ (List.filter_eq_self.mpr fun row hrow => ?_)
    obtain ⟨item, -, hc⟩ := hcreated row hrow
    exact decide_eq_true hc.managed.provider
  rw [hrows, List.length_append, provider_length providerId _ (retireRow_same now providerId _),
    provider_length providerId _ (settle_same now providerId items)]
  rfl

theorem reconcile_rows (ids : IdSource) (start : ModelsTable ν) (upstream items : List (UpstreamModel ν))
    (hitems : items = deduplicate [] upstream) (hunicode : ∀ item ∈ items, Unicode item) :
    ∃ created after counts, reconcile ids now providerId start upstream = some (after, counts) ∧
      after.rows = (start.rows.map (settle now providerId items)).map
        (retireRow now providerId (items.map (·.modelIdentifier))) ++ created ∧
      (∀ row ∈ created, ∃ item ∈ items, Created providerId item row) ∧
      created.map (·.modelIdentifier) =
        missing providerId start (items.map (·.modelIdentifier)) ∧
      total counts = (existingRows after providerId).length := by
  have hnodup : (items.map (·.modelIdentifier)).Nodup := hitems ▸ deduplicate_nodup upstream []
  obtain ⟨created, mid, counts, hfirst, hmid, hcreated, hids, htotal⟩ :=
    reconcileItems_rows now providerId ids start start ⟨0, 0, 0, 0⟩ items hnodup hunicode
      fun _ _ _ _ _ => Iff.rfl
  obtain ⟨hrows, htotal'⟩ :=
    retireAll_reconciled now providerId start mid items created counts hmid hcreated
  refine ⟨created, _, ((existingRows start providerId).foldl
    (retire now (items.map (·.modelIdentifier))) (mid, counts)).2, ?_, hrows, hcreated, hids, ?_⟩
  · unfold reconcile
    simp only [← hitems]
    change (List.foldlM (reconcileItem ids now providerId (existingRows start providerId))
      (start, ⟨0, 0, 0, 0⟩) items).bind _ = _
    rw [hfirst]
    rfl
  · set seen := items.map (·.modelIdentifier) with hseen
    set existing := existingRows start providerId with hexisting
    have hmissing := congrArg List.length hids
    rw [List.length_map] at hmissing
    have hunion := union_length seen _ hnodup (existingRows_nodup start providerId)
    have hunlisted : ((existing.map (·.modelIdentifier)).filter (· ∉ seen)).length =
        (existing.filter (·.modelIdentifier ∉ seen)).length := by
      rw [List.filter_map, List.length_map]
      rfl
    rw [reconciled_length now providerId start _ items created hrows hcreated, htotal', htotal,
      hmissing, ← hexisting]
    rw [hseen, List.length_map, ← hseen, ← hexisting, hunlisted, List.length_map] at hunion
    change 0 + items.length + _ = existing.length +
      (seen.filter (· ∉ existing.map (·.modelIdentifier))).length
    omega

end Passes

section Settling
variable (now providerId : JsString)

structure Settled (items : List (UpstreamModel ν)) (table : ModelsTable ν) : Prop where
  present : ∀ item ∈ items, ∃ row ∈ table.rows, row.providerId = providerId ∧
    row.modelIdentifier = item.modelIdentifier
  current : ∀ item ∈ items, ∀ row ∈ table.rows, Managed providerId row →
    row.modelIdentifier = item.modelIdentifier → hasChanged row item = false
  retired : ∀ row ∈ table.rows, Managed providerId row →
    row.modelIdentifier ∉ items.map (·.modelIdentifier) → row.enabled = false

theorem reconcileItems_settled (ids : IdSource) (table : ModelsTable ν)
    (items : List (UpstreamModel ν)) (n : ℕ)
    (hpresent : ∀ item ∈ items, ∃ row ∈ table.rows, row.providerId = providerId ∧
      row.modelIdentifier = item.modelIdentifier)
    (hcurrent : ∀ item ∈ items, ∀ row ∈ table.rows, Managed providerId row →
      row.modelIdentifier = item.modelIdentifier → hasChanged row item = false) :
    items.foldlM (reconcileItem ids now providerId (existingRows table providerId))
      (table, ⟨0, 0, n, 0⟩) = some (table, ⟨0, 0, n + items.length, 0⟩) := by
  induction items generalizing n with
  | nil => rfl
  | cons item rest ih =>
    have hstep : reconcileItem ids now providerId (existingRows table providerId)
        (table, ⟨0, 0, n, 0⟩) item = some (table, ⟨0, 0, n + 1, 0⟩) := by
      unfold reconcileItem
      dsimp only
      cases hfind : (existingRows table providerId).find? fun row =>
        decide (row.modelIdentifier = item.modelIdentifier) with
      | none =>
        obtain ⟨row, hrow, hp, hid⟩ := hpresent item (List.mem_cons_self ..)
        have hnone := List.find?_eq_none.mp hfind row ((mem_existingRows row).mpr ⟨hrow, hp⟩)
        exact absurd (decide_eq_true hid) hnone
      | some existing =>
        dsimp only
        cases hsource : existing.source with
        | manual => rfl
        | discovered =>
          have hid : existing.modelIdentifier = item.modelIdentifier := by
            simpa using List.find?_some hfind
          obtain ⟨hmem, hp⟩ := (mem_existingRows existing).mp (List.mem_of_find?_eq_some hfind)
          have hsame := hcurrent item (List.mem_cons_self ..) existing hmem ⟨hp, hsource⟩ hid
          dsimp only
          rw [hsame]
          rfl
    rw [List.foldlM_cons, hstep, List.length_cons]
    have hrest := ih (n + 1) (fun other h => hpresent other (List.mem_cons_of_mem _ h))
      (fun other h => hcurrent other (List.mem_cons_of_mem _ h))
    have hcount : n + 1 + rest.length = n + (rest.length + 1) := by omega
    rw [hcount] at hrest
    exact hrest

omit [DecidableEq ν] in
theorem retireAll_settled (seen : List JsString) (table : ModelsTable ν) (rows : List (ModelRow ν))
    (n : ℕ) (h : ∀ row ∈ rows, row.source = .discovered → row.modelIdentifier ∉ seen →
      row.enabled = false) :
    ∃ m, rows.foldl (retire now seen) (table, ⟨0, 0, n, 0⟩) = (table, ⟨0, 0, m, 0⟩) := by
  induction rows generalizing n with
  | nil => exact ⟨n, rfl⟩
  | cons row rest ih =>
    have hrest := fun k => ih k fun other hother => h other (List.mem_cons_of_mem _ hother)
    have hstep : ∃ k, retire now seen (table, ⟨0, 0, n, 0⟩) row = (table, ⟨0, 0, k, 0⟩) := by
      unfold retire
      dsimp only
      by_cases hseen : row.modelIdentifier ∈ seen
      · exact ⟨n, if_pos hseen⟩
      · rw [if_neg hseen]
        cases hsource : row.source with
        | manual => exact ⟨n + 1, rfl⟩
        | discovered =>
          rw [h row (List.mem_cons_self ..) hsource hseen]
          exact ⟨n + 1, rfl⟩
    obtain ⟨k, hk⟩ := hstep
    rw [List.foldl_cons, hk]
    exact hrest k

theorem reconcile_settled (ids : IdSource) (table : ModelsTable ν)
    (upstream : List (UpstreamModel ν))
    (h : Settled providerId (deduplicate [] upstream) table) :
    ∃ n, reconcile ids now providerId table upstream = some (table, ⟨0, 0, n, 0⟩) := by
  have hfirst := reconcileItems_settled now providerId ids table (deduplicate [] upstream) 0
    h.present h.current
  obtain ⟨m, hlast⟩ := retireAll_settled now
    ((deduplicate [] upstream).map (·.modelIdentifier)) table (existingRows table providerId)
    (0 + (deduplicate [] upstream).length) fun row hrow hsource hseen => by
      obtain ⟨hmem, hp⟩ := (mem_existingRows row).mp hrow
      exact h.retired row hmem ⟨hp, hsource⟩ hseen
  refine ⟨m, ?_⟩
  unfold reconcile
  change (List.foldlM (reconcileItem ids now providerId (existingRows table providerId))
    (table, ⟨0, 0, 0, 0⟩) (deduplicate [] upstream)).bind _ = _
  rw [hfirst]
  exact congrArg some hlast

theorem unchanged_iff (row : ModelRow ν) (item : UpstreamModel ν) :
    hasChanged row item = false ↔ row.displayName = item.displayName ∧
      row.contextWindow = item.contextWindow ∧ row.defaultTemperature = item.defaultTemperature ∧
      row.defaultMaxTokens = item.defaultMaxTokens ∧ row.enabled = true := by
  unfold hasChanged
  rw [decide_eq_false_iff_not]
  simp only [not_or, not_not]

def UpToDate (items : List (UpstreamModel ν)) (row : ModelRow ν) : Prop :=
  (∃ item ∈ items, row.modelIdentifier = item.modelIdentifier ∧ hasChanged row item = false) ∨
    row.modelIdentifier ∉ items.map (·.modelIdentifier) ∧ row.enabled = false

theorem retireRow_upToDate (items : List (UpstreamModel ν))
    (hitems : (items.map (·.modelIdentifier)).Nodup) (hunicode : ∀ item ∈ items, Unicode item)
    (before : ModelRow ν) (hm : Managed providerId before) :
    UpToDate items (retireRow now providerId (items.map (·.modelIdentifier))
      (settle now providerId items before)) := by
  have hkey := ((key_eq _ _).mp (settle_same now providerId items before).key).2
  by_cases hlisted : before.modelIdentifier ∈ items.map (·.modelIdentifier)
  · obtain ⟨item, hitem, hid⟩ := List.mem_map.mp hlisted
    have hkept : retireRow now providerId (items.map (·.modelIdentifier))
        (settle now providerId items before) = settle now providerId items before :=
      if_neg fun hc => hc.2.1 (hkey ▸ hlisted)
    rw [hkept]
    exact .inl ⟨item, hitem, hkey.trans hid.symm,
      settle_unchanged now providerId items hitems hunicode before hm item hitem hid.symm⟩
  · rw [settle_other now providerId items before hlisted]
    unfold retireRow
    split_ifs with hc
    · exact .inr ⟨hlisted, rfl⟩
    · refine .inr ⟨hlisted, Bool.eq_false_iff.mpr fun hon => hc ⟨hm, hlisted, hon⟩⟩

/-- After a run the rows of the provider are up to date, and no listed model is without one. -/
theorem reconcile_leaves (ids : IdSource) (start : ModelsTable ν) (upstream items : List (UpstreamModel ν))
    (hitems : items = deduplicate [] upstream) (hunicode : ∀ item ∈ items, Unicode item) :
    ∃ after counts, reconcile ids now providerId start upstream = some (after, counts) ∧
      start.rows.map (·.id) <+: after.rows.map (·.id) ∧
      (∀ row : ModelRow ν, ¬Managed providerId row → (row ∈ after.rows ↔ row ∈ start.rows)) ∧
      (∀ row ∈ after.rows, Managed providerId row → UpToDate items row) ∧
      (∀ item ∈ items, ∃ row ∈ after.rows, row.providerId = providerId ∧
        row.modelIdentifier = item.modelIdentifier) ∧
      total counts = (existingRows after providerId).length := by
  have hnodup : (items.map (·.modelIdentifier)).Nodup := hitems ▸ deduplicate_nodup upstream []
  obtain ⟨created, after, counts, hrun, hafter, hcreated, hids, htotal⟩ :=
    reconcile_rows now providerId ids start upstream items hitems hunicode
  have hsame : ∀ before : ModelRow ν, SameModel before (retireRow now providerId
      (items.map (·.modelIdentifier)) (settle now providerId items before)) := fun before =>
    (settle_same now providerId items before).trans (retireRow_same now providerId _ _)
  have hmem : ∀ row, row ∈ after.rows ↔ (∃ before ∈ start.rows, retireRow now providerId
      (items.map (·.modelIdentifier)) (settle now providerId items before) = row) ∨
        row ∈ created := by
    intro row
    rw [hafter, List.mem_append, List.map_map, List.mem_map]
    rfl
  have hstays : ∀ before : ModelRow ν, ¬Managed providerId before → retireRow now providerId
      (items.map (·.modelIdentifier)) (settle now providerId items before) = before := by
    intro before hm
    rw [settle_unmanaged now providerId items before hm]
    exact if_neg fun hc => hm hc.1
  refine ⟨after, counts, hrun, ?_, fun row hm => ?_, fun row hrow hm => ?_, fun item hitem => ?_,
    htotal⟩
  · rw [hafter, List.map_append, List.map_map, List.map_map]
    refine ⟨created.map (·.id), congrArg (· ++ _) ?_⟩
    exact List.map_congr_left fun row _ => (hsame row).id.symm
  · rw [hmem]
    constructor
    · rintro (⟨before, hbefore, rfl⟩ | hrow)
      · rwa [hstays before fun hb => hm ((hsame before).managed.mpr hb)]
      · obtain ⟨item, -, hc⟩ := hcreated row hrow
        exact absurd hc.managed hm
    · exact fun hrow => .inl ⟨row, hrow, hstays row hm⟩
  · rcases (hmem row).mp hrow with ⟨before, -, rfl⟩ | hrow
    · exact retireRow_upToDate now providerId items hnodup hunicode before ((hsame before).managed.mp hm)
    · obtain ⟨item, hitem, hc⟩ := hcreated row hrow
      exact .inl ⟨item, hitem, hc.modelIdentifier, hc.unchanged⟩
  · by_cases hknown : item.modelIdentifier ∈
        (existingRows start providerId).map (·.modelIdentifier)
    · obtain ⟨before, hbefore, hid⟩ := List.mem_map.mp hknown
      obtain ⟨hbefore, hp⟩ := (mem_existingRows before).mp hbefore
      obtain ⟨hkp, hki⟩ := (key_eq _ _).mp (hsame before).key
      exact ⟨_, (hmem _).mpr (.inl ⟨before, hbefore, rfl⟩), hkp.trans hp, hki.trans hid⟩
    · have hin : item.modelIdentifier ∈ created.map (·.modelIdentifier) := by
        rw [hids]
        exact List.mem_filter.mpr ⟨List.mem_map_of_mem hitem, decide_eq_true hknown⟩
      obtain ⟨row, hrow, hid⟩ := List.mem_map.mp hin
      obtain ⟨_, -, hc⟩ := hcreated row hrow
      exact ⟨row, (hmem row).mpr (.inr hrow), hc.managed.provider, hid⟩

end Settling

omit [DecidableEq ν] in
theorem deduplicate_sublist (items : List (UpstreamModel ν)) (seen : List JsString) :
    (deduplicate seen items).Sublist items := by
  induction items generalizing seen with
  | nil => exact List.Sublist.refl _
  | cons item rest ih =>
    unfold deduplicate
    split_ifs
    · exact (ih seen).cons item
    · exact (ih _).cons_cons item

omit [DecidableEq ν] in
theorem deduplicate_find (items : List (UpstreamModel ν)) (seen : List JsString)
    (identifier : JsString) (h : identifier ∉ seen) :
    (deduplicate seen items).find? (fun item => item.modelIdentifier = identifier) =
      items.find? (fun item => item.modelIdentifier = identifier) := by
  induction items generalizing seen with
  | nil => rfl
  | cons item rest ih =>
    unfold deduplicate
    by_cases hid : item.modelIdentifier = identifier
    · rw [if_neg (hid ▸ h), List.find?_cons, List.find?_cons, decide_eq_true hid]
    · rw [List.find?_cons, decide_eq_false hid]
      split_ifs
      · exact ih seen h
      · rw [List.find?_cons, decide_eq_false hid]
        refine ih _ fun hmem => ?_
        exact (List.mem_cons.mp hmem).elim (fun heq => hid heq.symm) h

structure Reconciled (providerId : JsString) (upstream : List (UpstreamModel ν))
    (before after : ModelsTable ν) (counts : Counts) : Prop where
  kept : before.rows.map (·.id) <+: after.rows.map (·.id)
  untouched : ∀ row : ModelRow ν, row.source = .manual ∨ row.providerId ≠ providerId →
    (row ∈ after.rows ↔ row ∈ before.rows)
  unique : ((after.rows.filter (·.providerId = providerId)).map (·.modelIdentifier)).Nodup
  enabled : ∀ identifier, (∃ row ∈ after.rows, row.providerId = providerId ∧
      row.source = .discovered ∧ row.enabled = true ∧ row.modelIdentifier = identifier) ↔
    identifier ∈ upstream.map (·.modelIdentifier) ∧ ¬∃ row ∈ after.rows,
      row.providerId = providerId ∧ row.source = .manual ∧ row.modelIdentifier = identifier
  metadata : ∀ row ∈ after.rows, row.providerId = providerId → row.source = .discovered →
    row.enabled = true → ∃ item,
      upstream.find? (fun item => item.modelIdentifier = row.modelIdentifier) = some item ∧
        row.displayName = item.displayName ∧ row.contextWindow = item.contextWindow ∧
        row.defaultTemperature = item.defaultTemperature ∧
        row.defaultMaxTokens = item.defaultMaxTokens
  counted : counts.added + counts.updated + counts.unchanged + counts.disabled =
    (after.rows.filter (·.providerId = providerId)).length

theorem settled_of_leaves (providerId : JsString) (items : List (UpstreamModel ν))
    (hitems : (items.map (·.modelIdentifier)).Nodup) (after : ModelsTable ν)
    (hdate : ∀ row ∈ after.rows, Managed providerId row → UpToDate items row)
    (hpresent : ∀ item ∈ items, ∃ row ∈ after.rows, row.providerId = providerId ∧
      row.modelIdentifier = item.modelIdentifier) : Settled providerId items after := by
  refine ⟨hpresent, fun item hitem row hrow hm hid => ?_, fun row hrow hm hunlisted => ?_⟩
  · rcases hdate row hrow hm with ⟨other, hother, hid', hsame⟩ | ⟨hunlisted, -⟩
    · obtain rfl := List.inj_on_of_nodup_map hitems hitem hother (hid.symm.trans hid')
      exact hsame
    · exact absurd (hid ▸ List.mem_map_of_mem hitem) hunlisted
  · rcases hdate row hrow hm with ⟨item, hitem, hid, -⟩ | ⟨-, hoff⟩
    · exact absurd (hid ▸ List.mem_map_of_mem hitem) hunlisted
    · exact hoff

theorem reconciled_of_leaves (providerId : JsString) (upstream : List (UpstreamModel ν))
    (before after : ModelsTable ν) (counts : Counts)
    (hkept : before.rows.map (·.id) <+: after.rows.map (·.id))
    (huntouched : ∀ row : ModelRow ν, ¬Managed providerId row →
      (row ∈ after.rows ↔ row ∈ before.rows))
    (hdate : ∀ row ∈ after.rows, Managed providerId row → UpToDate (deduplicate [] upstream) row)
    (hpresent : ∀ item ∈ deduplicate [] upstream, ∃ row ∈ after.rows,
      row.providerId = providerId ∧ row.modelIdentifier = item.modelIdentifier)
    (hcounted : total counts = (existingRows after providerId).length) :
    Reconciled providerId upstream before after counts := by
  have hnodup := deduplicate_nodup upstream []
  have hsettled := settled_of_leaves providerId _ hnodup after hdate hpresent
  have hlisted : ∀ identifier, identifier ∈ (deduplicate [] upstream).map (·.modelIdentifier) ↔
      identifier ∈ upstream.map (·.modelIdentifier) := fun identifier => by
    rw [deduplicate_mem]
    exact and_iff_left List.not_mem_nil
  refine ⟨hkept, fun row hrow => huntouched row fun hm => ?_, existingRows_nodup after providerId,
    fun identifier => ⟨?_, ?_⟩, fun row hrow hp hsource hon => ?_, hcounted⟩
  · rcases hrow with hmanual | hother
    · exact absurd (hm.source.symm.trans hmanual) (by decide)
    · exact hother hm.provider
  · rintro ⟨row, hrow, hp, hsource, hon, rfl⟩
    refine ⟨?_, ?_⟩
    · rw [← hlisted]
      by_contra hunlisted
      have hoff := hsettled.retired row hrow ⟨hp, hsource⟩ hunlisted
      rw [hon] at hoff
      cases hoff
    · rintro ⟨other, hother, hpo, hmanual, hid⟩
      obtain rfl := same_identifier after providerId other row hother hrow hpo hp hid
      exact absurd (hsource.symm.trans hmanual) (by decide)
  · rintro ⟨hin, hmanual⟩
    obtain ⟨item, hitem, hid⟩ := List.mem_map.mp ((hlisted identifier).mpr hin)
    obtain ⟨row, hrow, hp, hrid⟩ := hpresent item hitem
    have hsource : row.source = .discovered := by
      cases hs : row.source with
      | discovered => rfl
      | manual => exact absurd ⟨row, hrow, hp, hs, hrid.trans hid⟩ hmanual
    have hcurrent := (unchanged_iff row item).mp (hsettled.current item hitem row hrow ⟨hp, hsource⟩ hrid)
    exact ⟨row, hrow, hp, hsource, hcurrent.2.2.2.2, hrid.trans hid⟩
  · rcases hdate row hrow ⟨hp, hsource⟩ with ⟨item, hitem, hid, hsame⟩ | ⟨-, hoff⟩
    · have hcurrent := (unchanged_iff row item).mp hsame
      refine ⟨item, ?_, hcurrent.1, hcurrent.2.1, hcurrent.2.2.1, hcurrent.2.2.2.1⟩
      rw [← deduplicate_find upstream [] row.modelIdentifier List.not_mem_nil]
      cases hfind : (deduplicate [] upstream).find? fun item =>
        decide (item.modelIdentifier = row.modelIdentifier) with
      | none => exact absurd (decide_eq_true hid.symm) (List.find?_eq_none.mp hfind item hitem)
      | some first =>
        have hfirst : first.modelIdentifier = row.modelIdentifier := by
          simpa using List.find?_some hfind
        rw [List.inj_on_of_nodup_map hnodup (List.mem_of_find?_eq_some hfind) hitem
          (hfirst.trans hid)]
    · rw [hon] at hoff
      cases hoff

section Discovering

/-- The identifier or the name is not a string with more than white space. -/
def Malformed (item : DiscoveredModel ν) : Prop :=
  ¬∃ modelIdentifier displayName, asString item.modelIdentifier = some modelIdentifier ∧
    asString item.displayName = some displayName ∧ trim modelIdentifier ≠ [] ∧ trim displayName ≠ []

omit [DecidableEq ν] in
theorem checkItem_error (providerId : JsString) (item : DiscoveredModel ν) :
    (∃ e, checkItem providerId item = .error e) ↔ Malformed item := by
  unfold checkItem Malformed
  cases asString item.modelIdentifier with
  | none => simp
  | some modelIdentifier =>
    cases asString item.displayName with
    | none => simp
    | some displayName =>
      dsimp only
      split_ifs with hblank
      · refine iff_of_true ⟨_, rfl⟩ ?_
        rintro ⟨_, _, ⟨⟩, ⟨⟩, hidentifier, hname⟩
        exact hblank.elim hidentifier hname
      · rw [not_or] at hblank
        refine iff_of_false (fun h => nomatch h) fun h => h ?_
        exact ⟨modelIdentifier, displayName, rfl, rfl, hblank.1, hblank.2⟩

/-- The strings of an item have no lone surrogates. -/
def WellFormed (item : DiscoveredModel ν) : Prop :=
  ∀ text, asString item.modelIdentifier = some text ∨ asString item.displayName = some text →
    wellFormed text = true

omit [DecidableEq ν] in
theorem checkItem_unicode (providerId : JsString) (item : DiscoveredModel ν)
    (model : UpstreamModel ν) (h : checkItem providerId item = .ok model) (hitem : WellFormed item) :
    Unicode model := by
  unfold checkItem at h
  split at h
  · rename_i modelIdentifier displayName hidentifier hname
    split_ifs at h
    obtain rfl := Except.ok.inj h
    exact ⟨(stored_eq_self _).mpr (hitem modelIdentifier (.inl hidentifier)),
      (stored_eq_self _).mpr (hitem displayName (.inr hname))⟩
  · cases h

/-- What `discover` does with the models that the adapter returns. -/
def discoverListed (ids : IdSource) (now providerId : JsString)
    (rawDiscoveredModels : List (DiscoveredModel ν)) (table : ModelsTable ν) :
    Except DiscoverError Counts × ModelsTable ν :=
  match rawDiscoveredModels.mapM (checkItem providerId) with
  | .error e => (.error e, table)
  | .ok items =>
    match reconcile ids now providerId table items with
    | none => (.error .constraint, table)
    | some (table, counts) => (.ok counts, table)

theorem discover_listed [JsNumber ν] (ids : IdSource) (now providerId : JsString) (kind : AdapterKind)
    (upstream : ℕ → Response ν) (table : ModelsTable ν)
    (rawDiscoveredModels : List (DiscoveredModel ν))
    (h : discoverModels kind upstream = .ok rawDiscoveredModels) :
    discover ids now providerId kind (.ok ()) upstream table =
      discoverListed ids now providerId rawDiscoveredModels table := by
  cases hitems : rawDiscoveredModels.mapM (checkItem providerId) with
  | error e => simp only [discover, discoverListed, h, hitems]
  | ok items =>
    cases hreconciled : reconcile ids now providerId table items with
    | none => simp only [discover, discoverListed, h, hitems, hreconciled]
    | some result => simp only [discover, discoverListed, h, hitems, hreconciled]

/-- With a malformed model nothing is written; with well-formed ones the table is reconciled, and a
second run finds nothing to do. -/
theorem discovery_laws (ids : IdSource) (now providerId : JsString)
    (rawDiscoveredModels : List (DiscoveredModel ν)) (table : ModelsTable ν) :
    ((∃ item ∈ rawDiscoveredModels, Malformed item) →
      ∃ e, discoverListed ids now providerId rawDiscoveredModels table = (.error e, table)) ∧
    ((∀ item ∈ rawDiscoveredModels, ¬Malformed item ∧ WellFormed item) → ∃ upstream after counts,
      rawDiscoveredModels.mapM (checkItem providerId) = .ok upstream ∧
      discoverListed ids now providerId rawDiscoveredModels table = (.ok counts, after) ∧
      Reconciled providerId upstream table after counts ∧
      ∀ ids' now', ∃ unchanged, discoverListed ids' now' providerId rawDiscoveredModels after =
        (.ok ⟨0, 0, unchanged, 0⟩, after)) := by
  rcases mapM_cases (checkItem providerId) rawDiscoveredModels with
    ⟨⟨e, he⟩, item, hitem, hbad⟩ | ⟨upstream, hok, hto, hfrom⟩
  · refine ⟨fun _ => ⟨e, ?_⟩, fun hall => ?_⟩
    · unfold discoverListed
      rw [he]
    · exact absurd ((checkItem_error providerId item).mp hbad) (hall item hitem).1
  · refine ⟨?_, fun hall => ?_⟩
    · rintro ⟨item, hitem, hbad⟩
      obtain ⟨e, he⟩ := (checkItem_error providerId item).mpr hbad
      obtain ⟨model, -, hmodel⟩ := hto item hitem
      cases he.symm.trans hmodel
    · have hunicode : ∀ model ∈ deduplicate [] upstream, Unicode model := by
        intro model hmodel
        obtain ⟨item, hitem, hcheck⟩ := hfrom model ((deduplicate_sublist upstream []).subset hmodel)
        exact checkItem_unicode providerId item model hcheck (hall item hitem).2
      obtain ⟨after, counts, hrun, hkept, huntouched, hdate, hpresent, htotal⟩ :=
        reconcile_leaves now providerId ids table upstream _ rfl hunicode
      have hsettled := settled_of_leaves providerId _ (deduplicate_nodup upstream []) after hdate
        hpresent
      refine ⟨upstream, after, counts, hok, ?_, reconciled_of_leaves providerId upstream table after
        counts hkept huntouched hdate hpresent htotal, fun ids' now' => ?_⟩
      · unfold discoverListed
        rw [hok]
        dsimp only
        rw [hrun]
      · obtain ⟨unchanged, hagain⟩ := reconcile_settled now' providerId ids' after upstream hsettled
        refine ⟨unchanged, ?_⟩
        unfold discoverListed
        rw [hok]
        dsimp only
        rw [hagain]

end Discovering

end Glassbeetle.DiscoveryLaws
