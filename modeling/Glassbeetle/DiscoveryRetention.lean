import Glassbeetle.ModelDiscovery

set_option autoImplicit false

namespace Glassbeetle.DiscoveryRetention
open JsText JsValue Pagination AdapterTypes Utf8Text ModelDiscovery

section Reconciling

variable {ν : Type}

structure SameModel (before after : ModelRow ν) : Prop where
  id : after.id = before.id
  key : after.key = before.key
  source : after.source = before.source

structure Managed (providerId : JsString) (row : ModelRow ν) : Prop where
  provider : row.providerId = providerId
  source : row.source = .discovered

/-- Where reconciliation stands: `marked` holds the identifiers dealt with and whether they were
found enabled or retired. -/
structure Progressed (start : ModelsTable ν) (providerId : JsString)
    (marked : List (JsString × Bool)) (table : ModelsTable ν) : Prop where
  kept : ∀ before ∈ start.rows, ∃ after ∈ table.rows, SameModel before after
  origin : ∀ row ∈ table.rows, (∃ before ∈ start.rows, SameModel before row) ∨
    Managed providerId row ∧ (row.modelIdentifier, true) ∈ marked
  untouched : ∀ row ∈ start.rows, row.providerId = providerId →
    (∀ on, (row.modelIdentifier, on) ∉ marked) → row ∈ table.rows
  settled : ∀ row ∈ table.rows, Managed providerId row →
    ∀ on, (row.modelIdentifier, on) ∈ marked → row.enabled = on

theorem same_id (table : ModelsTable ν) (a b : ModelRow ν) (ha : a ∈ table.rows)
    (hb : b ∈ table.rows) (h : a.id = b.id) : a = b :=
  List.inj_on_of_nodup_map table.ids ha hb h

theorem same_key (table : ModelsTable ν) (a b : ModelRow ν) (ha : a ∈ table.rows)
    (hb : b ∈ table.rows) (h : a.key = b.key) : a = b :=
  List.inj_on_of_nodup_map table.keys ha hb h

theorem key_eq (a b : ModelRow ν) :
    a.key = b.key ↔ a.providerId = b.providerId ∧ a.modelIdentifier = b.modelIdentifier :=
  Prod.mk.injEq _ _ _ _ ▸ Iff.rfl

theorem SameModel.trans {row before after : ModelRow ν} (h : SameModel row before)
    (h' : SameModel before after) : SameModel row after :=
  ⟨h'.id.trans h.id, h'.key.trans h.key, h'.source.trans h.source⟩

theorem SameModel.managed {providerId : JsString} {before after : ModelRow ν}
    (h : SameModel before after) : Managed providerId after ↔ Managed providerId before := by
  have hp := ((key_eq _ _).mp h.key).1
  exact ⟨fun hm => ⟨hp ▸ hm.provider, h.source ▸ hm.source⟩,
    fun hm => ⟨hp.trans hm.provider, h.source.trans hm.source⟩⟩

theorem same_identifier (table : ModelsTable ν) (providerId : JsString) (a b : ModelRow ν)
    (ha : a ∈ table.rows) (hb : b ∈ table.rows) (hpa : a.providerId = providerId)
    (hpb : b.providerId = providerId) (h : a.modelIdentifier = b.modelIdentifier) : a = b :=
  same_key table a b ha hb ((key_eq a b).mpr ⟨hpa.trans hpb.symm, h⟩)

theorem mem_updateRow (table : ModelsTable ν) (existing : ModelRow ν)
    (change : ModelRow ν → ModelRow ν)
    (same : ∀ row, (change row).id = row.id ∧ (change row).key = row.key)
    (he : existing ∈ table.rows) (row : ModelRow ν) :
    row ∈ (updateRow table existing.id change same).rows ↔
      row = change existing ∨ row ∈ table.rows ∧ row.id ≠ existing.id := by
  change row ∈ table.rows.map _ ↔ _
  rw [List.mem_map]
  constructor
  · rintro ⟨old, hold, rfl⟩
    split_ifs with h
    · exact .inl (by rw [same_id table old existing hold he h])
    · exact .inr ⟨hold, h⟩
  · rintro (rfl | ⟨hrow, hne⟩)
    · exact ⟨existing, he, if_pos rfl⟩
    · exact ⟨row, hrow, if_neg hne⟩

theorem progressed_start (start : ModelsTable ν) (providerId : JsString) :
    Progressed start providerId [] start :=
  ⟨fun row h => ⟨row, h, rfl, rfl, rfl⟩, fun row h => .inl ⟨row, h, rfl, rfl, rfl⟩,
    fun _ h _ _ => h, by simp⟩

variable {start table : ModelsTable ν} {providerId : JsString} {marked : List (JsString × Bool)}

/-- Nothing needs writing where the rows with the identifier are as they should be. -/
theorem progressed_mark (h : Progressed start providerId marked table) (identifier : JsString)
    (on : Bool) (has : ∀ row ∈ table.rows, Managed providerId row →
      row.modelIdentifier = identifier → row.enabled = on) :
    Progressed start providerId ((identifier, on) :: marked) table := by
  refine ⟨h.kept, fun row hrow => (h.origin row hrow).imp_right fun hm =>
    ⟨hm.1, List.mem_cons_of_mem _ hm.2⟩, fun row hrow hp hn => ?_, fun row hrow hm b hb => ?_⟩
  · exact h.untouched row hrow hp fun b hb => hn b (List.mem_cons_of_mem _ hb)
  · rcases List.mem_cons.mp hb with heq | hb
    · obtain ⟨hi, rfl⟩ := Prod.mk.inj heq
      exact has row hrow hm hi
    · exact h.settled row hrow hm b hb

theorem progressed_update (h : Progressed start providerId marked table) (existing : ModelRow ν)
    (hmem : existing ∈ start.rows) (hp : existing.providerId = providerId)
    (hn : ∀ b, (existing.modelIdentifier, b) ∉ marked) (on : Bool)
    (change : ModelRow ν → ModelRow ν)
    (same : ∀ row, (change row).id = row.id ∧ (change row).key = row.key)
    (hsource : ∀ row, (change row).source = row.source)
    (hon : ∀ row, (change row).enabled = on) :
    Progressed start providerId ((existing.modelIdentifier, on) :: marked)
      (updateRow table existing.id change same) := by
  have he := h.untouched existing hmem hp hn
  have hchange : SameModel existing (change existing) :=
    ⟨(same existing).1, (same existing).2, hsource existing⟩
  refine ⟨fun before hb => ?_, fun row hrow => ?_, fun row hrow hrp hrn => ?_,
    fun row hrow hm b hb => ?_⟩
  · obtain ⟨after, hafter, hs⟩ := h.kept before hb
    by_cases hid : after.id = existing.id
    · obtain rfl := same_id table after existing hafter he hid
      exact ⟨change after, (mem_updateRow table after change same he _).mpr (.inl rfl),
        hs.trans hchange⟩
    · exact ⟨after, (mem_updateRow table existing change same he _).mpr (.inr ⟨hafter, hid⟩), hs⟩
  · rcases (mem_updateRow table existing change same he row).mp hrow with rfl | ⟨hrow, -⟩
    · exact .inl ⟨existing, hmem, hchange⟩
    · exact (h.origin row hrow).imp_right fun hm => ⟨hm.1, List.mem_cons_of_mem _ hm.2⟩
  · have hrt := h.untouched row hrow hrp fun b hb => hrn b (List.mem_cons_of_mem _ hb)
    refine (mem_updateRow table existing change same he row).mpr (.inr ⟨hrt, fun hid => ?_⟩)
    obtain rfl := same_id table row existing hrt he hid
    exact hrn on (List.mem_cons_self ..)
  · rcases (mem_updateRow table existing change same he row).mp hrow with rfl | ⟨hrow, hid⟩
    · have hi : (change existing).modelIdentifier = existing.modelIdentifier :=
        ((key_eq _ _).mp hchange.key).2
      rcases List.mem_cons.mp hb with heq | hb
      · exact (hon existing).trans (Prod.mk.inj heq).2.symm
      · exact absurd (hi ▸ hb) (hn b)
    · rcases List.mem_cons.mp hb with heq | hb
      · refine absurd ?_ hid
        rw [same_identifier table providerId row existing hrow he hm.provider hp
          (Prod.mk.inj heq).1]
      · exact h.settled row hrow hm b hb

theorem progressed_insert (h : Progressed start providerId marked table) (row : ModelRow ν)
    (hid : row.id ∉ table.rows.map (·.id)) (hm : Managed providerId row) (hon : row.enabled = true)
    (hn : ∀ b, (stored row.modelIdentifier, b) ∉ marked)
    (habsent : ∀ before ∈ start.rows, before.providerId = providerId →
      before.modelIdentifier ≠ stored row.modelIdentifier) :
    ∃ after, insertRow table row = some after ∧
      Progressed start providerId ((stored row.modelIdentifier, true) :: marked) after := by
  have hkey : ∀ other ∈ table.rows, other.providerId = providerId →
      other.modelIdentifier ≠ stored row.modelIdentifier := by
    intro other hother hp hi
    rcases h.origin other hother with ⟨before, hb, hs⟩ | ⟨-, hmark⟩
    · obtain ⟨hbp, hbi⟩ := (key_eq _ _).mp hs.key
      exact habsent before hb (hbp.symm.trans hp) (hbi.symm.trans hi)
    · exact hn true (hi ▸ hmark)
  have hfree : row.written.key ∉ table.rows.map ModelRow.key := by
    intro hmem
    obtain ⟨other, hother, heq⟩ := List.mem_map.mp hmem
    obtain ⟨hp, hi⟩ := (key_eq _ _).mp heq
    exact hkey other hother (hp.trans hm.provider) hi
  refine ⟨_, dif_pos ⟨hid, hfree⟩, ?_, ?_, ?_, ?_⟩
  · intro before hb
    obtain ⟨after, hafter, hs⟩ := h.kept before hb
    exact ⟨after, List.mem_append_left _ hafter, hs⟩
  · intro other hother
    rcases List.mem_append.mp hother with hother | hother
    · exact (h.origin other hother).imp_right fun ho => ⟨ho.1, List.mem_cons_of_mem _ ho.2⟩
    · obtain rfl := List.mem_singleton.mp hother
      exact .inr ⟨⟨hm.provider, hm.source⟩, List.mem_cons_self ..⟩
  · intro other hother hp hno
    exact List.mem_append_left _ (h.untouched other hother hp fun b hb =>
      hno b (List.mem_cons_of_mem _ hb))
  · intro other hother hmo b hb
    rcases List.mem_append.mp hother with hother | hother
    · rcases List.mem_cons.mp hb with heq | hb
      · exact absurd (Prod.mk.inj heq).1 (hkey other hother hmo.provider)
      · exact h.settled other hother hmo b hb
    · obtain rfl := List.mem_singleton.mp hother
      rcases List.mem_cons.mp hb with heq | hb
      · exact hon.trans (Prod.mk.inj heq).2.symm
      · exact absurd hb (hn b)

def existingRows (start : ModelsTable ν) (providerId : JsString) : List (ModelRow ν) :=
  start.rows.filter fun row => row.providerId = providerId

theorem mem_existingRows (row : ModelRow ν) :
    row ∈ existingRows start providerId ↔ row ∈ start.rows ∧ row.providerId = providerId := by
  rw [existingRows, List.mem_filter, decide_eq_true_iff]

def Taken (table : ModelsTable ν) (providerId identifier : JsString) : Prop :=
  ∃ row ∈ table.rows, row.providerId = providerId ∧ row.modelIdentifier = identifier

def StoredAs (listed : JsString → Prop) (identifier : JsString) : Prop :=
  ∃ sent, listed sent ∧ stored sent = identifier

/-- A listed identifier has lone surrogates, and what is stored in its place is the identifier of
another row: one that is there, or that of another listed model. -/
def Clashes (table : ModelsTable ν) (providerId : JsString) (listed : JsString → Prop) : Prop :=
  ∃ identifier, listed identifier ∧ stored identifier ≠ identifier ∧
    (Taken table providerId (stored identifier) ∨
      ∃ other, other ≠ identifier ∧ listed other ∧ stored other = stored identifier)

theorem stored_identifier (start : ModelsTable ν) (row : ModelRow ν) (hrow : row ∈ start.rows)
    (identifier : JsString) (h : row.modelIdentifier = identifier) :
    stored identifier = identifier :=
  (stored_eq_self identifier).mpr (h ▸ start.texts row hrow)

theorem reconcileItem_progressed [DecidableEq ν] (ids : IdSource) (now : JsString)
    (counts : Counts) (item : UpstreamModel ν) (h : Progressed start providerId marked table)
    (hn : ∀ b, (stored item.modelIdentifier, b) ∉ marked)
    (hclean : Taken start providerId (stored item.modelIdentifier) →
      stored item.modelIdentifier = item.modelIdentifier) :
    ∃ after counts', reconcileItem ids now providerId (existingRows start providerId)
        (table, counts) item = some (after, counts') ∧
      Progressed start providerId ((stored item.modelIdentifier, true) :: marked) after := by
  unfold reconcileItem
  simp only
  split
  · rename_i hfind
    have habsent : ∀ before ∈ start.rows, before.providerId = providerId →
        before.modelIdentifier ≠ stored item.modelIdentifier := by
      intro before hb hp hid
      have hsent := hid.trans (hclean ⟨before, hb, hp, hid⟩)
      exact List.find?_eq_none.mp hfind before ((mem_existingRows before).mpr ⟨hb, hp⟩)
        (decide_eq_true hsent)
    obtain ⟨after, hafter, hprog⟩ := progressed_insert h (newRow ids now providerId item table)
      (ids.fresh _) ⟨rfl, rfl⟩ rfl hn habsent
    exact ⟨after, _, by rw [hafter]; rfl, hprog⟩
  · rename_i existing hfind
    have hid : existing.modelIdentifier = item.modelIdentifier := by
      simpa using List.find?_some hfind
    obtain ⟨hmem, hp⟩ := (mem_existingRows existing).mp (List.mem_of_find?_eq_some hfind)
    rw [stored_identifier start existing hmem item.modelIdentifier hid] at hn ⊢
    have hne : ∀ b, (existing.modelIdentifier, b) ∉ marked := hid ▸ hn
    have he := h.untouched existing hmem hp hne
    have honly : ∀ row ∈ table.rows, Managed providerId row →
        row.modelIdentifier = item.modelIdentifier → row = existing := fun row hrow hm hi =>
      same_identifier table providerId row existing hrow he hm.provider hp (hi.trans hid.symm)
    split
    · rename_i hsource
      refine ⟨table, _, rfl, progressed_mark h _ true fun row hrow hm hi => ?_⟩
      obtain rfl := honly row hrow hm hi
      exact absurd (hm.source.symm.trans hsource) (by decide)
    · split_ifs with hchanged
      · exact ⟨_, _, rfl, hid ▸ progressed_update h existing hmem hp hne true _ _ (fun _ => rfl)
          fun _ => rfl⟩
      · refine ⟨table, _, rfl, progressed_mark h _ true fun row hrow hm hi => ?_⟩
        obtain rfl := honly row hrow hm hi
        simp only [hasChanged, decide_eq_true_eq, not_or, not_not] at hchanged
        exact hchanged.2.2.2.2

theorem retire_progressed (now : JsString) (seen : List JsString) (counts : Counts)
    (existing : ModelRow ν) (h : Progressed start providerId marked table)
    (hmem : existing ∈ existingRows start providerId) (hs : existing.modelIdentifier ∉ seen)
    (hn : ∀ b, (existing.modelIdentifier, b) ∉ marked) :
    Progressed start providerId ((existing.modelIdentifier, false) :: marked)
      (retire now seen (table, counts) existing).1 := by
  obtain ⟨hmem, hp⟩ := (mem_existingRows existing).mp hmem
  have he := h.untouched existing hmem hp hn
  have honly : ∀ row ∈ table.rows, Managed providerId row →
      row.modelIdentifier = existing.modelIdentifier → row = existing := fun row hrow hm hi =>
    same_identifier table providerId row existing hrow he hm.provider hp hi
  simp only [retire, if_neg hs]
  split
  · rename_i hsource
    refine progressed_mark h _ false fun row hrow hm hi => ?_
    obtain rfl := honly row hrow hm hi
    exact absurd (hm.source.symm.trans hsource) (by decide)
  · split_ifs with hon
    · exact progressed_update h existing hmem hp hn false
        (fun row => { row with enabled := false, updatedAt := now }) (fun _ => ⟨rfl, rfl⟩)
        (fun _ => rfl) fun _ => rfl
    · refine progressed_mark h _ false fun row hrow hm hi => ?_
      obtain rfl := honly row hrow hm hi
      exact Bool.eq_false_iff.mpr hon

theorem reconcileItems_progressed [DecidableEq ν] (ids : IdSource) (now : JsString)
    (items : List (UpstreamModel ν))
    (hitems : (items.map fun item => stored item.modelIdentifier).Nodup) (counts : Counts)
    (h : Progressed start providerId marked table)
    (hn : ∀ item ∈ items, ∀ b, (stored item.modelIdentifier, b) ∉ marked)
    (hclean : ∀ item ∈ items, Taken start providerId (stored item.modelIdentifier) →
      stored item.modelIdentifier = item.modelIdentifier) :
    ∃ after counts', items.foldlM (reconcileItem ids now providerId
        (existingRows start providerId)) (table, counts) = some (after, counts') ∧
      Progressed start providerId
        ((items.reverse.map fun item => (stored item.modelIdentifier, true)) ++ marked) after := by
  induction items generalizing table counts marked with
  | nil => exact ⟨table, counts, rfl, h⟩
  | cons item rest ih =>
    rw [List.map_cons, List.nodup_cons] at hitems
    obtain ⟨mid, counts', hstep, hmid⟩ := reconcileItem_progressed ids now counts item h
      (hn item (List.mem_cons_self ..)) (hclean item (List.mem_cons_self ..))
    have hrest : ∀ other ∈ rest, ∀ b,
        (stored other.modelIdentifier, b) ∉ (stored item.modelIdentifier, true) :: marked := by
      intro other hother b hb
      rcases List.mem_cons.mp hb with heq | hb
      · exact hitems.1 (List.mem_map.mpr ⟨other, hother, (Prod.mk.inj heq).1⟩)
      · exact hn other (List.mem_cons_of_mem _ hother) b hb
    obtain ⟨after, counts'', hrun, hafter⟩ := ih hitems.2 counts' hmid hrest
      fun other hother => hclean other (List.mem_cons_of_mem _ hother)
    refine ⟨after, counts'', ?_, ?_⟩
    · rw [List.foldlM_cons, hstep]
      exact hrun
    · simpa only [List.reverse_cons, List.map_append, List.map_cons, List.map_nil,
        List.append_assoc, List.cons_append, List.nil_append] using hafter

theorem retireRows_progressed (now : JsString) (seen : List JsString) (rows : List (ModelRow ν))
    (hrows : (rows.map (·.modelIdentifier)).Nodup)
    (hexisting : ∀ row ∈ rows, row ∈ existingRows start providerId) (counts : Counts)
    (h : Progressed start providerId marked table)
    (hn : ∀ row ∈ rows, row.modelIdentifier ∉ seen → ∀ b, (row.modelIdentifier, b) ∉ marked) :
    ∃ marked', Progressed start providerId (marked' ++ marked)
        (rows.foldl (retire now seen) (table, counts)).1 ∧
      (∀ mark ∈ marked', mark.2 = false) ∧
      ∀ row ∈ rows, row.modelIdentifier ∉ seen → (row.modelIdentifier, false) ∈ marked' := by
  induction rows generalizing table counts marked with
  | nil => exact ⟨[], h, by simp, by simp⟩
  | cons row rest ih =>
    rw [List.map_cons, List.nodup_cons] at hrows
    have hother : ∀ other ∈ rest, other.modelIdentifier ≠ row.modelIdentifier :=
      fun other ho heq => hrows.1 (List.mem_map.mpr ⟨other, ho, heq⟩)
    have hrestExisting : ∀ other ∈ rest, other ∈ existingRows start providerId :=
      fun other ho => hexisting other (List.mem_cons_of_mem _ ho)
    rw [List.foldl_cons]
    by_cases hseen : row.modelIdentifier ∈ seen
    · have hskip : retire now seen (table, counts) row = (table, counts) := by
        simp only [retire, if_pos hseen]
      rw [hskip]
      obtain ⟨marked', hprog, hoff, hmarked⟩ := ih hrows.2 hrestExisting counts h
        fun other ho => hn other (List.mem_cons_of_mem _ ho)
      refine ⟨marked', hprog, hoff, fun other ho hos => ?_⟩
      rcases List.mem_cons.mp ho with rfl | ho
      · exact absurd hseen hos
      · exact hmarked other ho hos
    · have hstep := retire_progressed now seen counts row h (hexisting row (List.mem_cons_self ..))
        hseen (hn row (List.mem_cons_self ..) hseen)
      have hrest : ∀ other ∈ rest, other.modelIdentifier ∉ seen → ∀ b,
          (other.modelIdentifier, b) ∉ (row.modelIdentifier, false) :: marked := by
        intro other ho hos b hb
        rcases List.mem_cons.mp hb with heq | hb
        · exact hother other ho (Prod.mk.inj heq).1
        · exact hn other (List.mem_cons_of_mem _ ho) hos b hb
      obtain ⟨marked', hprog, hoff, hmarked⟩ := ih hrows.2 hrestExisting
        (retire now seen (table, counts) row).2 hstep hrest
      refine ⟨marked' ++ [(row.modelIdentifier, false)], ?_, fun mark hmark => ?_,
        fun other ho hos => ?_⟩
      · rw [List.append_assoc]
        exact hprog
      · rcases List.mem_append.mp hmark with hmark | hmark
        · exact hoff mark hmark
        · rw [List.mem_singleton.mp hmark]
      · rcases List.mem_cons.mp ho with rfl | ho
        · exact List.mem_append_right _ (List.mem_singleton_self _)
        · exact List.mem_append_left _ (hmarked other ho hos)

theorem existingRows_nodup (start : ModelsTable ν) (providerId : JsString) :
    ((existingRows start providerId).map (·.modelIdentifier)).Nodup := by
  have hrows : (existingRows start providerId).Nodup := (List.Nodup.of_map _ start.keys).filter _
  refine (List.nodup_map_iff_inj_on hrows).mpr fun a ha b hb heq => ?_
  obtain ⟨ha, hpa⟩ := (mem_existingRows a).mp ha
  obtain ⟨hb, hpb⟩ := (mem_existingRows b).mp hb
  exact same_identifier start providerId a b ha hb hpa hpb heq

theorem deduplicate_mem (items : List (UpstreamModel ν)) (seen : List JsString)
    (identifier : JsString) :
    identifier ∈ (deduplicate seen items).map (·.modelIdentifier) ↔
      identifier ∈ items.map (·.modelIdentifier) ∧ identifier ∉ seen := by
  induction items generalizing seen with
  | nil => simp [deduplicate]
  | cons item rest ih =>
    unfold deduplicate
    split_ifs with h
    · rw [ih]
      refine and_congr_left fun hns => ?_
      rw [List.map_cons, List.mem_cons]
      refine (or_iff_right ?_).symm
      rintro rfl
      exact hns h
    · rw [List.map_cons, List.mem_cons, ih, List.map_cons, List.mem_cons, List.mem_cons]
      by_cases he : identifier = item.modelIdentifier
      · subst he
        simp [h]
      · simp [he]

theorem deduplicate_nodup (items : List (UpstreamModel ν)) (seen : List JsString) :
    ((deduplicate seen items).map (·.modelIdentifier)).Nodup := by
  induction items generalizing seen with
  | nil => exact List.nodup_nil
  | cons item rest ih =>
    unfold deduplicate
    split_ifs with h
    · exact ih seen
    · rw [List.map_cons, List.nodup_cons, deduplicate_mem]
      exact ⟨fun hmem => hmem.2 (List.mem_cons_self ..), ih _⟩

section Clashing
variable {listed : JsString → Prop}

theorem clean_stored (h : ¬Clashes start providerId listed) (identifier : JsString)
    (hlisted : listed identifier) (htaken : Taken start providerId (stored identifier)) :
    stored identifier = identifier := by
  by_contra hother
  exact h ⟨identifier, hlisted, hother, .inl htaken⟩

theorem stored_injective (h : ¬Clashes start providerId listed) (a : JsString) (ha : listed a)
    (b : JsString) (hb : listed b) (heq : stored a = stored b) : a = b := by
  by_contra hne
  by_cases hstored : stored a = a
  · refine h ⟨b, hb, fun hb' => hne ?_, .inr ⟨a, hne, ha, heq⟩⟩
    calc
      a = stored a := hstored.symm
      _ = stored b := heq
      _ = b := hb'
  · exact h ⟨a, ha, hstored, .inr ⟨b, Ne.symm hne, hb, heq.symm⟩⟩

theorem stored_nodup (items : List (UpstreamModel ν))
    (hitems : (items.map (·.modelIdentifier)).Nodup)
    (h : ¬Clashes start providerId (· ∈ items.map (·.modelIdentifier))) :
    (items.map fun item => stored item.modelIdentifier).Nodup := by
  have hnodup := List.Nodup.map_on (stored_injective h) hitems
  rwa [List.map_map] at hnodup

end Clashing

theorem mem_marked (items : List (UpstreamModel ν)) (identifier : JsString) (on : Bool) :
    (identifier, on) ∈ (items.reverse.map fun item => (stored item.modelIdentifier, true)) ↔
      StoredAs (· ∈ items.map (·.modelIdentifier)) identifier ∧ on = true := by
  rw [List.mem_map]
  constructor
  · rintro ⟨item, hitem, heq⟩
    obtain ⟨rfl, rfl⟩ := Prod.mk.inj heq
    exact ⟨⟨_, List.mem_map_of_mem (List.mem_reverse.mp hitem), rfl⟩, rfl⟩
  · rintro ⟨⟨sent, hsent, rfl⟩, rfl⟩
    obtain ⟨item, hitem, rfl⟩ := List.mem_map.mp hsent
    exact ⟨item, List.mem_reverse.mpr hitem, rfl⟩

/-- Without a clash the transaction goes through, and the enabled rows are the listed ones. -/
theorem reconcile_enabled [DecidableEq ν] (ids : IdSource) (now providerId : JsString)
    (start : ModelsTable ν) (upstream : List (UpstreamModel ν)) (listed : JsString → Prop)
    (hlisted : ∀ identifier, listed identifier ↔ identifier ∈ upstream.map (·.modelIdentifier))
    (hclash : ¬Clashes start providerId listed) :
    ∃ after counts, reconcile ids now providerId start upstream = some (after, counts) ∧
      (∀ row ∈ after.rows, Managed providerId row →
        (row.enabled = true ↔ StoredAs listed row.modelIdentifier)) ∧
      (∀ before ∈ start.rows, ∃ row ∈ after.rows, SameModel before row) ∧
      ∀ row ∈ after.rows, (∃ before ∈ start.rows, SameModel before row) ∨
        StoredAs listed row.modelIdentifier := by
  set items := deduplicate [] upstream with hitems
  obtain rfl : listed = (· ∈ items.map (·.modelIdentifier)) := by
    funext identifier
    rw [hlisted, hitems, deduplicate_mem]
    exact propext (and_iff_left List.not_mem_nil).symm
  have hitem : ∀ item ∈ items, item.modelIdentifier ∈ items.map (·.modelIdentifier) :=
    fun item => List.mem_map_of_mem
  obtain ⟨mid, counts, hfirst, hmid⟩ := reconcileItems_progressed ids now items
    (stored_nodup items (deduplicate_nodup upstream []) hclash) ⟨0, 0, 0, 0⟩
    (progressed_start start providerId) (by simp)
    fun item h => clean_stored hclash item.modelIdentifier (hitem item h)
  rw [List.append_nil] at hmid
  -- a row that was read is listed as it is stored
  have hsent : ∀ before ∈ start.rows, before.providerId = providerId →
      StoredAs (· ∈ items.map (·.modelIdentifier)) before.modelIdentifier →
      before.modelIdentifier ∈ items.map (·.modelIdentifier) := by
    rintro before hb hp ⟨sent, hsent, heq⟩
    have hstored := clean_stored hclash sent hsent ⟨before, hb, hp, heq.symm⟩
    rw [← heq, hstored]
    exact hsent
  obtain ⟨marked', hlast, hoff, hretired⟩ := retireRows_progressed now
    (items.map (·.modelIdentifier)) (existingRows start providerId)
    (existingRows_nodup start providerId) (fun _ h => h) counts hmid
    fun row hrow hs b hb => by
      obtain ⟨hmem, hp⟩ := (mem_existingRows row).mp hrow
      exact hs (hsent row hmem hp ((mem_marked items _ _).mp hb).1)
  set marked := items.reverse.map fun item => (stored item.modelIdentifier, true)
  have hadded : ∀ identifier, (identifier, true) ∈ marked' ++ marked →
      StoredAs (· ∈ items.map (·.modelIdentifier)) identifier := fun identifier h => by
    rcases List.mem_append.mp h with h | h
    · exact absurd (hoff _ h) (by simp)
    · exact ((mem_marked items _ _).mp h).1
  refine ⟨((existingRows start providerId).foldl (retire now (items.map (·.modelIdentifier)))
    (mid, counts)).1, ((existingRows start providerId).foldl
      (retire now (items.map (·.modelIdentifier))) (mid, counts)).2, ?_, fun row hrow hm => ?_,
    hlast.kept, fun row hrow => ?_⟩
  · unfold reconcile
    simp only [← hitems]
    change (List.foldlM (reconcileItem ids now providerId (existingRows start providerId))
      (start, ⟨0, 0, 0, 0⟩) items).bind _ = _
    rw [hfirst]
    rfl
  · constructor
    · intro hon
      by_contra hout
      have hold : (row.modelIdentifier, false) ∈ marked' ++ marked := by
        rcases hlast.origin row hrow with ⟨before, hb, hs⟩ | ⟨-, hin⟩
        · obtain ⟨hp, hi⟩ := (key_eq _ _).mp hs.key
          rw [hi] at hout ⊢
          refine List.mem_append_left _ (hretired before
            ((mem_existingRows before).mpr ⟨hb, hp.symm.trans hm.provider⟩) fun h => hout ?_)
          exact ⟨_, h, stored_identifier start before hb _ rfl⟩
        · exact absurd (hadded _ hin) hout
      exact absurd (hon.symm.trans (hlast.settled row hrow hm false hold)) (by decide)
    · intro hin
      exact hlast.settled row hrow hm true
        (List.mem_append_right _ ((mem_marked items _ _).mpr ⟨hin, rfl⟩))
  · rcases hlast.origin row hrow with hold | ⟨-, hin⟩
    · exact .inl hold
    · exact .inr (hadded _ hin)

section Failing
variable [DecidableEq ν] (ids : IdSource) (now : JsString)

/-- The identifiers that the provider has no row for are inserted as they are stored. -/
theorem reconcileItem_keys (rows : List (ModelRow ν)) (counts : Counts) (item : UpstreamModel ν)
    (after : Progress ν)
    (h : reconcileItem ids now providerId rows (table, counts) item = some after) :
    after.1.rows.map ModelRow.key = table.rows.map ModelRow.key ++
      ([item].filter fun item => item.modelIdentifier ∉ rows.map (·.modelIdentifier)).map
        fun item => (providerId, stored item.modelIdentifier) := by
  unfold reconcileItem at h
  dsimp only at h
  cases hfind : rows.find? fun row => row.modelIdentifier = item.modelIdentifier with
  | none =>
    have hnew : item.modelIdentifier ∉ rows.map (·.modelIdentifier) := fun hin => by
      obtain ⟨row, hrow, hid⟩ := List.mem_map.mp hin
      exact List.find?_eq_none.mp hfind row hrow (decide_eq_true hid)
    rw [hfind] at h
    obtain ⟨inserted, hinsert, rfl⟩ := Option.map_eq_some_iff.mp h
    unfold insertRow at hinsert
    split_ifs at hinsert
    obtain rfl := Option.some.inj hinsert
    rw [List.filter_singleton, decide_eq_true hnew, List.map_append]
    rfl
  | some existing =>
    have hknown : ¬item.modelIdentifier ∉ rows.map (·.modelIdentifier) := fun hnew =>
      hnew (List.mem_map.mpr ⟨existing, List.mem_of_find?_eq_some hfind, by
        simpa using List.find?_some hfind⟩)
    rw [hfind] at h
    rw [List.filter_singleton, decide_eq_false hknown]
    refine Eq.trans ?_ (List.append_nil _).symm
    dsimp only at h
    split at h
    · obtain rfl := Option.some.inj h
      rfl
    · split_ifs at h
      · obtain rfl := Option.some.inj h
        exact map_changed _ _ _ _ fun _ => rfl
      · obtain rfl := Option.some.inj h
        rfl

theorem reconcileItems_keys (rows : List (ModelRow ν)) (counts : Counts)
    (items : List (UpstreamModel ν)) (after : Progress ν)
    (h : items.foldlM (reconcileItem ids now providerId rows) (table, counts) = some after) :
    after.1.rows.map ModelRow.key = table.rows.map ModelRow.key ++
      (items.filter fun item => item.modelIdentifier ∉ rows.map (·.modelIdentifier)).map
        fun item => (providerId, stored item.modelIdentifier) := by
  induction items generalizing table counts with
  | nil =>
    obtain rfl := Option.some.inj h
    exact (List.append_nil _).symm
  | cons item rest ih =>
    rw [List.foldlM_cons] at h
    obtain ⟨⟨mid, counts'⟩, hstep, hrest⟩ := Option.bind_eq_some_iff.mp h
    have hmid := reconcileItem_keys ids now rows counts item _ hstep
    rw [ih counts' hrest, hmid, List.append_assoc, ← List.map_append, ← List.filter_append]
    rfl

/-- The UNIQUE constraint makes the transaction fail. -/
theorem reconcile_clash (providerId : JsString) (start : ModelsTable ν)
    (upstream : List (UpstreamModel ν)) (listed : JsString → Prop)
    (hlisted : ∀ identifier, listed identifier ↔ identifier ∈ upstream.map (·.modelIdentifier))
    (h : Clashes start providerId listed) :
    reconcile ids now providerId start upstream = none := by
  obtain ⟨identifier, hin, hsent, hother⟩ := h
  set items := deduplicate [] upstream with hitems
  have hmem : ∀ sent, listed sent → ∃ item ∈ items, item.modelIdentifier = sent := by
    intro sent hsent
    refine List.mem_map.mp ?_
    rw [hitems, deduplicate_mem]
    exact ⟨(hlisted sent).mp hsent, List.not_mem_nil⟩
  set rows := existingRows start providerId with hrows
  unfold reconcile
  change ((List.foldlM (reconcileItem ids now providerId rows) (start, ⟨0, 0, 0, 0⟩) items).bind
    fun _ => _) = none
  refine Option.bind_eq_none_iff.mpr fun after hrun => ?_
  exfalso
  have hkeys := reconcileItems_keys ids now rows ⟨0, 0, 0, 0⟩ items after hrun
  have hnodup := after.1.keys
  rw [hkeys, List.nodup_append] at hnodup
  obtain ⟨-, hinserted, hdisjoint⟩ := hnodup
  obtain ⟨item, hitem, rfl⟩ := hmem identifier hin
  have hunknown : item.modelIdentifier ∉ rows.map (·.modelIdentifier) := fun hknown => by
    obtain ⟨row, hrow, hid⟩ := List.mem_map.mp hknown
    exact hsent (stored_identifier start row ((mem_existingRows row).mp hrow).1 _ hid)
  have hnew : item ∈ items.filter fun item => item.modelIdentifier ∉ rows.map (·.modelIdentifier) :=
    List.mem_filter.mpr ⟨hitem, decide_eq_true hunknown⟩
  have hfree : ¬Taken start providerId (stored item.modelIdentifier) := by
    rintro ⟨row, hrow, hp, hid⟩
    exact hdisjoint _ (List.mem_map_of_mem hrow) _ (List.mem_map_of_mem hnew)
      (Prod.ext hp hid)
  rcases hother with htaken | ⟨sent, hne, hsent', heq⟩
  · exact hfree htaken
  · obtain ⟨other, hother, rfl⟩ := hmem sent hsent'
    by_cases hknown : other.modelIdentifier ∈ rows.map (·.modelIdentifier)
    · obtain ⟨row, hrow, hid⟩ := List.mem_map.mp hknown
      obtain ⟨hrow, hp⟩ := (mem_existingRows row).mp hrow
      refine hfree ⟨row, hrow, hp, ?_⟩
      calc
        row.modelIdentifier = other.modelIdentifier := hid
        _ = stored other.modelIdentifier := (stored_identifier start row hrow _ hid).symm
        _ = stored item.modelIdentifier := heq
    · have hsame := List.inj_on_of_nodup_map hinserted
        (List.mem_filter.mpr ⟨hother, decide_eq_true hknown⟩) hnew (congrArg (providerId, ·) heq)
      exact hne (congrArg _ hsame)

end Failing

end Reconciling

section Listing

variable {ν : Type} [JsNumber ν]

def readItem : AdapterKind → Json ν → Option (DiscoveredModel ν)
  | .anthropic, item => anthropicItem item
  | .openAi, item => openAiItem item
  | .google, item => (googleItem item).toOption.join
  | .ollama, item => ollamaItem item

/-- What the provider offers, as the pages it would serve. -/
abbrev Catalogue (ν : Type) := List (List (Json ν))

/-- For Google, only what supports `generateContent`. -/
def Offered (kind : AdapterKind) (catalogue : Catalogue ν) (identifier : JsString) : Prop :=
  ∃ items ∈ catalogue, ∃ item ∈ items, ∃ model, readItem kind item = some model ∧
    asString model.modelIdentifier = some identifier

def document (kind : AdapterKind) (items : List (Json ν)) (more : Bool) : Json ν :=
  match kind with
  | .anthropic => .object [(js "data", .array items), (js "has_more", .bool more),
      (js "last_id", .string (js "last"))]
  | .openAi => .object [(js "data", .array items)]
  | .google => .object ((js "models", .array items) ::
      if more then [(js "nextPageToken", .string (js "next"))] else [])
  | .ollama => .object [(js "models", .array items)]

/-- The upstream's responses: the catalogue's pages, except where it answers something else. -/
def serve (kind : AdapterKind) (catalogue : Catalogue ν) (faults : ℕ → Option (Response ν))
    (page : ℕ) : Response ν :=
  (faults page).getD
    (.body (document kind ((catalogue[page]?).getD []) (page + 1 < catalogue.length)))

abbrev pages (kind : AdapterKind) (upstream : ℕ → Response ν) (page : ℕ) :
    Except DiscoverError (Page ν) :=
  readPage kind (upstream page)

/-- The call is refused before the table is touched: a page the adapter asks for makes it throw, or
holds an item without an identifier or a name. -/
def Refused (providerId : JsString) (kind : AdapterKind) (setup : Except DiscoverError Unit)
    (upstream : ℕ → Response ν) : Prop :=
  (∃ e, setup = .error e) ∨ ∃ page, Reached (pages kind upstream) 0 (maxPages kind) page ∧
    ((∃ e, readPage kind (upstream page) = .error e) ∨
      ∃ items more, readPage kind (upstream page) = .ok (items, more) ∧
        ∃ item ∈ items, ∃ e, checkItem providerId item = .error e)

def Listed (kind : AdapterKind) (upstream : ℕ → Response ν) (identifier : JsString) : Prop :=
  ∃ page, Reached (pages kind upstream) 0 (maxPages kind) page ∧
    ∃ items more, readPage kind (upstream page) = .ok (items, more) ∧
      ∃ item ∈ items, asString item.modelIdentifier = some identifier

omit [JsNumber ν] in
theorem checkItem_identifier (providerId : JsString) (item : DiscoveredModel ν)
    (model : UpstreamModel ν) (h : checkItem providerId item = .ok model) :
    asString item.modelIdentifier = some model.modelIdentifier := by
  unfold checkItem at h
  split at h
  · rename_i identifier displayName hi hd
    split_ifs at h
    obtain rfl := Except.ok.inj h
    exact hi
  · cases h

theorem mapM_cases {ε α β : Type} (f : α → Except ε β) (items : List α) :
    (∃ e, items.mapM f = .error e) ∧ (∃ item ∈ items, ∃ e, f item = .error e) ∨
      ∃ checked, items.mapM f = .ok checked ∧
        (∀ item ∈ items, ∃ model ∈ checked, f item = .ok model) ∧
        ∀ model ∈ checked, ∃ item ∈ items, f item = .ok model := by
  induction items with
  | nil => exact .inr ⟨[], rfl, by simp, by simp⟩
  | cons item rest ih =>
    rw [List.mapM_cons]
    cases hitem : f item with
    | error e => exact .inl ⟨⟨e, rfl⟩, item, List.mem_cons_self .., e, hitem⟩
    | ok model =>
      rcases ih with ⟨⟨e, he⟩, other, ho, e', he'⟩ | ⟨checked, hc, hto, hfrom⟩
      · exact .inl ⟨⟨e, by rw [he]; rfl⟩, other, List.mem_cons_of_mem _ ho, e', he'⟩
      · refine .inr ⟨model :: checked, by rw [hc]; rfl, ?_, ?_⟩
        · rintro other (_ | ⟨_, ho⟩)
          · exact ⟨model, List.mem_cons_self .., hitem⟩
          · obtain ⟨m, hm, he⟩ := hto other ho
            exact ⟨m, List.mem_cons_of_mem _ hm, he⟩
        · rintro m (_ | ⟨_, hm⟩)
          · exact ⟨item, List.mem_cons_self .., hitem⟩
          · obtain ⟨other, ho, he⟩ := hfrom m hm
            exact ⟨other, List.mem_cons_of_mem _ ho, he⟩

section Read
variable (providerId : JsString) (kind : AdapterKind) (upstream : ℕ → Response ν)
  (raw : List (DiscoveredModel ν)) (items : List (UpstreamModel ν))
  (hraw : discoverModels kind upstream = .ok raw)
  (hto : ∀ item ∈ raw, ∃ model ∈ items, checkItem providerId item = .ok model)
include hraw hto

theorem listed_iff (hfrom : ∀ model ∈ items, ∃ item ∈ raw, checkItem providerId item = .ok model)
    (identifier : JsString) :
    Listed kind upstream identifier ↔ identifier ∈ items.map (·.modelIdentifier) := by
  have hmem := collect_mem _ _ _ raw hraw
  rw [List.mem_map]
  constructor
  · rintro ⟨page, hr, listed, more, hp, item, hin, hid⟩
    obtain ⟨model, hmodel, hcheck⟩ := hto item ((hmem item).mpr ⟨page, hr, listed, more, hp, hin⟩)
    have hidentifier := checkItem_identifier providerId item model hcheck
    exact ⟨model, hmodel, Option.some.inj (hidentifier.symm.trans hid)⟩
  · rintro ⟨model, hmodel, rfl⟩
    obtain ⟨item, hitem, hcheck⟩ := hfrom model hmodel
    obtain ⟨page, hr, listed, more, hp, hin⟩ := (hmem item).mp hitem
    exact ⟨page, hr, listed, more, hp, item, hin, checkItem_identifier providerId item model hcheck⟩

theorem read_not_refused : ¬Refused providerId kind (.ok ()) upstream := by
  have hmem := collect_mem _ _ _ raw hraw
  rintro (⟨e, he⟩ | ⟨page, hr, hp | ⟨listed, more, hp, item, hin, e, hbad⟩⟩)
  · cases he
  · obtain ⟨e, he⟩ := (collect_error _ _ _).mpr ⟨page, hr, hp⟩
    cases hraw.symm.trans he
  · obtain ⟨model, -, hcheck⟩ := hto item ((hmem item).mpr ⟨page, hr, listed, more, hp, hin⟩)
    cases hcheck.symm.trans hbad

end Read

variable [DecidableEq ν]

/-- What a call leaves: either the refusal and the table as it was, or the enabled rows are the
listed ones. -/
theorem discover_spec (ids : IdSource) (now providerId : JsString) (kind : AdapterKind)
    (setup : Except DiscoverError Unit) (upstream : ℕ → Response ν) (table : ModelsTable ν) :
    ((Refused providerId kind setup upstream ∨ Clashes table providerId (Listed kind upstream)) ∧
      (∃ e, (discover ids now providerId kind setup upstream table).1 = .error e) ∧
      (discover ids now providerId kind setup upstream table).2 = table) ∨
    ¬Refused providerId kind setup upstream ∧ ¬Clashes table providerId (Listed kind upstream) ∧
    ∃ after counts, discover ids now providerId kind setup upstream table = (.ok counts, after) ∧
      (∀ row ∈ after.rows, Managed providerId row →
        (row.enabled = true ↔ StoredAs (Listed kind upstream) row.modelIdentifier)) ∧
      (∀ before ∈ table.rows, ∃ row ∈ after.rows, SameModel before row) ∧
      ∀ row ∈ after.rows, (∃ before ∈ table.rows, SameModel before row) ∨
        StoredAs (Listed kind upstream) row.modelIdentifier := by
  cases hsetup : setup with
  | error e => exact .inl ⟨.inl (.inl ⟨e, rfl⟩), ⟨e, rfl⟩, rfl⟩
  | ok _ =>
    unfold discover
    simp only
    cases hraw : discoverModels kind upstream with
    | error e =>
      obtain ⟨page, hr, hp⟩ := (collect_error _ _ _).mp ⟨e, hraw⟩
      exact .inl ⟨.inl (.inr ⟨page, hr, .inl hp⟩), ⟨e, rfl⟩, rfl⟩
    | ok raw =>
      simp only
      rcases mapM_cases (checkItem providerId) raw with
        ⟨⟨e, he⟩, item, hitem, hbad⟩ | ⟨items, hitems, hto, hfrom⟩
      · obtain ⟨page, hr, listed, more, hp, hin⟩ := (collect_mem _ _ _ raw hraw item).mp hitem
        rw [he]
        exact .inl ⟨.inl (.inr ⟨page, hr, .inr ⟨listed, more, hp, item, hin, hbad⟩⟩), ⟨e, rfl⟩, rfl⟩
      · have hlisted := listed_iff providerId kind upstream raw items hraw hto hfrom
        rw [hitems]
        by_cases hclash : Clashes table providerId (Listed kind upstream)
        · simp only [reconcile_clash ids now providerId table items _ hlisted hclash]
          exact .inl ⟨.inr hclash, ⟨_, rfl⟩, trivial⟩
        · obtain ⟨after, counts, hrec, hon, hkept, horigin⟩ :=
            reconcile_enabled ids now providerId table items _ hlisted hclash
          simp only [hrec]
          exact .inr ⟨read_not_refused providerId kind upstream raw items hraw hto, hclash, after,
            counts, rfl, hon, hkept, horigin⟩

/-- The call throws and leaves the table, or every offered model of the provider is enabled. -/
def Retained (ids : IdSource) (now providerId : JsString) (kind : AdapterKind)
    (setup : Except DiscoverError Unit) (catalogue : Catalogue ν)
    (faults : ℕ → Option (Response ν)) (table : ModelsTable ν) : Prop :=
  let result := discover ids now providerId kind setup (serve kind catalogue faults) table
  (∃ e, result.1 = .error e) ∧ result.2 = table ∨
    ∀ row ∈ result.2.rows, Managed providerId row → Offered kind catalogue row.modelIdentifier →
      row.enabled = true

omit [DecidableEq ν] in
theorem readPage_document (kind : AdapterKind) (items : List (Json ν)) (more : Bool) :
    (∃ e, readPage kind (.body (document kind items more)) = .error e) ∨
      ∃ listed, readPage kind (.body (document kind items more)) =
          .ok (listed, more && decide (maxPages kind ≠ 0)) ∧
        ∀ item ∈ items, ∀ model, readItem kind item = some model → model ∈ listed := by
  cases kind with
  | anthropic =>
    exact .inr ⟨items.filterMap anthropicItem, rfl, fun item hi model hm =>
      List.mem_filterMap.mpr ⟨item, hi, hm⟩⟩
  | openAi =>
    exact .inr ⟨items.filterMap openAiItem, by cases more <;> rfl, fun item hi model hm =>
      List.mem_filterMap.mpr ⟨item, hi, hm⟩⟩
  | ollama =>
    exact .inr ⟨items.filterMap ollamaItem, by cases more <;> rfl, fun item hi model hm =>
      List.mem_filterMap.mpr ⟨item, hi, hm⟩⟩
  | google =>
    have hpage : googlePage (.body (document .google items more)) =
        (typed (items.mapM googleItem)).map fun listed => (listed.filterMap id, more) := by
      cases more <;> rfl
    rcases mapM_cases googleItem items with ⟨⟨e, he⟩, -⟩ | ⟨listed, hl, hto, -⟩
    · exact .inl ⟨.type e, by rw [readPage, hpage, he]; rfl⟩
    · refine .inr ⟨listed.filterMap id, by rw [readPage, hpage, hl]; cases more <;> rfl,
        fun item hi model hm => ?_⟩
      obtain ⟨read, hread, hok⟩ := hto item hi
      refine List.mem_filterMap.mpr ⟨read, hread, ?_⟩
      simpa only [readItem, hok, Except.toOption, Option.join_some, id_eq] using hm

omit [DecidableEq ν] in
/-- Without faults and without more pages than the adapter asks for, the listing is whole. -/
theorem whole_catalogue_listed (providerId : JsString) (kind : AdapterKind)
    (setup : Except DiscoverError Unit) (catalogue : Catalogue ν)
    (hlength : catalogue.length ≤ maxPages kind + 1) (identifier : JsString)
    (hoffered : Offered kind catalogue identifier) :
    Refused providerId kind setup (serve kind catalogue fun _ => none) ∨
      Listed kind (serve kind catalogue fun _ => none) identifier := by
  set upstream := serve kind catalogue fun _ => none with hupstream
  have hpage : ∀ page, upstream page = .body (document kind ((catalogue[page]?).getD [])
      (page + 1 < catalogue.length)) := fun _ => rfl
  by_cases hbad : ∃ page, Reached (pages kind upstream) 0 (maxPages kind) page ∧
      ∃ e, readPage kind (upstream page) = .error e
  · obtain ⟨page, hr, hp⟩ := hbad
    exact .inl (.inr ⟨page, hr, .inl hp⟩)
  · right
    obtain ⟨items, hitems, item, hitem, model, hread, hid⟩ := hoffered
    obtain ⟨page, hlt, hget⟩ := List.mem_iff_getElem.mp hitems
    -- every page before it is read and says that there are more
    have hreached : ∀ n ≤ page, Reached (pages kind upstream) 0 (maxPages kind) n := by
      intro n
      induction n with
      | zero => exact fun _ => reached_first _ _ _
      | succ n ih =>
        intro hn
        have hr := ih (by omega)
        refine ⟨Nat.zero_le _, by omega, fun earlier h1 h2 => ?_⟩
        rcases Nat.lt_succ_iff_lt_or_eq.mp h2 with h2 | rfl
        · exact hr.2.2 earlier h1 h2
        · rcases readPage_document kind ((catalogue[earlier]?).getD [])
            (earlier + 1 < catalogue.length) with herr | ⟨listed, hl, -⟩
          · exact absurd ⟨earlier, hr, herr⟩ hbad
          · refine ⟨listed, hl.trans ?_⟩
            have h3 : earlier + 1 < catalogue.length := by omega
            have h4 : maxPages kind ≠ 0 := by omega
            simp [h3, h4]
    have hr := hreached page (Nat.le_refl _)
    rcases readPage_document kind ((catalogue[page]?).getD []) (page + 1 < catalogue.length) with
      herr | ⟨listed, hl, hall⟩
    · exact absurd ⟨page, hr, herr⟩ hbad
    · refine ⟨page, hr, listed, _, hl, model, hall item ?_ model hread, hid⟩
      rw [List.getElem?_eq_getElem hlt, hget]
      exact hitem

theorem discovery_retains (ids : IdSource) (now providerId : JsString) (kind : AdapterKind)
    (setup : Except DiscoverError Unit) (catalogue : Catalogue ν)
    (faults : ℕ → Option (Response ν)) (table : ModelsTable ν) :
    Retained ids now providerId kind setup catalogue faults table ↔
      Refused providerId kind setup (serve kind catalogue faults) ∨
      Clashes table providerId (Listed kind (serve kind catalogue faults)) ∨
        ∀ row ∈ table.rows, Managed providerId row → Offered kind catalogue row.modelIdentifier →
          Listed kind (serve kind catalogue faults) row.modelIdentifier := by
  rcases discover_spec ids now providerId kind setup (serve kind catalogue faults) table with
    ⟨hrefused, herror, htable⟩ | ⟨hnot, hclash, after, counts, hrun, hon, hkept, horigin⟩
  · exact iff_of_true (.inl ⟨herror, htable⟩) (hrefused.imp_right .inl)
  · simp only [Retained, hrun, reduceCtorEq, exists_false, false_and, false_or, hnot, hclash]
    constructor
    · intro h before hb hm hoffered
      obtain ⟨row, hrow, hs⟩ := hkept before hb
      obtain ⟨hp, hi⟩ := (key_eq _ _).mp hs.key
      have hmrow : Managed providerId row := hs.managed.mpr hm
      obtain ⟨sent, hsent, hstored⟩ := (hon row hrow hmrow).mp (h row hrow hmrow (hi ▸ hoffered))
      have hkeep := clean_stored hclash sent hsent
        ⟨before, hb, hm.provider, hi.symm.trans hstored.symm⟩
      rw [← hi, ← hstored, hkeep]
      exact hsent
    · intro h row hrow hm hoffered
      refine (hon row hrow hm).mpr ?_
      rcases horigin row hrow with ⟨before, hb, hs⟩ | hlisted
      · obtain ⟨hp, hi⟩ := (key_eq _ _).mp hs.key
        have hbefore := h before hb (hs.managed.mp hm) (hi ▸ hoffered)
        exact ⟨_, hbefore, (stored_identifier table before hb _ rfl).trans hi.symm⟩
      · exact hlisted

end Listing

def longer : IdSource where
  next used := 0 :: used.flatten
  fresh used h := by
    have hle := List.sublist_flatten_of_mem h |>.length_le
    rw [List.length_cons] at hle
    omega

def gpt : ModelRow ℤ where
  id := js "m"
  providerId := js "p"
  modelIdentifier := js "gpt"
  displayName := js "gpt"
  source := .discovered
  contextWindow := none
  defaultTemperature := none
  defaultMaxTokens := none
  enabled := true
  createdAt := js "t"
  updatedAt := js "t"

def models : ModelsTable ℤ where
  rows := [gpt]
  ids := List.nodup_singleton _
  keys := List.nodup_singleton _
  texts := List.forall_mem_singleton.mpr (by decide)

/-- A proxy answers 200 with an error page instead of the list that holds the model. -/
theorem unreadable_list_disables :
    ¬Retained longer (js "u") (js "p") .openAi (.ok ())
      [[.object [(js "id", .string (js "gpt"))]]] (fun _ => some .notJson)
      models := by
  have hrun : discover longer (js "u") (js "p") .openAi (.ok ())
      (serve .openAi [[.object [(js "id", .string (js "gpt"))]]] fun _ => some .notJson)
      models =
      (.ok ⟨0, 0, 0, 1⟩, disableRow models
        (js "m") (js "u")) := rfl
  rintro (⟨⟨e, he⟩, -⟩ | h)
  · rw [hrun] at he
    cases he
  · rw [hrun] at h
    have hon := h { gpt with enabled := false, updatedAt := js "u" } (List.mem_singleton_self _)
      ⟨rfl, rfl⟩ ⟨_, List.mem_singleton_self _, _, List.mem_singleton_self _, _, rfl, rfl⟩
    exact absurd hon (by decide)

end Glassbeetle.DiscoveryRetention
