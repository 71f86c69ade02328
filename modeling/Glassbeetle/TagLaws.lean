import Glassbeetle.MemoryTags

set_option autoImplicit false

namespace Glassbeetle.TagLaws
open JsText JsValue JsonText CanonicalLists MemoryTags

section Trimming

theorem trim_take_ne (s : JsString) (n : ℕ) (hs : trim s = s) (hne : s ≠ []) :
    trim (s.take (n + 1)) ≠ [] := by
  intro h
  cases s with
  | nil => exact hne rfl
  | cons c rest =>
    have hc : isSpace c = false := head_trim (c :: rest) c (by rw [hs]; rfl)
    have hspace := (trim_eq_nil _).mp h c (by rw [List.take_succ_cons]; exact List.mem_cons_self)
    rw [hc] at hspace
    cases hspace

theorem mem_join_infix (c : CodeUnit) (parts : List JsString) (part : JsString) (h : part ∈ parts) :
    part <:+: [c].intercalate parts := by
  induction parts with
  | nil => cases h
  | cons first rest ih =>
    cases rest with
    | nil =>
      obtain rfl := List.mem_singleton.mp h
      simp [List.intercalate]
    | cons next rest =>
      have hjoin : [c].intercalate (first :: next :: rest) =
          first ++ (c :: [c].intercalate (next :: rest)) := by
        simp [List.intercalate]
      rw [hjoin]
      rcases List.mem_cons.mp h with rfl | hrest
      · exact (List.prefix_append _ _).isInfix
      · exact (ih hrest).trans ((List.suffix_cons c _).isInfix.trans (List.suffix_append _ _).isInfix)

theorem isInfix_of_mem_splitOn (s piece : JsString) (h : piece ∈ s.splitOn comma) : piece <:+: s := by
  have hinfix := mem_join_infix comma (s.splitOn comma) piece h
  rwa [List.intercalate_splitOn] at hinfix

end Trimming

def labels (toLowerCase : JsString → JsString) (tags : List JsString) : List JsString :=
  ((tags.map trim).filter (· ≠ [])).map fun tag => (toLowerCase tag).take maxTagLength

def Kept (toLowerCase : JsString → JsString) (tags : List JsString) (tag : JsString) : Prop :=
  tag ∈ labels toLowerCase tags ∧
    ((labels toLowerCase tags).toFinset.filter (Before (· ≤ ·) · tag)).card < maxTagsPerMemory

/-- No kept tag was cut before a blank, and whatever stands between the commas of one is kept itself
and read by SQLite as it was bound. -/
def Findable (toLowerCase : JsString → JsString) (sqlite : Sqlite) (tags : List JsString) : Prop :=
  ∀ tag, Kept toLowerCase tags tag → trim tag = tag ∧
    ∀ piece ∈ tag.splitOn comma, trim piece ≠ [] →
      ∃ other, Kept toLowerCase tags other ∧ sqlite.equals other (trim piece) = true

def keptTags (toLowerCase : JsString → JsString) (tags : List JsString) : List JsString :=
  (canonical (· ≤ ·) (tags.filterMap (normalizeTag toLowerCase))).take maxTagsPerMemory

section Writing
variable {ν : Type} (toLowerCase : JsString → JsString) (parseJson : JsString → Option (Json ν))
  (sqlite : Sqlite) (hdoc : Documented toLowerCase parseJson sqlite)

include hdoc

theorem lowered_nil : toLowerCase [] = [] :=
  hdoc.pieces (toLowerCase []) [] (hdoc.lowered []) (List.nil_infix)

theorem normalizeTag_iff (tag t : JsString) : normalizeTag toLowerCase tag = some t ↔
    trim tag ≠ [] ∧ t = (toLowerCase (trim tag)).take maxTagLength := by
  unfold normalizeTag
  dsimp only
  split_ifs with hempty
  · exact ⟨nofun, fun h => absurd (hdoc.nonempty _ hempty) h.1⟩
  · constructor
    · intro h
      refine ⟨fun hblank => hempty ?_, (Option.some.inj h).symm⟩
      rw [hblank]
      exact lowered_nil toLowerCase parseJson sqlite hdoc
    · rintro ⟨-, rfl⟩
      rfl

theorem mem_cleaned (tags : List JsString) (t : JsString) :
    t ∈ tags.filterMap (normalizeTag toLowerCase) ↔ t ∈ labels toLowerCase tags := by
  unfold labels
  simp only [List.mem_filterMap, List.mem_map, List.mem_filter, decide_eq_true_eq,
    normalizeTag_iff toLowerCase parseJson sqlite hdoc]
  constructor
  · rintro ⟨tag, htag, hne, rfl⟩
    exact ⟨trim tag, ⟨⟨tag, htag, rfl⟩, hne⟩, rfl⟩
  · rintro ⟨trimmed, ⟨⟨tag, htag, rfl⟩, hne⟩, rfl⟩
    exact ⟨tag, htag, hne, rfl⟩

theorem mem_keptTags (tags : List JsString) (t : JsString) :
    t ∈ keptTags toLowerCase tags ↔ Kept toLowerCase tags t := by
  have hsorted := canonical_sorted (· ≤ ·) (tags.filterMap (normalizeTag toLowerCase))
  have hmem : ∀ x, x ∈ canonical (· ≤ ·) (tags.filterMap (normalizeTag toLowerCase)) ↔
      x ∈ labels toLowerCase tags :=
    fun x => (mem_canonical (· ≤ ·) _ x).trans (mem_cleaned toLowerCase parseJson sqlite hdoc tags x)
  have hnodup : (canonical (· ≤ ·) (tags.filterMap (normalizeTag toLowerCase))).Nodup :=
    hsorted.imp fun h => h.2
  have hcount : ((canonical (· ≤ ·) (tags.filterMap (normalizeTag toLowerCase))).filter
      (Before (· ≤ ·) · t)).length =
        ((labels toLowerCase tags).toFinset.filter (Before (· ≤ ·) · t)).card := by
    rw [← List.toFinset_card_of_nodup (hnodup.filter _)]
    refine congrArg Finset.card (Finset.ext fun x => ?_)
    simp only [List.mem_toFinset, List.mem_filter, Finset.mem_filter, decide_eq_true_eq, hmem]
  unfold keptTags Kept
  rw [mem_take (· ≤ ·) _ hsorted, hmem, hcount]

theorem keptTags_label (tags : List JsString) (t : JsString) (h : t ∈ keptTags toLowerCase tags) :
    toLowerCase t = t ∧ t.length ≤ maxTagLength ∧ trim t ≠ [] := by
  have hcleaned := (mem_canonical (· ≤ ·) _ t).mp (List.mem_of_mem_take h)
  obtain ⟨tag, -, hnorm⟩ := List.mem_filterMap.mp hcleaned
  obtain ⟨hne, rfl⟩ := (normalizeTag_iff toLowerCase parseJson sqlite hdoc tag t).mp hnorm
  have hlowered := hdoc.lowered (trim tag)
  refine ⟨hdoc.pieces _ _ hlowered (List.take_prefix _ _).isInfix, List.length_take_le _ _, ?_⟩
  exact trim_take_ne _ 49 (hdoc.spaces _ (trim_trim tag)) fun hempty => hne (hdoc.nonempty _ hempty)

theorem normalizeTag_part (tags : List JsString) (t piece : JsString)
    (h : t ∈ keptTags toLowerCase tags) (hpiece : piece <:+: t) :
    normalizeTag toLowerCase piece = if trim piece = [] then none else some (trim piece) := by
  obtain ⟨hlower, hlength, -⟩ := keptTags_label toLowerCase parseJson sqlite hdoc tags t h
  have hfixed : toLowerCase (trim piece) = trim piece :=
    hdoc.pieces t (trim piece) hlower ((trim_isInfix piece).trans hpiece)
  have hshort : (trim piece).length ≤ maxTagLength :=
    (trim_length piece).trans (hpiece.length_le.trans hlength)
  unfold normalizeTag
  dsimp only
  rw [hfixed, List.take_of_length_le hshort]

omit hdoc in
theorem keptTags_sorted (tags : List JsString) :
    (keptTags toLowerCase tags).Pairwise (Before (· ≤ ·)) :=
  (canonical_sorted (· ≤ ·) _).sublist (List.take_sublist _ _)

theorem parse_written (kept : List JsString) :
    parseTagsOnRead parseJson (ofColumn (some (stringify kept))) = kept := by
  have hne : stringify kept ≠ [] := List.cons_ne_nil _ _
  unfold parseTagsOnRead ofColumn
  dsimp only
  rw [if_neg hne, hdoc.parsed]
  change (kept.map Json.string).filterMap (fun item => asString (some item)) = kept
  rw [List.filterMap_map]
  exact List.filterMap_some

omit hdoc in
theorem written_none (tags : List JsString) (h : keptTags toLowerCase tags = []) :
    normalizeTagsOnWrite toLowerCase (some tags) = none := by
  have hempty : tags.filterMap (normalizeTag toLowerCase) = [] := by
    refine List.eq_nil_iff_forall_not_mem.mpr fun t ht => ?_
    have hin := (mem_canonical (· ≤ ·) _ t).mpr ht
    unfold keptTags at h
    rcases List.take_eq_nil_iff.mp h with hzero | hnil
    · cases hzero
    · rw [hnil] at hin
      cases hin
  exact if_pos hempty

omit hdoc in
theorem written_some (tags : List JsString) (h : keptTags toLowerCase tags ≠ []) :
    normalizeTagsOnWrite toLowerCase (some tags) = some (stringify (keptTags toLowerCase tags)) := by
  refine if_neg fun hempty => h ?_
  unfold keptTags
  rw [hempty]
  rfl

theorem parse_kept (tags : List JsString) :
    parseTagsOnRead parseJson (ofColumn (normalizeTagsOnWrite toLowerCase (some tags))) =
      keptTags toLowerCase tags := by
  by_cases h : keptTags toLowerCase tags = []
  · rw [written_none toLowerCase tags h, h]
    rfl
  · rw [written_some toLowerCase tags h, parse_written toLowerCase parseJson sqlite hdoc]

theorem keptTags_again (tags : List JsString) :
    keptTags toLowerCase (keptTags toLowerCase tags) =
      (canonical (· ≤ ·) ((keptTags toLowerCase tags).map trim)).take maxTagsPerMemory := by
  have hnorm : (keptTags toLowerCase tags).filterMap (normalizeTag toLowerCase) =
      (keptTags toLowerCase tags).map trim := by
    rw [← List.filterMap_eq_map]
    refine List.filterMap_congr fun t ht => ?_
    have hne := (keptTags_label toLowerCase parseJson sqlite hdoc tags t ht).2.2
    rw [normalizeTag_part toLowerCase parseJson sqlite hdoc tags t t ht (List.infix_refl t),
      if_neg hne]
    rfl
  rw [keptTags, hnorm]

/-- Writing again what was read back changes nothing exactly if no kept tag can be trimmed. -/
theorem again_iff (tags : List JsString) :
    normalizeTagsOnWrite toLowerCase (some (keptTags toLowerCase tags)) =
        normalizeTagsOnWrite toLowerCase (some tags) ↔
      ∀ t ∈ keptTags toLowerCase tags, trim t = t := by
  have hagain := keptTags_again toLowerCase parseJson sqlite hdoc tags
  constructor
  · intro h t ht
    have hne : keptTags toLowerCase tags ≠ [] := List.ne_nil_of_mem ht
    have hsame : keptTags toLowerCase (keptTags toLowerCase tags) = keptTags toLowerCase tags := by
      rw [← parse_kept toLowerCase parseJson sqlite hdoc (keptTags toLowerCase tags), h,
        parse_kept toLowerCase parseJson sqlite hdoc tags]
    rw [← hsame, hagain] at ht
    obtain ⟨u, -, rfl⟩ := List.mem_map.mp ((mem_canonical (· ≤ ·) _ t).mp (List.mem_of_mem_take ht))
    exact trim_trim u
  · intro h
    have htrimmed : (keptTags toLowerCase tags).map trim = keptTags toLowerCase tags :=
      (List.map_congr_left h).trans (List.map_id _)
    have hsame : keptTags toLowerCase (keptTags toLowerCase tags) = keptTags toLowerCase tags := by
      rw [hagain, htrimmed, canonical_of_sorted (· ≤ ·) _ (keptTags_sorted toLowerCase tags)]
      exact List.take_of_length_le (List.length_take_le _ _)
    by_cases hempty : keptTags toLowerCase tags = []
    · rw [written_none toLowerCase tags hempty, written_none toLowerCase _ (hsame.trans hempty)]
    · rw [written_some toLowerCase tags hempty, written_some toLowerCase _ (by rwa [hsame]), hsame]

end Writing

section Listing
variable {ν : Type} (toLowerCase : JsString → JsString) (parseJson : JsString → Option (Json ν))
  (sqlite : Sqlite) (hdoc : Documented toLowerCase parseJson sqlite)

/-- The query asks for this tag and for nothing else. -/
def AsksFor (query : ListMemoriesQuery) (tag : JsString) : Prop :=
  (query.tags.orElse fun _ => query.tag) = some tag ∧ query.content = none ∧ query.search = none

/-- Every listing by this tag has the memory, in either mode. -/
def Found (row : MemoryRow) (tag : JsString) : Prop :=
  ∀ memories, row ∈ memories → ∀ query, AsksFor query tag →
    row ∈ sharedMemories toLowerCase sqlite memories query ∧
      ∀ agentId, row.agentId = some agentId →
        row ∈ agentMemories toLowerCase sqlite memories agentId query

include hdoc

theorem mem_params (tags : List JsString) (t p : JsString) (h : t ∈ keptTags toLowerCase tags) :
    p ∈ parseTagFilterInput toLowerCase (.text t) ↔
      ∃ piece ∈ t.splitOn comma, trim piece ≠ [] ∧ trim piece = p := by
  unfold parseTagFilterInput
  rw [List.mem_eraseDups, List.mem_filterMap]
  refine exists_congr fun piece => and_congr_right fun hpiece => ?_
  rw [normalizeTag_part toLowerCase parseJson sqlite hdoc tags t piece h (isInfix_of_mem_splitOn t piece hpiece)]
  split_ifs with hblank
  · exact ⟨nofun, fun hp => absurd hblank hp.1⟩
  · exact ⟨fun hp => ⟨hblank, Option.some.inj hp⟩, fun hp => congrArg some hp.2⟩

theorem condition_iff (tags : List JsString) (t : JsString) (h : t ∈ keptTags toLowerCase tags)
    (row : MemoryRow) (hrow : row.tags = normalizeTagsOnWrite toLowerCase (some tags)) :
    (∀ query, AsksFor query t → tagCondition toLowerCase sqlite query row = true) ↔
      ∀ piece ∈ t.splitOn comma, trim piece ≠ [] →
        ∃ other ∈ keptTags toLowerCase tags, sqlite.equals other (trim piece) = true := by
  have hne := (keptTags_label toLowerCase parseJson sqlite hdoc tags t h).2.2
  rw [written_some toLowerCase tags (List.ne_nil_of_mem h)] at hrow
  have hmem := fun p => mem_params toLowerCase parseJson sqlite hdoc tags t p h
  have hcondition : ∀ query, AsksFor query t → (tagCondition toLowerCase sqlite query row = true ↔
      parseTagFilterInput toLowerCase (.text t) = [] ∨
        TagFilterPredicate.holds sqlite ⟨query.tagMode.getD .all, parseTagFilterInput toLowerCase (.text t)⟩
          row.tags = true) := by
    rintro query ⟨hquery, -, -⟩
    unfold tagCondition buildTagFilterPredicate
    rw [hquery]
    dsimp only
    rw [if_neg hne]
    split_ifs with hempty
    · exact ⟨fun _ => .inl hempty, fun _ => rfl⟩
    · exact ⟨.inr, fun hor => hor.resolve_left hempty⟩
  have hall : TagFilterPredicate.holds sqlite ⟨.all, parseTagFilterInput toLowerCase (.text t)⟩
      row.tags = true ↔ ∀ p ∈ parseTagFilterInput toLowerCase (.text t),
        ∃ other ∈ keptTags toLowerCase tags, sqlite.equals other p = true := by
    unfold TagFilterPredicate.holds
    rw [hrow]
    simp only [hdoc.valid, hdoc.each, Bool.true_and, List.all_eq_true, List.any_eq_true]
  have hany : TagFilterPredicate.holds sqlite ⟨.any, parseTagFilterInput toLowerCase (.text t)⟩
      row.tags = true ↔ ∃ other ∈ keptTags toLowerCase tags,
        ∃ p ∈ parseTagFilterInput toLowerCase (.text t), sqlite.equals other p = true := by
    unfold TagFilterPredicate.holds
    rw [hrow]
    simp only [hdoc.valid, hdoc.each, Bool.true_and, List.any_eq_true]
  constructor
  · intro hquery piece hpiece hblank
    have hp := (hmem (trim piece)).mpr ⟨piece, hpiece, hblank, rfl⟩
    have hholds := (hcondition ⟨some t, none, none, none, none⟩ ⟨rfl, rfl, rfl⟩).mp
      (hquery _ ⟨rfl, rfl, rfl⟩)
    exact hall.mp (hholds.resolve_left (List.ne_nil_of_mem hp)) (trim piece) hp
  · intro hpieces query hquery
    rw [hcondition query hquery]
    have heach : ∀ p ∈ parseTagFilterInput toLowerCase (.text t),
        ∃ other ∈ keptTags toLowerCase tags, sqlite.equals other p = true := by
      intro p hp
      obtain ⟨piece, hpiece, hblank, rfl⟩ := (hmem p).mp hp
      exact hpieces piece hpiece hblank
    by_cases hempty : parseTagFilterInput toLowerCase (.text t) = []
    · exact .inl hempty
    · refine .inr ?_
      cases query.tagMode with
      | none => exact hall.mpr heach
      | some mode =>
        cases mode with
        | all => exact hall.mpr heach
        | any =>
          obtain ⟨p, hp⟩ := List.exists_mem_of_ne_nil _ hempty
          obtain ⟨other, hother, hequals⟩ := heach p hp
          exact hany.mpr ⟨other, hother, p, hp, hequals⟩

theorem findable_of_short (tags : List JsString)
    (hshort : ∀ tag ∈ tags, (toLowerCase (trim tag)).length ≤ maxTagLength ∧
      comma ∉ toLowerCase (trim tag))
    (hequals : ∀ t, Kept toLowerCase tags t → sqlite.equals t t = true) :
    Findable toLowerCase sqlite tags := by
  intro t ht
  obtain ⟨trimmed, hin, rfl⟩ := List.mem_map.mp ht.1
  obtain ⟨tag, htag, rfl⟩ := List.mem_map.mp (List.mem_filter.mp hin).1
  obtain ⟨hlength, hcomma⟩ := hshort tag htag
  have hsame := hequals _ ht
  rw [List.take_of_length_le hlength] at ht hsame ⊢
  have htrim := hdoc.spaces _ (trim_trim tag)
  refine ⟨htrim, fun piece hpiece _ => ⟨toLowerCase (trim tag), ht, ?_⟩⟩
  rw [List.splitOn_eq_singleton hcomma] at hpiece
  rw [List.mem_singleton.mp hpiece, htrim]
  exact hsame

omit hdoc in
theorem found_iff (row : MemoryRow) (tag : JsString) : Found toLowerCase sqlite row tag ↔
    ∀ query, AsksFor query tag → tagCondition toLowerCase sqlite query row = true := by
  constructor
  · intro h query hquery
    have hlisted := (h [row] List.mem_cons_self query hquery).1
    exact (Bool.and_eq_true_iff.mp (List.mem_filter.mp hlisted).2).1
  · intro h memories hrow query hquery
    have hcontent : contentCondition sqlite query row = true := by
      unfold contentCondition
      rw [hquery.2.1, hquery.2.2]
      rfl
    have hboth := Bool.and_eq_true_iff.mpr ⟨h query hquery, hcontent⟩
    exact ⟨List.mem_filter.mpr ⟨hrow, hboth⟩, fun agentId hagent =>
      List.mem_filter.mpr ⟨hrow, Bool.and_eq_true_iff.mpr ⟨decide_eq_true hagent, hboth⟩⟩⟩

end Listing

section Sample

def asciiLowerCase (s : JsString) : JsString := s.map foldCase

def readStrings (text : JsString) : Option (Json ℤ) :=
  (parseStrings text).map fun texts => .array (texts.map .string)

def plainSqlite : Sqlite where
  jsonValid text := (parseStrings text).isSome
  jsonEach text := (parseStrings text).getD []
  equals value param := value = param
  like content pattern := content = pattern

theorem foldCase_cases (c : CodeUnit) : (0x41 ≤ c ∧ c ≤ 0x5A ∧ foldCase c = c + 0x20) ∨ foldCase c = c := by
  unfold foldCase
  split_ifs with h
  · obtain ⟨hlower, hupper⟩ := Bool.and_eq_true_iff.mp h
    exact .inl ⟨of_decide_eq_true hlower, of_decide_eq_true hupper, rfl⟩
  · exact .inr rfl

theorem capital_cases (c : CodeUnit) (h : 0x41 ≤ c ∧ c ≤ 0x5A) :
    foldCase (c + 0x20) = c + 0x20 ∧ isSpace (c + 0x20) = isSpace c := by
  have hall : ∀ n : Fin 26, foldCase (UInt16.ofNat (0x41 + n) + 0x20) = UInt16.ofNat (0x41 + n) + 0x20 ∧
      isSpace (UInt16.ofNat (0x41 + n) + 0x20) = isSpace (UInt16.ofNat (0x41 + n)) := by
    decide
  have hlower : 0x41 ≤ c.toNat := h.1
  have hupper : c.toNat ≤ 0x5A := h.2
  have hc := hall ⟨c.toNat - 0x41, by omega⟩
  dsimp only at hc
  rwa [Nat.add_sub_cancel' hlower, UInt16.ofNat_toNat] at hc

theorem foldCase_again (c : CodeUnit) : foldCase (foldCase c) = foldCase c := by
  rcases foldCase_cases c with ⟨hlower, hupper, heq⟩ | heq
  · rw [heq, (capital_cases c ⟨hlower, hupper⟩).1]
  · rw [heq, heq]

theorem isSpace_foldCase (c : CodeUnit) : isSpace (foldCase c) = isSpace c := by
  rcases foldCase_cases c with ⟨hlower, hupper, heq⟩ | heq
  · rw [heq, (capital_cases c ⟨hlower, hupper⟩).2]
  · rw [heq]

theorem trim_map (s : JsString) : trim (s.map foldCase) = (trim s).map foldCase := by
  have hspace : isSpace ∘ foldCase = isSpace := funext isSpace_foldCase
  unfold trim trimEnd trimStart
  rw [List.dropWhile_map, hspace, ← List.map_reverse, List.dropWhile_map, hspace, ← List.map_reverse]

theorem plain_documented : Documented asciiLowerCase readStrings plainSqlite where
  lowered s := by
    unfold asciiLowerCase
    rw [List.map_map]
    exact List.map_congr_left fun c _ => foldCase_again c
  pieces s piece hs hpiece := by
    have hfixed : ∀ c ∈ s, foldCase c = id c := List.map_inj_left.mp (hs.trans (List.map_id s).symm)
    exact (List.map_congr_left fun c hc => hfixed c (hpiece.subset hc)).trans (List.map_id piece)
  spaces s hs := by
    unfold asciiLowerCase
    rw [trim_map, hs]
  nonempty s hs := List.map_eq_nil_iff.mp hs
  parsed texts := by
    unfold readStrings
    rw [parseStrings_stringify]
    rfl
  valid texts := by
    unfold plainSqlite
    dsimp only
    rw [parseStrings_stringify]
    rfl
  each texts := by
    unfold plainSqlite
    dsimp only
    rw [parseStrings_stringify]
    rfl

/-- A memory of nobody's with the tag `a,b`. -/
def commaMemory : MemoryRow :=
  ⟨js "m", none, js "text", some (js "[\"a,b\"]"), js "2025-01-01T00:00:00.000Z",
    js "2025-01-01T00:00:00.000Z"⟩

def longTag : JsString := List.replicate 49 0x78 ++ js " y"

end Sample

/-- What is written depends on the set of tags alone and is canonical; it is written again unchanged
and each of its tags finds its memory exactly if its tags are findable. -/
theorem tags_canonical {ν : Type} (toLowerCase : JsString → JsString)
    (parseJson : JsString → Option (Json ν)) (sqlite : Sqlite)
    (hdoc : Documented toLowerCase parseJson sqlite) (tags : List JsString) :
    (∀ other, (∀ t, t ∈ other ↔ t ∈ tags) →
      normalizeTagsOnWrite toLowerCase (some other) = normalizeTagsOnWrite toLowerCase (some tags)) ∧
    (∀ text, normalizeTagsOnWrite toLowerCase (some tags) = some text →
      ∃ kept : List JsString, text = stringify kept ∧ 1 ≤ kept.length ∧ kept.length ≤ 50 ∧
        kept.Pairwise (fun a b => a ≤ b ∧ a ≠ b) ∧ ∀ t ∈ kept, trim t ≠ []) ∧
    ((normalizeTagsOnWrite toLowerCase (some (parseTagsOnRead parseJson
          (ofColumn (normalizeTagsOnWrite toLowerCase (some tags))))) =
        normalizeTagsOnWrite toLowerCase (some tags) ∧
      ∀ row : MemoryRow, row.tags = normalizeTagsOnWrite toLowerCase (some tags) →
        ∀ tag ∈ parseTagsOnRead parseJson (ofColumn row.tags), Found toLowerCase sqlite row tag) ↔
      Findable toLowerCase sqlite tags) := by
  have hkept := mem_keptTags toLowerCase parseJson sqlite hdoc tags
  have hread := parse_kept toLowerCase parseJson sqlite hdoc tags
  refine ⟨fun other hother => ?_, fun text htext => ?_, ?_⟩
  · have hsame : keptTags toLowerCase other = keptTags toLowerCase tags :=
      congrArg (List.take maxTagsPerMemory) (canonical_ext (· ≤ ·) _ _ fun t => by
        simp only [List.mem_filterMap, hother])
    by_cases hempty : keptTags toLowerCase tags = []
    · rw [written_none toLowerCase tags hempty, written_none toLowerCase other (hsame.trans hempty)]
    · rw [written_some toLowerCase tags hempty, written_some toLowerCase other (by rwa [hsame]), hsame]
  · have hne : keptTags toLowerCase tags ≠ [] := fun hempty => by
      rw [written_none toLowerCase tags hempty] at htext
      cases htext
    rw [written_some toLowerCase tags hne] at htext
    exact ⟨keptTags toLowerCase tags, (Option.some.inj htext).symm, List.length_pos_of_ne_nil hne,
      List.length_take_le _ _, keptTags_sorted toLowerCase tags,
      fun t ht => (keptTags_label toLowerCase parseJson sqlite hdoc tags t ht).2.2⟩
  · rw [hread, again_iff toLowerCase parseJson sqlite hdoc tags]
    have hfound : ∀ row : MemoryRow, row.tags = normalizeTagsOnWrite toLowerCase (some tags) →
        ∀ t ∈ keptTags toLowerCase tags, (Found toLowerCase sqlite row t ↔
          ∀ piece ∈ t.splitOn comma, trim piece ≠ [] →
            ∃ other, Kept toLowerCase tags other ∧ sqlite.equals other (trim piece) = true) := by
      intro row hrow t ht
      rw [found_iff, condition_iff toLowerCase parseJson sqlite hdoc tags t ht row hrow]
      simp only [hkept]
    constructor
    · rintro ⟨htrimmed, hlisted⟩ t ht
      have hin := (hkept t).mpr ht
      have hlist := hlisted ⟨[], none, [], normalizeTagsOnWrite toLowerCase (some tags), [], []⟩ rfl t
      dsimp only at hlist
      rw [hread] at hlist
      exact ⟨htrimmed t hin, (hfound _ rfl t hin).mp (hlist hin)⟩
    · intro hfindable
      refine ⟨fun t ht => (hfindable t ((hkept t).mp ht)).1, fun row hrow t ht => ?_⟩
      rw [hrow, hread] at ht
      exact (hfound row hrow t ht).mpr (hfindable t ((hkept t).mp ht)).2

theorem tags_canonical_comma :
    ((normalizeTagsOnWrite asciiLowerCase (some (parseTagsOnRead readStrings
          (ofColumn (normalizeTagsOnWrite asciiLowerCase (some [js "a,b"]))))) =
        normalizeTagsOnWrite asciiLowerCase (some [js "a,b"]) ∧
      ∀ row : MemoryRow, row.tags = normalizeTagsOnWrite asciiLowerCase (some [js "a,b"]) →
        ∀ tag ∈ parseTagsOnRead readStrings (ofColumn row.tags),
          Found asciiLowerCase plainSqlite row tag) ↔
      Findable asciiLowerCase plainSqlite [js "a,b"]) :=
  (tags_canonical asciiLowerCase readStrings plainSqlite plain_documented [js "a,b"]).2.2

/-- The tag `a,b` is taken for two, and a tag cut after a blank is cut again. -/
theorem comma_tag_not_found :
    (commaMemory.tags = normalizeTagsOnWrite asciiLowerCase (some [js "a,b"]) ∧
      js "a,b" ∈ parseTagsOnRead readStrings (ofColumn commaMemory.tags) ∧
      commaMemory ∉ sharedMemories asciiLowerCase plainSqlite [commaMemory]
        ⟨some (js "a,b"), none, none, none, none⟩) ∧
    normalizeTagsOnWrite asciiLowerCase (some (parseTagsOnRead readStrings
      (ofColumn (normalizeTagsOnWrite asciiLowerCase (some [longTag]))))) ≠
        normalizeTagsOnWrite asciiLowerCase (some [longTag]) := by
  decide +kernel

end Glassbeetle.TagLaws
