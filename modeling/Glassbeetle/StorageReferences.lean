import Glassbeetle.StorageContainment

set_option autoImplicit false

namespace Glassbeetle.StorageReferences
open JsText PosixPath UriDecoding Identifiers StoragePaths StorageContainment

/-- One directory below the root, or the root itself under the name `.`. -/
structure BucketName (b : JsString) : Prop where
  nonempty : b ≠ []
  slash : slash ∉ b
  backslash : backslash ∉ b
  nul : 0 ∉ b
  up : b ≠ dotDot

theorem assertValidBucket_ok (bucket b : JsString) (h : assertValidBucket bucket = .ok b) :
    b = trim bucket ∧ BucketName b := by
  simp only [assertValidBucket] at h
  split_ifs at h with hblank hbad
  obtain rfl : trim bucket = b := by simpa using h
  rw [show js "/" = [PosixPath.slash] by decide, show js "\\" = [StoragePaths.backslash] by decide] at hbad
  simp only [Bool.or_eq_true, not_or, includes_unit] at hbad
  refine ⟨rfl, hblank, hbad.1.1.1, hbad.1.1.2, hbad.2, fun e => hbad.1.2 ?_⟩
  rw [e]
  decide

/-- A file name has no character that resolution or decoding gives a meaning to. -/
theorem fileName_units (now : ℕ) (random : Fin 10 → UInt8) (detected : DetectedContentType) :
    ∀ c ∈ newId now random ++ detected.extension,
      c ≠ slash ∧ c ≠ backslash ∧ c ≠ percent ∧ c ≠ 0 := by
  have hall : detectable.all (fun pair => pair.2.all fun c =>
      c != slash && c != backslash && c != percent && c != 0) = true := by decide +kernel
  have hext : ∀ pair ∈ detectable, ∀ c ∈ pair.2,
      c ≠ slash ∧ c ≠ backslash ∧ c ≠ percent ∧ c ≠ 0 := by
    intro pair hp c hc
    have hunit := List.all_eq_true.mp (List.all_eq_true.mp hall pair hp) c hc
    simpa only [Bool.and_eq_true, bne_iff_ne, ne_eq, and_assoc] using hunit
  intro c hc
  rcases List.mem_append.mp hc with hc | hc
  · have hu := newId_units now random c hc
    refine ⟨?_, ?_, ?_, ?_⟩ <;> (rintro rfl; revert hu; decide)
  · exact hext _ detected.known c hc

theorem fileName_plain (now : ℕ) (random : Fin 10 → UInt8) (detected : DetectedContentType) :
    Plain (newId now random ++ detected.extension) := by
  have hyphen : 0x2D ∈ newId now random := by simp [newId, formatUuid, join, js, utf16,
    List.intercalate, List.intersperse]
  have hm : 0x2D ∈ newId now random ++ detected.extension := List.mem_append_left _ hyphen
  refine ⟨List.ne_nil_of_mem hm, fun h => (fileName_units _ _ _ _ h).1 rfl, ?_, ?_⟩ <;>
    (intro e; rw [e] at hm; revert hm; decide)

def entry (b : JsString) : List JsString := if b = dot then [] else [b]

theorem step_bucket (stack : List JsString) (b : JsString) (h : b ≠ dotDot) :
    step stack b = stack ++ entry b := by
  unfold step entry
  split_ifs <;> simp_all

theorem joinPath_entry (segments : List JsString) (name : JsString) (hp : ∀ s ∈ segments, Plain s)
    (hn : name ≠ []) (hs : slash ∉ name) :
    joinPath (absolute segments) name = absolute (step segments name) := by
  rw [joinPath, components_append, components_absolute _ hp, components_single _ hn hs,
    normalise_append, normalise_plain _ _ hp]
  rfl

theorem entry_plain (b : JsString) (h : BucketName b) : ∀ s ∈ entry b, Plain s := by
  intro s hs
  unfold entry at hs
  split_ifs at hs with hd
  · cases hs
  · obtain rfl := List.mem_singleton.mp hs
    exact ⟨h.nonempty, h.slash, hd, h.up⟩

theorem bucketDir_plain (root : List JsString) (hroot : ∀ s ∈ root, Plain s) (bucket : JsString)
    (h : BucketName bucket) : ∀ s ∈ root ++ entry bucket, Plain s :=
  fun s hs => (List.mem_append.mp hs).elim (hroot s) (entry_plain bucket h s)

theorem joinPath_named (root : List JsString) (hroot : ∀ s ∈ root, Plain s) (bucket name : JsString)
    (hbucket : BucketName bucket) (hname : Plain name) :
    joinPath (joinPath (absolute root) bucket) name =
      absolute (root ++ entry bucket ++ [name]) := by
  have hdir : joinPath (absolute root) bucket = absolute (root ++ entry bucket) := by
    rw [joinPath_entry root bucket hroot hbucket.nonempty hbucket.slash,
      step_bucket root bucket hbucket.up]
  have hstep : step (root ++ entry bucket) name = root ++ entry bucket ++ [name] := by
    rw [step, if_neg hname.2.2.1, if_neg hname.2.2.2]
  rw [hdir, joinPath_entry _ name (bucketDir_plain root hroot bucket hbucket) hname.1 hname.2.1,
    hstep]

theorem write_ok (service : FileStorageService) (bucket : JsString) (size now : ℕ)
    (validated : Except FileStorageError DetectedContentType) (random : Fin 10 → UInt8)
    (stored : StoredFile) (h : write service bucket size validated now random = .ok stored) :
    BucketName (trim bucket) ∧ ∃ detected : DetectedContentType,
      stored.reference = trim bucket ++ slash :: (newId now random ++ detected.extension) ∧
      stored.targetPath = absolute (resolved service.cwd service.rootPaths ++
        (entry (trim bucket) ++ [newId now random ++ detected.extension])) := by
  unfold write at h
  cases hb : assertValidBucket bucket with
  | error e => simp [hb, bind, Except.bind] at h
  | ok b =>
    obtain ⟨rfl, name⟩ := assertValidBucket_ok bucket b hb
    cases validated with
    | error e => simp [hb, bind, Except.bind] at h
    | ok detected =>
      simp only [hb, bind, Except.bind, pure, Except.pure, Except.ok.injEq] at h
      have hslash : js "/" = [slash] := by decide
      have hroot := resolved_plain service.cwd service.rootPaths
      have file := fileName_plain now random detected
      refine ⟨name, detected, by rw [← h, hslash]; simp, ?_⟩
      rw [← h]
      change joinPath (joinPath (absolute (resolved service.cwd service.rootPaths)) _) _ = _
      rw [joinPath_named _ hroot _ _ name file, List.append_assoc]

theorem splitOnP_none (s : JsString) (h1 : slash ∉ s) (h2 : backslash ∉ s) :
    s.splitOnP isSeparator = [s] := by
  refine List.splitOnP_eq_singleton fun c hc => ?_
  simp only [isSeparator, Bool.or_eq_false_iff, beq_eq_false_iff_ne]
  exact ⟨fun e => h1 (e ▸ hc), fun e => h2 (e ▸ hc)⟩

theorem segments_file (d name : JsString) (hn : name ≠ []) (h1 : slash ∉ name)
    (h2 : backslash ∉ name) : segments (d ++ slash :: name) = segments d ++ [name] := by
  rw [segments, List.splitOnP_append_cons _ _ (by decide), splitOnP_none name h1 h2,
    List.filter_append, ← segments]
  simp [hn]

theorem segments_bucket (b : JsString) (h : BucketName b) : segments b = [b] := by
  rw [segments, splitOnP_none b h.slash h.backslash]
  simp [h.nonempty]

theorem rooted_file (b name : JsString) (h : BucketName b) :
    Rooted (b ++ slash :: name) ↔ driveLetter b = true := by
  constructor
  · rintro (⟨c, rest, he, hc⟩ | ⟨letter, rest, he, hl, hr⟩)
    · obtain ⟨x, tail, rfl⟩ := List.exists_cons_of_ne_nil h.nonempty
      obtain rfl : x = c := (List.cons.inj he).1
      simp only [isSeparator, Bool.or_eq_true, beq_iff_eq] at hc
      rcases hc with rfl | rfl
      · exact absurd List.mem_cons_self h.slash
      · exact absurd List.mem_cons_self h.backslash
    · rcases b with - | ⟨x, - | ⟨y, - | ⟨z, tail⟩⟩⟩
      · exact absurd rfl h.nonempty
      · have hcolon : slash = colon := (List.cons.inj (List.cons.inj he).2).1
        exact absurd hcolon (by decide)
      · obtain ⟨hx, he⟩ := List.cons.inj he
        obtain ⟨hy, -⟩ := List.cons.inj he
        simp [driveLetter, hx, hy, hl]
      · have hrest := (List.cons.inj (List.cons.inj he).2).2
        have hz := hr z (by rw [← hrest]; rfl)
        simp only [isSeparator, Bool.or_eq_true, beq_iff_eq] at hz
        rcases hz with rfl | rfl
        · exact absurd (by simp) h.slash
        · exact absurd (by simp) h.backslash
  · intro hd
    rcases b with - | ⟨x, - | ⟨y, - | ⟨z, tail⟩⟩⟩
    · exact absurd hd (by decide)
    · exact absurd hd (by simp [driveLetter])
    · simp only [driveLetter, Bool.and_eq_true, beq_iff_eq] at hd
      exact .inr ⟨x, slash :: name, by rw [hd.2]; rfl, hd.1, by simp [isSeparator]⟩
    · exact absurd hd (by simp [driveLetter])

/-- A bucket that decodes to something else is shorter decoded, so it is no segment of it. -/
theorem bucket_lost (root : List JsString) (b d : JsString) (hlen : d.length < b.length) :
    normalise root (segments d) ≠ root ++ [b] := by
  intro h
  have hb := below_named root [b] d h b List.mem_cons_self
  have := segment_length d b hb
  omega

/-- The reference survives the resolver's decoding and its check for drive letters. -/
def Addressable (bucket : JsString) : Prop :=
  percent ∉ trim bucket ∧ driveLetter (trim bucket) = false

instance (bucket : JsString) : Decidable (Addressable bucket) := inferInstanceAs (Decidable (_ ∧ _))

theorem written_resolves (root : List JsString) (b name : JsString) (hb : BucketName b)
    (hp : Plain name) (hu : ∀ c ∈ name, c ≠ slash ∧ c ≠ backslash ∧ c ≠ percent ∧ c ≠ 0) :
    (∃ decoded, Decodes (b ++ slash :: name) decoded ∧
        normalise root (segments decoded) = root ++ (entry b ++ [name])) ↔
      percent ∉ b ∧ driveLetter b = false := by
  have hname : percent ∉ name := fun h => (hu _ h).2.2.1 rfl
  have hfile : ∀ d, segments (d ++ slash :: name) = segments d ++ [name] := fun d =>
    segments_file d name hp.1 hp.2.1 fun h => (hu _ h).2.1 rfl
  have hstep : ∀ stack, step stack name = stack ++ [name] := fun stack => by
    rw [step, if_neg hp.2.2.1, if_neg hp.2.2.2]
  have hwalk : ∀ d, normalise root (segments (d ++ slash :: name)) =
      normalise root (segments d) ++ [name] := fun d => by
    rw [hfile, normalise_append]; exact hstep _
  constructor
  · rintro ⟨decoded, ⟨-, -, hd, -, hr⟩, he⟩
    rw [decode_append b name slash (by decide) (by decide) hname, Option.map_eq_some_iff] at hd
    obtain ⟨d, hd, rfl⟩ := hd
    rw [hwalk, ← List.append_assoc, List.append_cancel_right_eq] at he
    have hpercent : percent ∉ b := fun hm => by
      have hdot : b ≠ dot := by
        rintro rfl
        exact absurd hm (by decide)
      rw [entry, if_neg hdot] at he
      exact bucket_lost root b d (decode_shorter b d hd hm) he
    obtain rfl : b = d := by simpa [decode_literal b hpercent] using hd
    exact ⟨hpercent, by simpa [rooted_file b name hb] using hr⟩
  · rintro ⟨hpercent, hdrive⟩
    have hall : percent ∉ b ++ slash :: name := by
      simp only [List.mem_append, List.mem_cons, not_or]
      exact ⟨hpercent, by decide, hname⟩
    have hzero : 0 ∉ b ++ slash :: name := by
      simp only [List.mem_append, List.mem_cons, not_or]
      exact ⟨hb.nul, by decide, fun h => (hu _ h).2.2.2 rfl⟩
    refine ⟨_, ⟨List.ne_nil_of_mem (mem_trim _ slash (by simp) (by decide)), hzero, decode_literal _ hall, hzero, ?_⟩, ?_⟩
    · rw [rooted_file b name hb, hdrive]
      exact Bool.false_ne_true
    · rw [hwalk, segments_bucket b hb]
      change step root b ++ [name] = _
      rw [step_bucket root b hb.up, List.append_assoc]

theorem resolve_written (service : FileStorageService) (bucket : JsString) (size now : ℕ)
    (validated : Except FileStorageError DetectedContentType) (random : Fin 10 → UInt8)
    (stored : StoredFile) (h : write service bucket size validated now random = .ok stored) :
    resolveStoragePath service.cwd service.configuredRoot stored.reference false =
        .ok stored.targetPath ↔ Addressable bucket := by
  obtain ⟨hb, detected, hr, ht⟩ := write_ok service bucket size now validated random stored h
  have hroot : resolved service.cwd [service.configuredRoot] =
      resolved service.cwd service.rootPaths := resolved_absolute _ _ (resolved_plain _ _)
  have hname := fileName_plain now random detected
  have hu := fileName_units now random detected
  have below := resolved_plain service.cwd service.rootPaths
  rw [resolveStoragePath_ok, hroot, hr, ht, Addressable,
    ← written_resolves (resolved service.cwd service.rootPaths) _ _ hb hname hu]
  refine exists_congr fun decoded => and_congr_right fun _ => ⟨?_, fun he => ?_⟩
  · rintro ⟨rest, he, -, hpath⟩
    have hplain := normalise_all_plain (segments decoded) _ (fun s hs =>
      ⟨(segment_shape _ _ hs).1, (segment_shape _ _ hs).2.1⟩) below
    have hfile : ∀ s ∈ resolved service.cwd service.rootPaths ++
        (entry (trim bucket) ++ [newId now random ++ detected.extension]), Plain s := by
      intro s hs
      rcases List.mem_append.mp hs with hs | hs
      · exact below s hs
      · rcases List.mem_append.mp hs with hs | hs
        · exact entry_plain _ hb s hs
        · exact List.mem_singleton.mp hs ▸ hname
    have hsame := congrArg components hpath
    rw [components_absolute _ hfile, components_absolute _ (he ▸ hplain)] at hsame
    rw [he, hsame]
  · exact ⟨_, he, fun hnil => absurd hnil (by simp), rfl⟩

/-- The resolver is sound and complete for containment, and it finds a written file exactly
when the bucket has no escape to decode and is no drive letter. -/
theorem storage_references_contained (cwd storageRoot reference : JsString) (allowRoot : Bool)
    (service : FileStorageService) (bucket : JsString) (size now : ℕ) (random : Fin 10 → UInt8)
    (validated : Except FileStorageError DetectedContentType) :
    (∀ path, resolveStoragePath cwd storageRoot reference allowRoot = .ok path →
        (path = resolve cwd [storageRoot] ∧ allowRoot = true) ∨
          StrictlyBelow (resolve cwd [storageRoot]) path) ∧
    ((∃ path, resolveStoragePath cwd storageRoot reference allowRoot = .ok path) ↔
        ∃ decoded, Decodes reference decoded ∧
          StaysInside (components (resolve cwd [storageRoot])) allowRoot decoded) ∧
    ∀ stored, write service bucket size validated now random = .ok stored →
        (resolveStoragePath service.cwd service.configuredRoot stored.reference false =
          .ok stored.targetPath ↔ Addressable bucket) := by
  refine ⟨fun path h => ?_, ?_, fun stored => resolve_written service bucket size now validated random stored⟩
  · obtain ⟨decoded, -, below, he, hroot, rfl⟩ := (resolveStoragePath_ok ..).mp h
    by_cases hempty : below = []
    · exact .inl ⟨by rw [hempty, List.append_nil]; rfl, hroot hempty⟩
    · have hplain := normalise_all_plain (segments decoded) _ (fun s hs =>
        ⟨(segment_shape _ _ hs).1, (segment_shape _ _ hs).2.1⟩) (resolved_plain cwd [storageRoot])
      exact .inr ⟨below, hempty, fun s hs => hplain s (he ▸ List.mem_append_right _ hs),
        by rw [components_resolve]⟩
  · rw [components_resolve]
    constructor
    · rintro ⟨path, h⟩
      obtain ⟨decoded, hd, below, he, hroot, -⟩ := (resolveStoragePath_ok ..).mp h
      exact ⟨decoded, hd, below, he, hroot⟩
    · rintro ⟨decoded, hd, below, he, hroot⟩
      exact ⟨_, (resolveStoragePath_ok ..).mpr ⟨decoded, hd, below, he, hroot, rfl⟩⟩

def storage : FileStorageService := ⟨js "/srv", [js "/data", js "storage"]⟩

theorem png_detectable : (js "image/png", js ".png") ∈ detectable := by
  unfold detectable
  exact .tail _ (.head _)

def png : DetectedContentType := ⟨js "image/png", js ".png", png_detectable⟩

def storedIn (bucket : JsString) : StoredFile :=
  ⟨bucket ++ js "/00000000-0000-7000-8000-000000000000.png",
    js "/data/storage/" ++ bucket ++ js "/00000000-0000-7000-8000-000000000000.png", 8, js "image/png"⟩

theorem picture_found :
    write storage (js "pictures") 8 (.ok png) 0 (fun _ => 0) = .ok (storedIn (js "pictures")) ∧
      resolveStoragePath storage.cwd storage.configuredRoot (storedIn (js "pictures")).reference
        false = .ok (storedIn (js "pictures")).targetPath := by
  have h : write storage (js "pictures") 8 (.ok png) 0 (fun _ => 0) = .ok (storedIn (js "pictures")) := by
    decide +kernel
  exact ⟨h, ((storage_references_contained [] [] [] false storage (js "pictures") 8 0
    (fun _ => 0) (.ok png)).2.2 _ h).mpr (by decide +kernel)⟩

/-- `a%20b` is a bucket of that name on disk, and `a b` to the resolver. -/
theorem escaped_bucket_lost :
    write storage (js "a%20b") 8 (.ok png) 0 (fun _ => 0) = .ok (storedIn (js "a%20b")) ∧
      resolveStoragePath storage.cwd storage.configuredRoot (storedIn (js "a%20b")).reference
        false = .ok (storedIn (js "a b")).targetPath ∧
      (storedIn (js "a b")).targetPath ≠ (storedIn (js "a%20b")).targetPath := by
  decide +kernel

end Glassbeetle.StorageReferences
