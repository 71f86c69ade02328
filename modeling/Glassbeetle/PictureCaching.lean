import Glassbeetle.EventFrames

set_option autoImplicit false

/-!
# Pictures that clients keep

The pictures of the user and of agents are served with an entity tag, and a client that has kept
pictures asks whether the current one is among them.
-/
namespace Glassbeetle.PictureCaching
open JsText EventFrames

/-- A time as `nowIso` writes it. -/
structure Timestamp where
  text : JsString
  length : text.length = 24
  plain : 0x2C ∉ text
  deriving DecidableEq

def quote : JsString := [0x22]

def etag (time : Timestamp) (size : ℕ) : JsString :=
  quote ++ (time.text ++ js "-" ++ decimal size) ++ quote

def strip (value : JsString) : JsString :=
  let trimmed := trim value
  if startsWith trimmed (js "W/") then trimmed.drop 2 else trimmed

def matchesEtag (header : Option JsString) (etag : JsString) : Bool :=
  match header with
  | none => false
  | some header =>
    if header = [] then false
    else if trim header = js "*" then true
    else (header.splitOn 0x2C).any fun candidate => strip candidate == etag

/-! ### Rows with a picture -/

inductive Write where
  | upload (bytes : List UInt8)
  | remove
  /-- Another change of the row. -/
  | update

/-- A kind of row: the bytes of the file that its picture refers to, the time that goes into the tag,
and what a write at some time makes of it. A write that changes the picture changes that time to its
own or takes the picture away. -/
structure Pictured (σ : Type) where
  picture : σ → Option (List UInt8)
  time : σ → Timestamp
  write : Timestamp → Write → σ → σ
  dated : ∀ now change row, picture (write now change row) = none ∨ time (write now change row) = now ∨
    picture (write now change row) = picture row ∧ time (write now change row) = time row

structure UserProfileRow where
  picture : Option (List UInt8)
  pictureUpdatedAt : Option Timestamp
  updatedAt : Timestamp

def writeUser (now : Timestamp) (change : Write) (row : UserProfileRow) : UserProfileRow :=
  match change with
  | .upload bytes => ⟨some bytes, some now, now⟩
  | .remove => if row.picture.isSome then ⟨none, none, now⟩ else row
  | .update => { row with updatedAt := now }

theorem writeUser_dated (now : Timestamp) (change : Write) (row : UserProfileRow) :
    (writeUser now change row).picture = none ∨
      (writeUser now change row).pictureUpdatedAt.getD (writeUser now change row).updatedAt = now ∨
      (writeUser now change row).picture = row.picture ∧
        (writeUser now change row).pictureUpdatedAt.getD (writeUser now change row).updatedAt =
          row.pictureUpdatedAt.getD row.updatedAt := by
  obtain ⟨picture, pictureUpdatedAt, updatedAt⟩ := row
  cases change with
  | upload bytes => exact .inr (.inl rfl)
  | remove => cases picture <;> exact .inl rfl
  | update =>
    cases pictureUpdatedAt with
    | none => exact .inr (.inl rfl)
    | some time => exact .inr (.inr ⟨rfl, rfl⟩)

def user : Pictured UserProfileRow where
  picture := UserProfileRow.picture
  time row := row.pictureUpdatedAt.getD row.updatedAt
  write := writeUser
  dated := writeUser_dated

structure AgentRow where
  picture : Option (List UInt8)
  updatedAt : Timestamp

def writeAgent (now : Timestamp) (change : Write) (row : AgentRow) : AgentRow :=
  match change with
  | .upload bytes => ⟨some bytes, now⟩
  | .remove => if row.picture.isSome then ⟨none, now⟩ else row
  | .update => { row with updatedAt := now }

theorem writeAgent_dated (now : Timestamp) (change : Write) (row : AgentRow) :
    (writeAgent now change row).picture = none ∨ (writeAgent now change row).updatedAt = now ∨
      (writeAgent now change row).picture = row.picture ∧
        (writeAgent now change row).updatedAt = row.updatedAt := by
  obtain ⟨picture, updatedAt⟩ := row
  cases change with
  | upload bytes => exact .inr (.inl rfl)
  | remove => cases picture <;> exact .inl rfl
  | update => exact .inr (.inl rfl)

def agent : Pictured AgentRow where
  picture := AgentRow.picture
  time := AgentRow.updatedAt
  write := writeAgent
  dated := writeAgent_dated

/-! ### The server and a client -/

section Requests

variable {σ : Type} (rows : Pictured σ)

inductive Response where
  | notFound
  | notModified (etag : JsString)
  | ok (etag : JsString) (bytes : List UInt8)

/-- `openPicture` describes the file that the row names when it is read, and no file is ever changed. -/
def findPicture (row : σ) (ifNoneMatch : Option JsString) : Response :=
  match rows.picture row with
  | none => .notFound
  | some bytes =>
    if matchesEtag ifNoneMatch (etag (rows.time row) bytes.length)
    then .notModified (etag (rows.time row) bytes.length)
    else .ok (etag (rows.time row) bytes.length) bytes

/-- The row, the pictures that the client has kept with their tags, and the one that it shows. -/
structure Exchange (σ : Type) where
  row : σ
  kept : List (JsString × List UInt8)
  shown : Option (List UInt8)

/-- All tags are sent, each of them weakened on its way or not. -/
def ifNoneMatch (weak : JsString → Bool) (tags : List JsString) : Option JsString :=
  if tags = [] then none
  else some (join (js ", ") (tags.map fun tag => if weak tag then js "W/" ++ tag else tag))

def receive (response : Response) (s : Exchange σ) : Exchange σ :=
  match response with
  | .notFound => { s with shown := none }
  | .notModified tag => { s with shown := s.kept.lookup tag }
  | .ok tag bytes => { s with kept := (tag, bytes) :: s.kept, shown := some bytes }

inductive Action where
  | write (now : Timestamp) (change : Write)
  | get (weak : JsString → Bool)

def Action.time : Action → Option Timestamp
  | .write now _ => some now
  | .get _ => none

def step (s : Exchange σ) : Action → Exchange σ
  | .write now change => { s with row := rows.write now change s.row }
  | .get weak => receive (findPicture rows s.row (ifNoneMatch weak (s.kept.map Prod.fst))) s

def reached (row : σ) (actions : List Action) : Exchange σ :=
  actions.foldl (step rows) ⟨row, [], none⟩

end Requests

/-! ### Tags in a header -/

theorem decimal_plain (n : ℕ) : (0x2C : CodeUnit) ∉ decimal n := by
  intro hcomma
  obtain ⟨c, hc, hunit⟩ := List.mem_flatMap.mp hcomma
  have hc : c ∈ (toString n).toList := hc
  rw [Nat.toString_eq_repr, Nat.toList_repr] at hc
  have hdigit := Nat.isDigit_of_mem_toDigits (by decide) (by decide) hc
  simp only [Char.isDigit, Bool.and_eq_true, decide_eq_true_eq, ge_iff_le, UInt32.le_iff_toNat_le]
    at hdigit
  have hlow : 0x30 ≤ c.toNat := hdigit.1
  have hhigh : c.toNat ≤ 0x39 := hdigit.2
  rw [utf16, if_pos (by omega), List.mem_singleton] at hunit
  have hvalue := congrArg UInt16.toNat hunit
  rw [UInt16.toNat_ofNat', Nat.mod_eq_of_lt (by omega)] at hvalue
  have hcode : UInt16.toNat 0x2C = 0x2C := rfl
  omega

theorem etag_plain (time : Timestamp) (size : ℕ) : (0x2C : CodeUnit) ∉ etag time size := by
  have hquote : (0x2C : CodeUnit) ∉ quote := by decide
  have hdash : (0x2C : CodeUnit) ∉ js "-" := by decide
  simp [etag, hquote, hdash, time.plain, decimal_plain]

theorem etag_text (time : Timestamp) (size : ℕ) : ((etag time size).drop 1).take 24 = time.text := by
  have htail : (etag time size).drop 1 = time.text ++ (js "-" ++ decimal size ++ quote) := by
    simp [etag, quote]
  rw [htail, List.take_left' time.length]

theorem etag_time (time other : Timestamp) (size length : ℕ)
    (h : etag time size = etag other length) : time = other := by
  have htext : time.text = other.text := by rw [← etag_text time size, h, etag_text]
  cases time
  cases other
  simpa using htext

theorem strip_etag (time : Timestamp) (size : ℕ) : strip (etag time size) = etag time size := by
  have htrim : trim (etag time size) = etag time size := trim_ends 0x22 0x22 _ (by decide) (by decide)
  rw [strip, htrim]
  rfl

theorem strip_weak (time : Timestamp) (size : ℕ) :
    strip (js "W/" ++ etag time size) = etag time size := by
  have hends : js "W/" ++ etag time size =
      0x57 :: (0x2F :: quote ++ (time.text ++ js "-" ++ decimal size)) ++ [0x22] := by
    simp [etag, quote]
    rfl
  have htrim : trim (js "W/" ++ etag time size) = js "W/" ++ etag time size := by
    rw [hends]
    exact trim_ends 0x57 0x22 _ (by decide) (by decide)
  rw [strip, htrim]
  rfl

theorem strip_space (value : JsString) : strip (0x20 :: value) = strip value := by
  have htrim : trim (0x20 :: value) = trim value := rfl
  simp only [strip, htrim]

theorem splitOn_join (first : JsString) (rest : List JsString)
    (h : ∀ part ∈ first :: rest, (0x2C : CodeUnit) ∉ part) :
    (join (js ", ") (first :: rest)).splitOn 0x2C = first :: rest.map (0x20 :: ·) := by
  induction rest generalizing first with
  | nil =>
    have hone : join (js ", ") [first] = first := by simp [join, List.intercalate]
    rw [hone, List.splitOn_eq_singleton (h first List.mem_cons_self)]
    rfl
  | cons second rest ih =>
    have htwo : join (js ", ") (first :: second :: rest) =
        first ++ 0x2C :: join (js ", ") ((0x20 :: second) :: rest) := by
      cases rest <;> simp [join, List.intercalate, List.intersperse] <;> rfl
    have hfirst := h first List.mem_cons_self
    have hrest : ∀ part ∈ (0x20 :: second) :: rest, (0x2C : CodeUnit) ∉ part := by
      intro part hpart
      rcases List.mem_cons.mp hpart with rfl | hpart
      · have hsecond := h second (by simp)
        simpa using hsecond
      · exact h part (by simp [hpart])
    rw [htwo, List.splitOn_append_cons_self, List.splitOn_eq_singleton hfirst, ih _ hrest]
    rfl

theorem matchesEtag_sent (weak : JsString → Bool) (tags : List JsString) (tag : JsString)
    (htags : ∀ tag ∈ tags, ∃ time size, tag = etag time size) :
    matchesEtag (ifNoneMatch weak tags) tag = true ↔ tag ∈ tags := by
  cases tags with
  | nil => simp [ifNoneMatch, matchesEtag]
  | cons first rest =>
    let sent (tag : JsString) := if weak tag then js "W/" ++ tag else tag
    have hstrip : ∀ tag ∈ first :: rest, strip (sent tag) = tag := by
      intro tag htag
      obtain ⟨time, size, rfl⟩ := htags tag htag
      simp only [sent]
      split
      · exact strip_weak time size
      · exact strip_etag time size
    have hplain : ∀ part ∈ sent first :: rest.map sent, (0x2C : CodeUnit) ∉ part := by
      rw [← List.map_cons]
      intro part hpart
      obtain ⟨tag, htag, rfl⟩ := List.mem_map.mp hpart
      obtain ⟨time, size, rfl⟩ := htags tag htag
      have hweak : (0x2C : CodeUnit) ∉ js "W/" := by decide
      simp only [sent]
      split
      · simp [hweak, etag_plain]
      · exact etag_plain time size
    have hquote : 0x22 ∈ join (js ", ") (sent first :: rest.map sent) := by
      obtain ⟨time, size, hfirst⟩ := htags first List.mem_cons_self
      have hmem : 0x22 ∈ sent first := by
        simp only [sent, hfirst]
        split <;> simp [etag, quote]
      cases rest <;> simp [join, List.intercalate, hmem]
    have hfilled := List.ne_nil_of_mem hquote
    have hall : trim (join (js ", ") (sent first :: rest.map sent)) ≠ js "*" := by
      intro hstar
      have hkept := mem_trim _ 0x22 hquote (by decide)
      rw [hstar] at hkept
      exact absurd hkept (by decide)
    have hheader : ifNoneMatch weak (first :: rest) =
        some (join (js ", ") (sent first :: rest.map sent)) := rfl
    simp only [hheader, matchesEtag, if_neg hfilled, if_neg hall]
    rw [splitOn_join _ _ hplain, List.any_cons, List.any_map, List.any_map, hstrip first List.mem_cons_self]
    simp only [Bool.or_eq_true, beq_iff_eq, List.any_eq_true, Function.comp_apply, strip_space,
      List.mem_cons]
    constructor
    · rintro (rfl | ⟨other, hother, rfl⟩)
      · exact .inl rfl
      · right
        rw [hstrip other (List.mem_cons_of_mem _ hother)]
        exact hother
    · rintro (rfl | hother)
      · exact .inl rfl
      · exact .inr ⟨tag, hother, hstrip tag (List.mem_cons_of_mem _ hother)⟩

/-! ### Runs -/

section Runs

variable {σ : Type} (rows : Pictured σ)

/-- What is kept was the picture at the time in its tag, and is so still if the row has that time. -/
structure Known (past : List Timestamp) (s : Exchange σ) : Prop where
  kept : ∀ entry ∈ s.kept, ∃ time ∈ past, entry.1 = etag time entry.2.length ∧
    (rows.time s.row = time → ∀ bytes, rows.picture s.row = some bytes → entry.2 = bytes)
  dated : ∀ bytes, rows.picture s.row = some bytes → rows.time s.row ∈ past

theorem lookup_kept (kept : List (JsString × List UInt8)) (tag : JsString)
    (h : tag ∈ kept.map Prod.fst) : ∃ bytes, kept.lookup tag = some bytes ∧ (tag, bytes) ∈ kept := by
  induction kept with
  | nil => cases h
  | cons entry rest ih =>
    obtain ⟨first, bytes⟩ := entry
    by_cases hfirst : tag = first
    · subst hfirst
      exact ⟨bytes, by simp, List.mem_cons_self⟩
    · have hrest : tag ∈ rest.map Prod.fst := by simpa [hfirst] using h
      obtain ⟨found, hlookup, hmem⟩ := ih hrest
      refine ⟨found, ?_, List.mem_cons_of_mem _ hmem⟩
      rw [List.lookup_cons, beq_false_of_ne hfirst]
      exact hlookup

theorem write_known (past : List Timestamp) (s : Exchange σ) (now : Timestamp) (change : Write)
    (h : Known rows past s) (hnow : now ∉ past) :
    Known rows (past ++ [now]) (step rows s (.write now change)) := by
  constructor
  · intro entry hentry
    obtain ⟨time, htime, htag, hsame⟩ := h.kept entry hentry
    refine ⟨time, List.mem_append_left _ htime, htag, ?_⟩
    intro hrow bytes hbytes
    simp only [step] at hrow hbytes
    rcases rows.dated now change s.row with hnone | hdated | ⟨hpicture, hkept⟩
    · rw [hnone] at hbytes
      cases hbytes
    · exact absurd (hdated ▸ hrow ▸ htime) hnow
    · exact hsame (hkept ▸ hrow) bytes (hpicture ▸ hbytes)
  · intro bytes hbytes
    simp only [step] at hbytes ⊢
    rcases rows.dated now change s.row with hnone | hdated | ⟨hpicture, hkept⟩
    · rw [hnone] at hbytes
      cases hbytes
    · rw [hdated]
      exact List.mem_append_right _ List.mem_cons_self
    · rw [hkept]
      exact List.mem_append_left _ (h.dated bytes (hpicture ▸ hbytes))

theorem get_row (s : Exchange σ) (weak : JsString → Bool) :
    (step rows s (.get weak)).row = s.row := by
  simp only [step, receive]
  split <;> rfl

theorem get_known (past : List Timestamp) (s : Exchange σ) (weak : JsString → Bool)
    (h : Known rows past s) : Known rows past (step rows s (.get weak)) := by
  constructor
  · rw [get_row]
    cases hpicture : rows.picture s.row with
    | none =>
      intro entry hentry
      simp only [step, findPicture, hpicture, receive] at hentry
      simpa [hpicture] using h.kept entry hentry
    | some bytes =>
      intro entry hentry
      simp only [step, findPicture, hpicture] at hentry
      split at hentry
      · simpa [hpicture] using h.kept entry hentry
      · rcases List.mem_cons.mp hentry with rfl | hentry
        · exact ⟨_, h.dated bytes hpicture, rfl, fun _ _ hsame => Option.some.inj hsame⟩
        · simpa [hpicture] using h.kept entry hentry
  · rw [get_row]
    exact h.dated

theorem get_shown (past : List Timestamp) (s : Exchange σ) (weak : JsString → Bool)
    (h : Known rows past s) : (step rows s (.get weak)).shown = rows.picture s.row := by
  cases hpicture : rows.picture s.row with
  | none => simp only [step, findPicture, hpicture, receive]
  | some bytes =>
    have htags : ∀ tag ∈ s.kept.map Prod.fst, ∃ time size, tag = etag time size := by
      intro tag htag
      obtain ⟨entry, hentry, rfl⟩ := List.mem_map.mp htag
      obtain ⟨time, -, htag, -⟩ := h.kept entry hentry
      exact ⟨time, entry.2.length, htag⟩
    simp only [step, findPicture, hpicture]
    split
    · next hmatch =>
      rw [matchesEtag_sent weak _ _ htags] at hmatch
      obtain ⟨found, hlookup, hmem⟩ := lookup_kept s.kept _ hmatch
      obtain ⟨time, -, htag, hsame⟩ := h.kept _ hmem
      have htime := etag_time _ _ _ _ htag
      simp only [receive, hlookup]
      exact congrArg some (hsame htime bytes hpicture)
    · rfl

theorem reached_known (row : σ) (hrow : rows.picture row = none) (actions : List Action)
    (hdistinct : (actions.filterMap Action.time).Nodup) :
    Known rows (actions.filterMap Action.time) (reached rows row actions) := by
  induction actions using List.reverseRecOn with
  | nil =>
    constructor
    · intro entry hentry
      cases hentry
    · intro bytes hbytes
      rw [show (reached rows row []).row = row from rfl, hrow] at hbytes
      cases hbytes
  | append_singleton actions action ih =>
    rw [List.filterMap_append] at hdistinct ⊢
    have hknown := ih (List.nodup_append.mp hdistinct).1
    rw [reached, List.foldl_append]
    cases action with
    | write now change =>
      apply write_known rows _ _ now change hknown
      intro hnow
      exact (List.nodup_append.mp hdistinct).2.2 now hnow now (by simp [Action.time]) rfl
    | get weak =>
      have hsame : [Action.get weak].filterMap Action.time = [] := rfl
      rw [hsame, List.append_nil]
      exact get_known rows _ _ weak hknown

/-- If no two writes fall into one millisecond, every request shows the client the picture of the row
at that time, also where the server leaves it to the client to find it among those it has kept. -/
theorem kept_pictures_current (row : σ) (hrow : rows.picture row = none) (actions : List Action)
    (hdistinct : (actions.filterMap Action.time).Nodup) (weak : JsString → Bool) :
    (step rows (reached rows row actions) (.get weak)).shown =
      rows.picture (reached rows row actions).row :=
  get_shown rows _ _ weak (reached_known rows row hrow actions hdistinct)

def midnight : Timestamp := ⟨js "2026-01-01T00:00:00.000Z", rfl, by decide⟩

def nextMillisecond : Timestamp := ⟨js "2026-01-01T00:00:00.001Z", rfl, by decide⟩

def replacing (first second : Timestamp) : List Action :=
  [.write first (.upload [1]), .get fun _ => false, .write second (.upload [2])]

theorem kept_pictures_current_replaced :
    let actions := replacing midnight nextMillisecond
    (step user (reached user ⟨none, none, midnight⟩ actions) (.get fun _ => true)).shown =
        user.picture (reached user ⟨none, none, midnight⟩ actions).row ∧
      (step agent (reached agent ⟨none, midnight⟩ actions) (.get fun _ => true)).shown =
        agent.picture (reached agent ⟨none, midnight⟩ actions).row :=
  ⟨kept_pictures_current user ⟨none, none, midnight⟩ rfl _ (by decide) _,
    kept_pictures_current agent ⟨none, midnight⟩ rfl _ (by decide) _⟩

example :
    (step user (reached user ⟨none, none, midnight⟩ (replacing midnight midnight))
      (.get fun _ => false)).shown = some [1] := by
  decide

end Runs

end Glassbeetle.PictureCaching
