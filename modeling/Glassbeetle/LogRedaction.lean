import Mathlib.Data.List.Forall2
import Glassbeetle.JsonStringify
import Glassbeetle.ObjectFields
import Glassbeetle.TextPatterns

set_option autoImplicit false

/-!
# Redaction of logged bodies

`redact.ts`, and the line that `request-logging.middleware.ts` writes about the body of a request.
-/
namespace Glassbeetle.LogRedaction
open JsText TextPatterns JsonStringify ObjectFields
open JsValue (Json JsNumber)

variable {ν : Type}

def redactedText : JsString := js "[REDACTED]"

section Regexes
open Pattern

/-- `[-_]?` -/
def separator : Pattern := optional (.unit fun c => c == 0x2D || c == 0x5F)

def words (first second : String) : Pattern :=
  sequence [anyCase (js first), separator, anyCase (js second)]

def sensitiveKeyRegex : Pattern :=
  either (words "api" "key") (either (anyCase (js "secret")) (either (anyCase (js "password"))
    (either (anyCase (js "token")) (either (anyCase (js "authorization"))
      (either (words "encrypted" "value") (either (anyCase (js "nonce"))
        (either (anyCase (js "credentials")) (words "private" "key"))))))))

def bearerRegex : Pattern := sequence [anyCase (js "bearer"), many 1 isSpace]

end Regexes

def isSensitiveKey (key : JsString) : Bool :=
  (sensitiveKeyRegex.lengths none key).contains key.length

def isBearer (s : JsString) : Bool := !(bearerRegex.lengths none s).isEmpty

def redactString (s : JsString) : JsString :=
  if isBearer s then js "Bearer " ++ redactedText else s

def prototypeKey : JsString := js "__proto__"

mutual

/-- A parsed document has no buffers. -/
def redactSensitiveData : Json ν → Json ν
  | .null => .null
  | .bool b => .bool b
  | .number n => .number n
  | .string s => .string (redactString s)
  | .array items => .array (redactItems items)
  | .object fields => .object (redactFields fields)

def redactItems : List (Json ν) → List (Json ν)
  | [] => []
  | item :: rest => redactSensitiveData item :: redactItems rest

def redactField : JsString × Json ν → List (JsString × Json ν)
  | (key, value) =>
    if key = prototypeKey then []
    else if isSensitiveKey key then [(key, .string redactedText)]
    else [(key, redactSensitiveData value)]

def redactFields : List (JsString × Json ν) → List (JsString × Json ν)
  | [] => []
  | field :: rest => redactField field ++ redactFields rest

end

/-! ### What the copy hides -/

mutual

/-- The documents differ only in what must not be shown. -/
def Alike : Json ν → Json ν → Prop
  | .null, .null => True
  | .bool a, .bool b => a = b
  | .number a, .number b => a = b
  | .string a, .string b => a = b ∨ isBearer a = true ∧ isBearer b = true
  | .array items, .array others => AlikeItems items others
  | .object fields, .object others =>
    AlikeFields fields (others.filter fun other => other.1 ≠ prototypeKey)
  | _, _ => False

def AlikeItems : List (Json ν) → List (Json ν) → Prop
  | [], [] => True
  | item :: rest, other :: others => Alike item other ∧ AlikeItems rest others
  | _, _ => False

def AlikeField : JsString × Json ν → JsString × Json ν → Prop
  | (key, value), (name, other) => key = name ∧ (isSensitiveKey key = true ∨ Alike value other)

def AlikeFields : List (JsString × Json ν) → List (JsString × Json ν) → Prop
  | [], [] => True
  | [], _ :: _ => False
  | field :: rest, [] => field.1 = prototypeKey ∧ AlikeFields rest []
  | field :: rest, other :: others =>
    if field.1 = prototypeKey then AlikeFields rest (other :: others)
    else AlikeField field other ∧ AlikeFields rest others

end

theorem redactString_bearer (s : JsString) (h : isBearer s = true) :
    redactString s = js "Bearer [REDACTED]" := by
  simp only [redactString, h, if_true]
  rfl

theorem redactString_plain (s : JsString) (h : isBearer s = false) : redactString s = s := by
  simp [redactString, h]

/-- The marker is itself a bearer token, so no other text is taken for a redacted one. -/
theorem isBearer_marker : isBearer (js "Bearer [REDACTED]") = true := by decide

theorem redactString_alike (s t : JsString) :
    redactString s = redactString t ↔ s = t ∨ isBearer s = true ∧ isBearer t = true := by
  cases hs : isBearer s with
  | false =>
    cases ht : isBearer t with
    | false => simp [redactString_plain, hs, ht]
    | true =>
      have hne : s ≠ js "Bearer [REDACTED]" := by
        rintro rfl
        simp [isBearer_marker] at hs
      have hne' : s ≠ t := by
        rintro rfl
        simp [hs] at ht
      simp [redactString_plain s hs, redactString_bearer t ht, hne, hne']
  | true =>
    cases ht : isBearer t with
    | false =>
      have hne : js "Bearer [REDACTED]" ≠ t := by
        rintro rfl
        simp [isBearer_marker] at ht
      have hne' : s ≠ t := by
        rintro rfl
        simp [hs] at ht
      simp [redactString_plain t ht, redactString_bearer s hs, hne, hne']
    | true => simp [redactString_bearer, hs, ht]

def hideValue (field : JsString × Json ν) : JsString × Json ν :=
  (field.1, if isSensitiveKey field.1 then .string redactedText else redactSensitiveData field.2)

theorem redactField_prototype (field : JsString × Json ν) (h : field.1 = prototypeKey) :
    redactField field = [] := by
  obtain ⟨key, value⟩ := field
  rw [redactField, if_pos h]

theorem redactField_own (field : JsString × Json ν) (h : field.1 ≠ prototypeKey) :
    redactField field = [hideValue field] := by
  obtain ⟨key, value⟩ := field
  rw [redactField, if_neg h, hideValue]
  split <;> rfl

theorem redactFields_cons (field : JsString × Json ν) (rest : List (JsString × Json ν))
    (h : field.1 ≠ prototypeKey) :
    redactFields (field :: rest) = hideValue field :: redactFields rest := by
  rw [redactFields, redactField_own field h]
  rfl

theorem redactFields_own (fields : List (JsString × Json ν)) :
    redactFields (fields.filter fun field => field.1 ≠ prototypeKey) = redactFields fields := by
  induction fields with
  | nil => rfl
  | cons field rest ih =>
    by_cases h : field.1 = prototypeKey
    · rw [List.filter_cons_of_neg (by simpa using h), ih, redactFields, redactField_prototype _ h,
        List.nil_append]
    · rw [List.filter_cons_of_pos (by simpa using h), redactFields, redactFields, ih]

mutual

theorem redact_iff : (a b : Json ν) → (redactSensitiveData a = redactSensitiveData b ↔ Alike a b)
  | .null, b => by cases b <;> simp [redactSensitiveData, Alike]
  | .bool x, b => by cases b <;> simp [redactSensitiveData, Alike]
  | .number n, b => by cases b <;> simp [redactSensitiveData, Alike]
  | .string s, b => by cases b <;> simp [redactSensitiveData, Alike, redactString_alike]
  | .array items, b => by cases b <;> simp [redactSensitiveData, Alike, redactItems_iff items]
  | .object fields, b => by
    cases b with
    | object others =>
      have hown : ∀ other ∈ others.filter fun other => other.1 ≠ prototypeKey,
          other.1 ≠ prototypeKey := by
        intro other hother
        simpa using (List.mem_filter.mp hother).2
      rw [redactSensitiveData, redactSensitiveData, ← redactFields_own others, Alike,
        ← redactFields_iff fields _ hown, Json.object.injEq]
    | _ => simp [redactSensitiveData, Alike]

theorem redactItems_iff : (items others : List (Json ν)) →
    (redactItems items = redactItems others ↔ AlikeItems items others)
  | [], others => by cases others <;> simp [redactItems, AlikeItems]
  | item :: rest, others => by
    cases others with
    | nil => simp [redactItems, AlikeItems]
    | cons other others =>
      simp [redactItems, AlikeItems, redact_iff item other, redactItems_iff rest others]

theorem redactField_iff : (field other : JsString × Json ν) →
    (hideValue field = hideValue other ↔ AlikeField field other)
  | (key, value), (name, other) => by
    rw [hideValue, hideValue, AlikeField, Prod.mk.injEq, and_congr_right_iff]
    rintro rfl
    cases hkey : isSensitiveKey key <;> simp [redact_iff value other]

theorem redactFields_iff : (fields others : List (JsString × Json ν)) →
    (∀ other ∈ others, other.1 ≠ prototypeKey) →
      (redactFields fields = redactFields others ↔ AlikeFields fields others)
  | [], others => by
    intro hown
    cases others with
    | nil => simp [AlikeFields]
    | cons other others =>
      simp [redactFields, AlikeFields, redactField_own other (hown other List.mem_cons_self)]
  | field :: rest, others => by
    intro hown
    by_cases hfield : field.1 = prototypeKey
    · rw [redactFields, redactField_prototype field hfield, List.nil_append,
        redactFields_iff rest others hown]
      cases others <;> simp [AlikeFields, hfield]
    · rw [redactFields_cons field rest hfield]
      cases others with
      | nil => simp [redactFields, AlikeFields, hfield]
      | cons other others =>
        simp only [List.mem_cons, forall_eq_or_imp] at hown
        rw [redactFields_cons other others hown.1, List.cons.injEq, AlikeFields, if_neg hfield]
        exact and_congr (redactField_iff field other) (redactFields_iff rest others hown.2)

end

mutual

theorem redact_again : (a : Json ν) → redactSensitiveData (redactSensitiveData a) =
    redactSensitiveData a
  | .null => by simp [redactSensitiveData]
  | .bool x => by simp [redactSensitiveData]
  | .number n => by simp [redactSensitiveData]
  | .string s => by
    cases hs : isBearer s with
    | false => simp [redactSensitiveData, redactString_plain s hs]
    | true =>
      simp [redactSensitiveData, redactString_bearer s hs, redactString_bearer _ isBearer_marker]
  | .array items => by simp [redactSensitiveData, redactItems_again items]
  | .object fields => by simp [redactSensitiveData, redactFields_again fields]

theorem redactItems_again : (items : List (Json ν)) →
    redactItems (redactItems items) = redactItems items
  | [] => by simp [redactItems]
  | item :: rest => by simp [redactItems, redact_again item, redactItems_again rest]

theorem hideValue_again : (field : JsString × Json ν) → hideValue (hideValue field) = hideValue field
  | (key, value) => by
    rw [hideValue, hideValue]
    cases hkey : isSensitiveKey key <;> simp [redact_again value]

theorem redactFields_again : (fields : List (JsString × Json ν)) →
    redactFields (redactFields fields) = redactFields fields
  | [] => by simp [redactFields]
  | field :: rest => by
    by_cases hfield : field.1 = prototypeKey
    · rw [redactFields, redactField_prototype field hfield, List.nil_append, redactFields_again rest]
    · have hhidden : (hideValue field).1 ≠ prototypeKey := hfield
      rw [redactFields_cons field rest hfield, redactFields_cons _ _ hhidden, hideValue_again field,
        redactFields_again rest]

end

/-- The copies of two documents are the same exactly if they differ only in what must not be shown,
and a copy is its own copy. -/
theorem redaction_exact (a b : Json ν) :
    (redactSensitiveData a = redactSensitiveData b ↔ Alike a b) ∧
      redactSensitiveData (redactSensitiveData a) = redactSensitiveData a :=
  ⟨redact_iff a b, redact_again a⟩

/-! ### The line about a body -/

/-- `Object.keys(body).length > 0` -/
def hasKeys : Json ν → Bool
  | .array items => !items.isEmpty
  | .object fields => !fields.isEmpty
  | _ => false

/-- What `{...value}` takes over. -/
def spread : Json ν → List (JsString × Json ν)
  | .array items => items.zipIdx.map fun item => (decimal item.2, item.1)
  | .object fields => fields
  | _ => []

/-- `body[key]` for a key that neither an array nor the prototype of objects has. -/
def property (body : Json ν) (key : JsString) : Option (Json ν) :=
  match body with
  | .object fields => fields.lookup key
  | _ => none

/-- `...(body[key] !== undefined ? { [key]: REDACTED_TEXT } : {})` -/
def overwritten (body : Json ν) (key : JsString) : List (JsString × Json ν) :=
  if (property body key).isSome then [(key, .string redactedText)] else []

def redactedBody (path : JsString) (body : Json ν) : Json ν :=
  let redacted := redactSensitiveData body
  if includes path (js "/credential") then
    .object (assign (assign (spread redacted) (overwritten body (js "value")))
      (overwritten body (js "apiKey")))
  else redacted

def bodyLine [JsNumber ν] (logBody : Bool) (correlationId path : JsString) (body : Json ν) :
    Option JsString :=
  if logBody && hasKeys body then
    some (js "[" ++ correlationId ++ js "] Request body: " ++ stringify (redactedBody path body))
  else none

def Concealed (path key : JsString) : Prop :=
  key = prototypeKey ∨ isSensitiveKey key = true ∨
    includes path (js "/credential") = true ∧ (key = js "value" ∨ key = js "apiKey")

/-- The fields are the same but for values that are concealed. -/
def Veiled (hidden : JsString → Prop) : List (JsString × Json ν) → List (JsString × Json ν) → Prop :=
  List.Forall₂ fun field other => field.1 = other.1 ∧ (hidden field.1 ∨ field.2 = other.2)

/-- The bodies differ only in values that are concealed. -/
def AlikeBodies (path : JsString) : Json ν → Json ν → Prop
  | .object fields, .object others => List.Forall₂ (fun field other =>
      field.1 = other.1 ∧ (Concealed path field.1 ∨ Alike field.2 other.2)) fields others
  | body, other => Alike body other

theorem veiled_keys (hidden : JsString → Prop) (fields others : List (JsString × Json ν))
    (h : Veiled hidden fields others) : fields.map Prod.fst = others.map Prod.fst := by
  induction h with
  | nil => rfl
  | cons hfield _ ih => simp [hfield.1, ih]

theorem lookup_isSome (fields : List (JsString × Json ν)) (key : JsString) :
    (fields.lookup key).isSome = (fields.map Prod.fst).contains key := by
  induction fields with
  | nil => rfl
  | cons field rest ih =>
    rw [List.lookup_cons, List.map_cons, List.contains_cons]
    cases key == field.1 <;> simp [ih]

theorem assign_veiled (hidden : JsString → Prop) (key : JsString) (source : List (JsString × Json ν))
    (fields others : List (JsString × Json ν)) (h : Veiled hidden fields others)
    (hsource : key ∈ fields.map Prod.fst → (source.lookup key).isSome = true) :
    Veiled (fun name => hidden name ∧ name ≠ key) (assign fields source) (assign others source) := by
  have hnew : (source.filter fun field => (fields.lookup field.1).isNone) =
      source.filter fun field => (others.lookup field.1).isNone := by
    simp only [← Option.not_isSome, lookup_isSome, veiled_keys hidden fields others h]
  have hmember := (List.forall₂_and_left fields others).mpr
    ⟨fun field hfield => List.mem_map_of_mem (f := Prod.fst) hfield, h⟩
  unfold assign
  rw [hnew]
  apply List.rel_append
  · rw [List.forall₂_map_left_iff, List.forall₂_map_right_iff]
    apply hmember.imp
    rintro ⟨name, value⟩ ⟨_, other⟩ ⟨hname, rfl, hvalue⟩
    refine ⟨rfl, ?_⟩
    by_cases hkey : name = key
    · subst hkey
      obtain ⟨hidden, hhidden⟩ := Option.isSome_iff_exists.mp (hsource hname)
      right
      simp [hhidden]
    · rcases hvalue with hvalue | rfl
      · exact .inl ⟨hvalue, hkey⟩
      · exact .inr rfl
  · exact List.forall₂_same.mpr fun field _ => ⟨rfl, .inr rfl⟩

theorem redactFields_keys (fields : List (JsString × Json ν)) (key : JsString)
    (h : key ∈ (redactFields fields).map Prod.fst) : key ∈ fields.map Prod.fst := by
  induction fields with
  | nil => exact h
  | cons field rest ih =>
    rw [redactFields, List.map_append, List.mem_append] at h
    rcases h with h | h
    · by_cases hfield : field.1 = prototypeKey
      · simp [redactField_prototype field hfield] at h
      · simp [redactField_own field hfield, hideValue] at h
        simp [h]
    · exact List.mem_cons_of_mem _ (ih h)

/-- Where the credential routes are not concerned, the copies are already the same. -/
theorem redactFields_veiled (path : JsString) (fields others : List (JsString × Json ν))
    (h : AlikeBodies path (.object fields) (.object others)) :
    Veiled (fun key => includes path (js "/credential") = true ∧ (key = js "value" ∨ key = js "apiKey"))
      (redactFields fields) (redactFields others) := by
  induction h with
  | nil => exact .nil
  | @cons field other rest others hfield _ ih =>
    obtain ⟨hkey, hvalue⟩ := hfield
    rw [redactFields, redactFields]
    apply List.rel_append _ ih
    by_cases hprototype : field.1 = prototypeKey
    · rw [redactField_prototype field hprototype, redactField_prototype other (hkey ▸ hprototype)]
      exact .nil
    · rw [redactField_own field hprototype, redactField_own other (hkey ▸ hprototype)]
      refine .cons ⟨hkey, ?_⟩ .nil
      rcases hvalue with (hnone | hsensitive | hroute) | halike
      · exact absurd hnone hprototype
      · simp [hideValue, ← hkey, hsensitive]
      · exact .inl hroute
      · right
        simp [hideValue, ← hkey, (redact_iff field.2 other.2).mpr halike]

theorem veiled_same (hidden : JsString → Prop) (fields others : List (JsString × Json ν))
    (hnone : ∀ key, ¬hidden key) (h : Veiled hidden fields others) : fields = others := by
  induction h with
  | nil => rfl
  | cons hfield _ ih =>
    rw [ih, Prod.ext hfield.1 (hfield.2.resolve_left (hnone _))]

theorem overwritten_alike (path key : JsString) (fields others : List (JsString × Json ν))
    (h : AlikeBodies path (.object fields) (.object others)) :
    overwritten (.object fields) key = overwritten (.object others) key := by
  have hkeys : fields.map Prod.fst = others.map Prod.fst := by
    induction h with
    | nil => rfl
    | cons hfield _ ih => simp [hfield.1, ih]
  simp only [overwritten, property, lookup_isSome, hkeys]

theorem lookup_overwritten (fields : List (JsString × Json ν)) (key : JsString)
    (h : key ∈ fields.map Prod.fst) :
    ((overwritten (.object fields) key).lookup key).isSome = true := by
  have hsome : (property (.object fields) key).isSome = true := by
    rw [property, lookup_isSome]
    exact List.contains_iff_mem.mpr h
  simp [overwritten, hsome]

theorem assign_keys (fields : List (JsString × Json ν)) (body : Json ν) (key other : JsString)
    (h : other ∈ (assign fields (overwritten body key)).map Prod.fst) (hne : other ≠ key) :
    other ∈ fields.map Prod.fst := by
  rw [assign, List.map_append, List.mem_append] at h
  rcases h with h | h
  · simpa [Function.comp_def] using h
  · obtain ⟨field, hfield, rfl⟩ := List.mem_map.mp h
    have hmem := (List.mem_filter.mp hfield).1
    unfold overwritten at hmem
    split at hmem
    · exact absurd (congrArg Prod.fst (List.mem_singleton.mp hmem)) hne
    · cases hmem

/-- On the routes of credentials two more fields are overwritten, which leaves nothing concealed. -/
theorem redactedFields_alike (path : JsString) (fields others : List (JsString × Json ν))
    (h : AlikeBodies path (.object fields) (.object others)) :
    redactedBody path (.object fields) = redactedBody path (.object others) := by
  have hveiled := redactFields_veiled path fields others h
  unfold redactedBody
  simp only [redactSensitiveData, spread]
  split
  · have hvalue := assign_veiled _ (js "value") (overwritten (.object fields) (js "value")) _ _ hveiled
      fun hmem => lookup_overwritten fields _ (redactFields_keys fields _ hmem)
    have hboth := assign_veiled _ (js "apiKey") (overwritten (.object fields) (js "apiKey")) _ _ hvalue
      fun hmem => lookup_overwritten fields _ (redactFields_keys fields _
        (assign_keys _ _ _ _ hmem (by decide)))
    rw [← overwritten_alike path _ fields others h, ← overwritten_alike path _ fields others h]
    congr 1
    apply veiled_same _ _ _ _ hboth
    rintro key ⟨⟨⟨-, hkey | hkey⟩, hne⟩, hne'⟩
    · exact hne hkey
    · exact hne' hkey
  · next hroute =>
    congr 1
    apply veiled_same _ _ _ _ hveiled
    rintro key ⟨htrue, -⟩
    exact hroute htrue

theorem redactedPlain_alike (path : JsString) (body other : Json ν)
    (hbody : ∀ key, property body key = none) (hother : ∀ key, property other key = none)
    (h : Alike body other) : redactedBody path body = redactedBody path other := by
  simp [redactedBody, overwritten, hbody, hother, (redact_iff body other).mpr h]

theorem redactedBody_alike (path : JsString) (body other : Json ν)
    (h : AlikeBodies path body other) : redactedBody path body = redactedBody path other := by
  cases body with
  | object fields =>
    cases other with
    | object others => exact redactedFields_alike path fields others h
    | _ => simp [AlikeBodies, Alike] at h
  | _ =>
    cases other with
    | object others => simp [AlikeBodies, Alike] at h
    | _ => exact redactedPlain_alike path _ _ (fun _ => rfl) (fun _ => rfl) h

theorem hasKeys_alike (path : JsString) (body other : Json ν) (h : AlikeBodies path body other) :
    hasKeys body = hasKeys other := by
  cases body with
  | object fields =>
    cases other with
    | object others =>
      have hlength := List.Forall₂.length_eq h
      cases fields <;> cases others <;> simp_all [hasKeys]
    | _ => simp [AlikeBodies, Alike] at h
  | array items =>
    cases other with
    | array others => cases items <;> cases others <;> simp_all [AlikeBodies, Alike, AlikeItems, hasKeys]
    | _ => simp [AlikeBodies, Alike] at h
  | _ => cases other <;> simp_all [AlikeBodies, Alike, hasKeys]

/-- The line about a body tells nothing of the values that are concealed: not those under a sensitive
key at any depth, nor bearer tokens, nor what a request to a credential's route sets. -/
theorem request_log_conceals [JsNumber ν] (logBody : Bool) (correlationId path : JsString)
    (body other : Json ν) (h : AlikeBodies path body other) :
    bodyLine logBody correlationId path body = bodyLine logBody correlationId path other := by
  rw [bodyLine, bodyLine, hasKeys_alike path body other h, redactedBody_alike path body other h]

theorem request_log_conceals_credential :
    let path := js "/api/v1/providers/p/credential"
    let body (key : String) : Json ℤ := .object [(js "value", .string (js key))]
    bodyLine true (js "r") path (body "sk-1") = bodyLine true (js "r") path (body "sk-2") :=
  request_log_conceals true (js "r") _ _ _
    (.cons ⟨rfl, .inl (.inr (.inr ⟨by decide, .inl rfl⟩))⟩ .nil)

end Glassbeetle.LogRedaction
