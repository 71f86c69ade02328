import Glassbeetle.JsonStringify
import Glassbeetle.LineStream

set_option autoImplicit false

/-!
# Frames of completion events

`formatSseEvent` and `parseSseEvents`.
-/
namespace Glassbeetle.EventFrames
open JsText LineStream JsonStringify
open JsValue (Json JsNumber)

variable {ν : Type} [JsNumber ν]

inductive PayloadType where
  | message_start
  | token
  | thought
  | usage
  | message_complete
  | error
  deriving DecidableEq, Repr

def PayloadType.name : PayloadType → JsString
  | .message_start => js "message_start"
  | .token => js "token"
  | .thought => js "thought"
  | .usage => js "usage"
  | .message_complete => js "message_complete"
  | .error => js "error"

inductive SseCompletionEvent (ν : Type) where
  | payload (type : PayloadType) (data : List (JsString × Json ν))
  | done

def SseCompletionEvent.type : SseCompletionEvent ν → JsString
  | .payload type _ => type.name
  | .done => js "done"

def SseCompletionEvent.data : SseCompletionEvent ν → Json ν
  | .payload _ data => .object data
  | .done => .string (js "[DONE]")

/-- A string goes out as it is. -/
def dataString : Json ν → JsString
  | .string s => s
  | value => stringify value

def formatSseEvent (event : SseCompletionEvent ν) : JsString :=
  js "event: " ++ event.type ++ js "\ndata: " ++ dataString event.data ++ js "\n\n"

/-- `rawText.split(/\r?\n\r?\n/)` -/
def splitBlocks : JsString → List JsString
  | [] => [[]]
  | 0x0D :: 0x0A :: 0x0D :: 0x0A :: rest => [] :: splitBlocks rest
  | 0x0D :: 0x0A :: 0x0A :: rest => [] :: splitBlocks rest
  | 0x0A :: 0x0D :: 0x0A :: rest => [] :: splitBlocks rest
  | 0x0A :: 0x0A :: rest => [] :: splitBlocks rest
  | c :: rest =>
    match splitBlocks rest with
    | [] => [[c]]
    | block :: blocks => (c :: block) :: blocks

def readLine (read : JsString × JsString) (line : JsString) : JsString × JsString :=
  if startsWith line (js "event: ") then (trim (line.drop 7), read.2)
  else if startsWith line (js "data: ") then (read.1, trim (line.drop 6))
  else read

/-- Nothing for a text that `JSON.parse` rejects. -/
def parseBlock (parseJson : JsString → Option (Json ν)) (block : JsString) : JsString × Json ν :=
  let (type, dataStr) := (splitLines block).foldl readLine (js "message", [])
  (type, (parseJson dataStr).getD (.string dataStr))

def parseSseEvents (parseJson : JsString → Option (Json ν)) (rawText : JsString) :
    List (JsString × Json ν) :=
  ((splitBlocks rawText).filter (trim · ≠ [])).map (parseBlock parseJson)

theorem splitBlocks_unit (c : CodeUnit) (rest block : JsString) (blocks : List JsString)
    (hc : c ≠ 0x0A ∧ c ≠ 0x0D) (h : splitBlocks rest = block :: blocks) :
    splitBlocks (c :: rest) = (c :: block) :: blocks := by
  rw [splitBlocks]
  · rw [h]
  · exact fun _ hcr => absurd hcr hc.2
  · exact fun _ hcr => absurd hcr hc.2
  · exact fun _ hlf => absurd hlf hc.1
  · exact fun _ hlf => absurd hlf hc.1

theorem splitBlocks_text (s rest block : JsString) (blocks : List JsString) (hs : OneLine s)
    (h : splitBlocks rest = block :: blocks) :
    splitBlocks (s ++ rest) = (s ++ block) :: blocks := by
  induction s with
  | nil => exact h
  | cons c s ih =>
    obtain ⟨hc, hs⟩ := List.forall_mem_cons.mp hs
    exact splitBlocks_unit c _ _ _ hc (ih hs)

theorem splitBlocks_break (c : CodeUnit) (rest block : JsString) (blocks : List JsString)
    (hc : c ≠ 0x0A ∧ c ≠ 0x0D) (h : splitBlocks (c :: rest) = block :: blocks) :
    splitBlocks (0x0A :: c :: rest) = (0x0A :: block) :: blocks := by
  rw [splitBlocks]
  · rw [h]
  · exact fun _ hcr => absurd hcr (by decide)
  · exact fun _ hcr => absurd hcr (by decide)
  · exact fun _ _ hcr => absurd (List.cons.inj hcr).1 hc.2
  · exact fun _ _ hlf => absurd (List.cons.inj hlf).1 hc.1

theorem splitBlocks_frame (first field value more : JsString) (c : CodeUnit)
    (hfirst : OneLine first) (hc : c ≠ 0x0A ∧ c ≠ 0x0D) (hvalue : OneLine (field ++ value)) :
    splitBlocks (first ++ 0x0A :: c :: (field ++ value) ++ 0x0A :: 0x0A :: more) =
      (first ++ 0x0A :: c :: (field ++ value)) :: splitBlocks more := by
  have hblank : splitBlocks (0x0A :: 0x0A :: more) = [] :: splitBlocks more := rfl
  have hsecond := splitBlocks_text (c :: (field ++ value)) (0x0A :: 0x0A :: more) [] _
    (List.forall_mem_cons.mpr ⟨hc, hvalue⟩) hblank
  rw [List.append_nil] at hsecond
  have hbreak := splitBlocks_break c (field ++ value ++ 0x0A :: 0x0A :: more) _ _ hc hsecond
  rw [List.append_assoc]
  exact splitBlocks_text first _ _ _ hfirst hbreak

theorem trim_ends (c d : CodeUnit) (s : JsString) (hc : isSpace c = false)
    (hd : isSpace d = false) : trim (c :: s ++ [d]) = c :: s ++ [d] := by
  have hstart : trimStart (c :: s ++ [d]) = c :: s ++ [d] :=
    List.dropWhile_cons_of_neg (by rw [hc]; exact Bool.false_ne_true)
  have hreverse : (c :: s ++ [d]).reverse = d :: (c :: s).reverse := List.reverse_concat
  have hend : ((c :: s ++ [d]).reverse).dropWhile isSpace = (c :: s ++ [d]).reverse := by
    rw [hreverse]
    exact List.dropWhile_cons_of_neg (by rw [hd]; exact Bool.false_ne_true)
  rw [trim, hstart, trimEnd, hend, List.reverse_reverse]

section Events
variable (hnumber : ∀ n : ν, Printed (JsNumber.text n))
include hnumber

theorem dataString_oneLine (event : SseCompletionEvent ν) : OneLine (dataString event.data) := by
  cases event with
  | payload type data =>
    intro c hc
    have hprinted := stringify_printed hnumber (.object data) c hc
    constructor
    · rintro rfl
      exact absurd hprinted (by decide)
    · rintro rfl
      exact absurd hprinted (by decide)
  | done =>
    change ∀ c ∈ js "[DONE]", c ≠ 0x0A ∧ c ≠ 0x0D
    exact each_of_all _ (by decide)

omit hnumber in
theorem dataString_trim (event : SseCompletionEvent ν) :
    trim (dataString event.data) = dataString event.data := by
  cases event with
  | payload type data =>
    change trim (stringify (.object data)) = stringify (.object data)
    rw [stringify]
    exact trim_ends _ _ _ rfl rfl
  | done => rfl

omit [JsNumber ν] hnumber in
theorem type_oneLine (event : SseCompletionEvent ν) : OneLine (js "event: " ++ event.type) := by
  cases event with
  | payload type data =>
    have hall : ∀ c ∈ js "event: " ++ type.name, c ≠ 0x0A ∧ c ≠ 0x0D := by
      cases type <;> exact each_of_all _ (by decide)
    exact hall
  | done =>
    change ∀ c ∈ js "event: " ++ js "done", c ≠ 0x0A ∧ c ≠ 0x0D
    exact each_of_all _ (by decide)

omit [JsNumber ν] hnumber in
theorem type_trim (event : SseCompletionEvent ν) : trim event.type = event.type := by
  cases event with
  | payload type data => cases type <;> rfl
  | done => rfl

def block (event : SseCompletionEvent ν) : JsString :=
  (js "event: " ++ event.type) ++ 0x0A :: 0x64 :: (js "ata: " ++ dataString event.data)

theorem dataLine_oneLine (event : SseCompletionEvent ν) :
    OneLine (js "ata: " ++ dataString event.data) :=
  oneLine_append _ _ (each_of_all (js "ata: ") (by decide))
    (dataString_oneLine hnumber event)

theorem splitBlocks_format (event : SseCompletionEvent ν) (more : JsString) :
    splitBlocks (formatSseEvent event ++ more) = block event :: splitBlocks more := by
  have hframe : formatSseEvent event ++ more = (js "event: " ++ event.type) ++
      0x0A :: 0x64 :: (js "ata: " ++ dataString event.data) ++ 0x0A :: 0x0A :: more := by
    have hfield : js "\ndata: " = 0x0A :: 0x64 :: js "ata: " := rfl
    have hend : js "\n\n" = [0x0A, 0x0A] := rfl
    rw [formatSseEvent, hfield, hend]
    simp only [List.append_assoc, List.cons_append, List.nil_append]
  rw [hframe]
  exact splitBlocks_frame _ _ _ more 0x64 (type_oneLine event) (by decide)
    (dataLine_oneLine hnumber event)

theorem splitBlocks_frames (events : List (SseCompletionEvent ν)) :
    splitBlocks (events.map formatSseEvent).flatten = events.map block ++ [[]] := by
  induction events with
  | nil => rfl
  | cons event rest ih =>
    rw [List.map_cons, List.flatten_cons, splitBlocks_format hnumber, ih]
    rfl

omit hnumber in
theorem block_filled (event : SseCompletionEvent ν) : trim (block event) ≠ [] := by
  intro h
  have hspace := (trim_eq_nil _).mp h 0x65 List.mem_cons_self
  exact absurd hspace (by decide)

theorem parseBlock_block (parseJson : JsString → Option (Json ν)) (event : SseCompletionEvent ν) :
    parseBlock parseJson (block event) =
      (event.type, (parseJson (dataString event.data)).getD (.string (dataString event.data))) := by
  have hlines : splitLines (block event) =
      [js "event: " ++ event.type, js "data: " ++ dataString event.data] :=
    splitLines_two _ _ (type_oneLine event)
      (List.forall_mem_cons.mpr ⟨by decide, dataLine_oneLine hnumber event⟩)
  have htype : readLine (js "message", []) (js "event: " ++ event.type) = (event.type, []) := by
    rw [readLine, if_pos ((startsWith_iff _ _).mpr (List.prefix_append _ _))]
    exact Prod.ext (type_trim event) rfl
  have hdata : readLine (event.type, []) (js "data: " ++ dataString event.data) =
      (event.type, dataString event.data) := by
    have hevent : startsWith (js "data: " ++ dataString event.data) (js "event: ") = false := rfl
    rw [readLine, hevent, if_neg Bool.false_ne_true,
      if_pos ((startsWith_iff _ _).mpr (List.prefix_append _ _))]
    exact Prod.ext rfl (dataString_trim event)
  have hread : [js "event: " ++ event.type, js "data: " ++ dataString event.data].foldl readLine
      (js "message", []) = (event.type, dataString event.data) := by
    rw [List.foldl_cons, htype, List.foldl_cons, hdata, List.foldl_nil]
  rw [parseBlock, hlines, hread]

/-- The frames of a list of events are read back as their types and payloads. -/
theorem frames_round_trip (parseJson : JsString → Option (Json ν))
    (events : List (SseCompletionEvent ν))
    (hparse : ∀ type data, .payload type data ∈ events →
      parseJson (stringify (.object data)) = some (.object data))
    (hsentinel : parseJson (js "[DONE]") = none) :
    parseSseEvents parseJson (events.map formatSseEvent).flatten =
      events.map fun event => (event.type, event.data) := by
  have hfilter : (events.map block ++ [[]]).filter (trim · ≠ []) = events.map block := by
    rw [List.filter_append]
    have hnone : [([] : JsString)].filter (trim · ≠ []) = [] := rfl
    rw [hnone, List.append_nil, List.filter_eq_self]
    intro b hb
    obtain ⟨event, -, rfl⟩ := List.mem_map.mp hb
    exact decide_eq_true (block_filled event)
  rw [parseSseEvents, splitBlocks_frames hnumber, hfilter, List.map_map]
  apply List.map_congr_left
  intro event hevent
  change parseBlock parseJson (block event) = _
  rw [parseBlock_block hnumber]
  cases event with
  | payload type data =>
    change (type.name, (parseJson (stringify (.object data))).getD _) = _
    rw [hparse type data hevent]
    rfl
  | done =>
    change (js "done", (parseJson (js "[DONE]")).getD _) = _
    rw [hsentinel]
    rfl

end Events

def samplePayload : List (JsString × Json ℤ) :=
  [(js "messageId", .string (js "m1")), (js "text", .string (js "a\n\ndata: \u2028"))]

def sampleParse (text : JsString) : Option (Json ℤ) :=
  if text = stringify (.object samplePayload) then some (.object samplePayload) else none

theorem natText_printed (n : ℕ) : Printed ((toString n).toList.flatMap fun c => utf16 c.toNat) := by
  intro unit hunit
  obtain ⟨c, hc, hunit⟩ := List.mem_flatMap.mp hunit
  rw [Nat.toString_eq_repr, Nat.toList_repr] at hc
  have hdigit := Nat.isDigit_of_mem_toDigits (by decide) (by decide) hc
  simp only [Char.isDigit, Bool.and_eq_true, decide_eq_true_eq, ge_iff_le, UInt32.le_iff_toNat_le]
    at hdigit
  have hlow : 0x30 ≤ c.toNat := hdigit.1
  have hhigh : c.toNat ≤ 0x39 := hdigit.2
  rw [utf16, if_pos (by omega), List.mem_singleton] at hunit
  rw [hunit, UInt16.le_iff_toNat_le, UInt16.toNat_ofNat', Nat.mod_eq_of_lt (by omega)]
  exact (by decide : (0x20 : ℕ) ≤ 0x30).trans hlow

theorem intText_printed (n : ℤ) : Printed (JsNumber.text n) := by
  cases n with
  | ofNat n => exact natText_printed n
  | negSucc n =>
    have htext : (JsNumber.text (Int.negSucc n) : JsString) =
        0x2D :: (toString (n + 1)).toList.flatMap fun c => utf16 c.toNat := by
      have hminus : toString (Int.negSucc n) = "-" ++ toString (n + 1) := rfl
      change js (toString (Int.negSucc n)) = _
      rw [hminus, js, String.toList_append]
      rfl
    rw [htext]
    exact printed_cons _ _ (by decide) (natText_printed (n + 1))

theorem frames_round_trip_token :
    parseSseEvents sampleParse
        ([SseCompletionEvent.payload .token samplePayload, .done].map formatSseEvent).flatten =
      [(js "token", .object samplePayload), (js "done", .string (js "[DONE]"))] := by
  refine frames_round_trip intText_printed sampleParse _ (fun type data h => ?_) rfl
  rcases List.mem_cons.mp h with h | h
  · cases h
    exact if_pos rfl
  · exact absurd (List.mem_singleton.mp h) (fun h => nomatch h)

end Glassbeetle.EventFrames
