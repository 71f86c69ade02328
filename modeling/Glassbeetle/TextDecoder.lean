import Glassbeetle.Utf8

set_option autoImplicit false

/-!
# `TextDecoder` in stream mode

Invalid sequences are replaced and a byte order mark at the very start is left
out. What a decoder holds back between two calls is its state.
-/
namespace Glassbeetle.TextDecoder
open JsText

structure Decoder where
  pending : Option Utf8.Pending
  bomSeen : Bool
  deriving DecidableEq

def fresh : Decoder := ⟨none, false⟩

/-- An octet that does not continue the sequence under way is read again as a first one. -/
def points (pending : Option Utf8.Pending) (octet : ℕ) : List ℕ × Option Utf8.Pending :=
  match Utf8.read pending octet, pending with
  | .point p, _ => ([p], none)
  | .more q, _ => ([], some q)
  | .invalid, none => ([0xFFFD], none)
  | .invalid, some _ =>
    match Utf8.lead octet with
    | .point p => ([0xFFFD, p], none)
    | .more q => ([0xFFFD], some q)
    | .invalid => ([0xFFFD, 0xFFFD], none)

def step (d : Decoder) (octet : UInt8) : JsString × Decoder :=
  match points d.pending octet.toNat with
  | ([], pending) => ([], { d with pending := pending })
  | (p :: rest, pending) =>
    ((if p = 0xFEFF ∧ ¬d.bomSeen then rest else p :: rest).flatMap utf16, ⟨pending, true⟩)

def decode (d : Decoder) : List UInt8 → JsString × Decoder
  | [] => ([], d)
  | octet :: rest =>
    let (text, d) := step d octet
    let (more, d) := decode d rest
    (text ++ more, d)

def texts (d : Decoder) : List (List UInt8) → List JsString
  | [] => []
  | octets :: rest => (decode d octets).1 :: texts (decode d octets).2 rest

theorem decode_append (d : Decoder) (octets more : List UInt8) :
    decode d (octets ++ more) =
      ((decode d octets).1 ++ (decode (decode d octets).2 more).1,
        (decode (decode d octets).2 more).2) := by
  induction octets generalizing d with
  | nil => rfl
  | cons octet rest ih => simp only [List.cons_append, decode, ih, List.append_assoc]

theorem texts_flatten (d : Decoder) (reads : List (List UInt8)) :
    (texts d reads).flatten = (decode d reads.flatten).1 := by
  induction reads generalizing d with
  | nil => rfl
  | cons octets rest ih => rw [texts, List.flatten_cons, ih, List.flatten_cons, decode_append]

end Glassbeetle.TextDecoder
