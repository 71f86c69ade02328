import Glassbeetle.JsText

set_option autoImplicit false

/-!
# JSON values in ECMAScript

`Value` is what an expression over a parsed document yields: a JSON value, or
`none` for `undefined`. Numbers stay abstract; the operations the program
performs on them are a class.
-/
namespace Glassbeetle.JsValue
open JsText

inductive Json (ν : Type) where
  | null
  | bool (b : Bool)
  | number (n : ν)
  | string (s : JsString)
  | array (items : List (Json ν))
  | object (fields : List (JsString × Json ν))

abbrev Value (ν : Type) := Option (Json ν)

class JsNumber (ν : Type) where
  /-- Neither zero nor `NaN`. -/
  nonzero : ν → Bool
  add : ν → ν → ν
  text : ν → JsString
  ofNat : ℕ → ν
  /-- `===` with a literal. -/
  isNat : ν → ℕ → Bool

instance : JsNumber ℤ where
  nonzero n := n ≠ 0
  add := (· + ·)
  text := decimal
  ofNat n := n
  isNat n k := n = k

/-- What the language itself throws. -/
inductive TypeError where
  | cannotRead (key : JsString)
  | notFunction (key : JsString)
  | notIterable
  | notPrimitive
  deriving DecidableEq, Repr

structure Runtime (ν : Type) where
  /-- Nothing for a text that `JSON.parse` rejects. -/
  parseJson : JsString → Option (Json ν)
  toLowerCase : JsString → JsString
  /-- The message of the exception. -/
  describe : TypeError → JsString

variable {ν : Type}

def truthy [JsNumber ν] : Value ν → Bool
  | none | some .null => false
  | some (.bool b) => b
  | some (.number n) => JsNumber.nonzero n
  | some (.string s) => s ≠ []
  | some (.array _) | some (.object _) => true

/-- `a || b` -/
def orElse [JsNumber ν] (a b : Value ν) : Value ν := if truthy a then a else b

/-- `a ?? b` -/
def coalesce (a b : Value ν) : Value ν :=
  match a with
  | none | some .null => b
  | other => other

/-- `value.key`, for a key that no built-in prototype has. -/
def get (value : Value ν) (key : String) : Except TypeError (Value ν) :=
  match value with
  | none | some .null => .error (.cannotRead (js key))
  | some (.object fields) => .ok (fields.lookup (js key))
  | some _ => .ok none

/-- `value?.key` -/
def optional (value : Value ν) (key : String) : Value ν :=
  match value with
  | some (.object fields) => fields.lookup (js key)
  | _ => none

def asString : Value ν → Option JsString
  | some (.string s) => some s
  | _ => none

def asNumber : Value ν → Option ν
  | some (.number n) => some n
  | _ => none

def asArray : Value ν → Option (List (Json ν))
  | some (.array items) => some items
  | _ => none

/-- A string iterates by code points. -/
def codePoints : JsString → List JsString
  | [] => []
  | [c] => [[c]]
  | c :: d :: rest =>
    if isHigh c && isLow d then [c, d] :: codePoints rest else [c] :: codePoints (d :: rest)

mutual

/-- `String(value)`. An object with a `toString` of its own cannot be converted, since no document
holds functions. -/
def toText [JsNumber ν] : Json ν → Except TypeError JsString
  | .null => .ok (js "null")
  | .bool b => .ok (if b then js "true" else js "false")
  | .number n => .ok (JsNumber.text n)
  | .string s => .ok s
  | .array items => (itemTexts items).map (join (js ","))
  | .object fields =>
    if (fields.lookup (js "toString")).isSome then .error .notPrimitive
    else .ok (js "[object Object]")

def itemTexts [JsNumber ν] : List (Json ν) → Except TypeError (List JsString)
  | [] => .ok []
  | .null :: rest => (itemTexts rest).map ([] :: ·)
  | item :: rest => do return (← toText item) :: (← itemTexts rest)

end

/-- `${value}` -/
def template [JsNumber ν] : Value ν → Except TypeError JsString
  | none => .ok (js "undefined")
  | some json => toText json

/-- The number that a primitive other than a string converts to. -/
def toNumber [JsNumber ν] : Json ν → Option ν
  | .null => some (JsNumber.ofNat 0)
  | .bool b => some (JsNumber.ofNat b.toNat)
  | .number n => some n
  | _ => none

/-- `a + b`, a concatenation unless both are numbers. -/
def plus [JsNumber ν] (a b : Json ν) : Except TypeError (Json ν) :=
  match toNumber a, toNumber b with
  | some m, some n => .ok (.number (JsNumber.add m n))
  | _, _ => do return .string ((← toText a) ++ (← toText b))

/-- `value === text` -/
def isString (s : JsString) : Json ν → Bool
  | .string t => s = t
  | _ => false

def isText (value : Value ν) (text : String) : Bool := value.any (isString (js text))

/-- `value === n` -/
def isCount [JsNumber ν] (value : Value ν) (n : ℕ) : Bool :=
  match value with
  | some (.number m) => JsNumber.isNat m n
  | _ => false

/-- `value.includes(text)`, which arrays have too. -/
def valueIncludes (value : Json ν) (text : String) : Except TypeError Bool :=
  match value with
  | .string s => .ok (includes s (js text))
  | .array items => .ok (items.any (isString (js text)))
  | _ => .error (.notFunction (js "includes"))

/-- `value?.[0]` -/
def first (value : Value ν) : Value ν :=
  match value with
  | some (.array items) => items.head?
  | some (.string s) => s.head?.map fun c => .string [c]
  | some (.object fields) => fields.lookup (js "0")
  | _ => none

/-- `for (const item of value)` -/
def iterate : Value ν → Except TypeError (List (Json ν))
  | some (.array items) => .ok items
  | some (.string s) => .ok ((codePoints s).map .string)
  | _ => .error .notIterable

end Glassbeetle.JsValue
