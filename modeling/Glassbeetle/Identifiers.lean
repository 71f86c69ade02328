import Glassbeetle.JsText

set_option autoImplicit false

/-!
# Resource identifiers

UUIDv7: six bytes of timestamp, then ten random ones with the version and the
variant written over them.
-/
namespace Glassbeetle.Identifiers
open JsText

/-- `timestamp & 0xff`, which masks the timestamp as a 32-bit integer. -/
def lowByte (timestamp : ℕ) : UInt8 :=
  UInt8.ofNat (BitVec.ofNat 32 timestamp &&& 0xFF#32).toNat

/-- The loop of `newId` fills the bytes from the last one down. -/
def timestampBytes : ℕ → ℕ → List UInt8
  | 0, _ => []
  | count + 1, timestamp => timestampBytes count (timestamp / 256) ++ [lowByte timestamp]

/-- `byte.toString(16).padStart(2, '0')`. -/
def byteHex (byte : UInt8) : JsString := [hexDigit (byte.toNat / 16), hexDigit (byte.toNat % 16)]

def slice (s : JsString) (start stop : ℕ) : JsString := (s.take stop).drop start

def formatUuid (bytes : List UInt8) : JsString :=
  let hex := bytes.flatMap byteHex
  join (js "-") [slice hex 0 8, slice hex 8 12, slice hex 12 16, slice hex 16 20, slice hex 20 32]

/-- `newId` at a millisecond of the clock, with the ten bytes `randomFillSync` draws. -/
def newId (timestamp : ℕ) (random : Fin 10 → UInt8) : JsString :=
  let bytes := timestampBytes 6 timestamp ++ List.ofFn random
  let bytes := bytes.modify 6 fun b => (b &&& 0x0F) ||| 0x70
  let bytes := bytes.modify 8 fun b => (b &&& 0x3F) ||| 0x80
  formatUuid bytes

def UuidUnit (c : CodeUnit) : Prop :=
  c = 0x2D ∨ (0x30 ≤ c ∧ c ≤ 0x39) ∨ (0x61 ≤ c ∧ c ≤ 0x66)

instance (c : CodeUnit) : Decidable (UuidUnit c) := inferInstanceAs (Decidable (_ ∨ _ ∨ _))

theorem hexDigit_unit (n : ℕ) (h : n < 16) : UuidUnit (hexDigit n) := by
  have all : ∀ m : Fin 16, UuidUnit (hexDigit m) := by decide
  exact all ⟨n, h⟩

theorem byteHex_units (byte : UInt8) : ∀ c ∈ byteHex byte, UuidUnit c := by
  have hb : byte.toNat < 256 := byte.toNat_lt
  intro c hc
  rcases List.mem_cons.mp hc with rfl | hc
  · exact hexDigit_unit _ (by omega)
  · obtain rfl := List.mem_singleton.mp hc
    exact hexDigit_unit _ (by omega)

theorem formatUuid_units (bytes : List UInt8) : ∀ c ∈ formatUuid bytes, UuidUnit c := by
  intro c hc
  rcases mem_join _ _ _ hc with hc | ⟨part, hp, hc⟩
  · exact .inl (by simpa [js, utf16] using hc)
  · have hm : c ∈ bytes.flatMap byteHex := by
      simp only [List.mem_cons, List.not_mem_nil, or_false] at hp
      rcases hp with rfl | rfl | rfl | rfl | rfl <;>
        exact List.mem_of_mem_take (List.mem_of_mem_drop hc)
    obtain ⟨byte, _, hb⟩ := List.mem_flatMap.mp hm
    exact byteHex_units byte c hb

theorem newId_units (timestamp : ℕ) (random : Fin 10 → UInt8) :
    ∀ c ∈ newId timestamp random, UuidUnit c := formatUuid_units _

end Glassbeetle.Identifiers
