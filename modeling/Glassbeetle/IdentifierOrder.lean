import Mathlib.Algebra.Ring.Nat
import Glassbeetle.Identifiers
import Glassbeetle.ListOrder

set_option autoImplicit false

namespace Glassbeetle.IdentifierOrder
open JsText Identifiers ListOrder

def lowerHex : JsString := js "0123456789abcdef"

/-- Groups of 8, 4, 4, 4 and 12 lower-case hexadecimal digits, with the version and the variant. -/
structure Canonical (id : JsString) (groups : List JsString) : Prop where
  text : id = join (js "-") groups
  lengths : groups.map List.length = [8, 4, 4, 4, 12]
  digits : ∀ group ∈ groups, ∀ c ∈ group, c ∈ lowerHex
  version : (groups[2]?.bind List.head?) = some 0x37
  variant : ∃ c ∈ js "89ab", (groups[3]?.bind List.head?) = some c

def fromHex (n : ℕ) (digits : JsString) : ℕ :=
  digits.foldl (fun n c => 16 * n + (hexValue c).getD 0) n

def timestampOf (id : JsString) : ℕ := fromHex 0 ((id.filter (· ≠ 0x2D)).take 12)

theorem lowByte_toNat (timestamp : ℕ) : (lowByte timestamp).toNat = timestamp % 256 := by
  have hmask : (BitVec.ofNat 32 timestamp &&& 0xFF#32).toNat = timestamp % 256 := by
    rw [BitVec.toNat_and, BitVec.toNat_ofNat]
    change timestamp % 2 ^ 32 &&& 2 ^ 8 - 1 = _
    rw [Nat.and_two_pow_sub_one_eq_mod]
    omega
  rw [lowByte, hmask, UInt8.toNat_ofNat_of_lt']
  exact Nat.mod_lt timestamp (by decide)

theorem timestampBytes_length (count timestamp : ℕ) :
    (timestampBytes count timestamp).length = count := by
  induction count generalizing timestamp with
  | zero => rfl
  | succ count ih => rw [timestampBytes, List.length_append, ih, List.length_singleton]

theorem timestampBytes_lt (count a b : ℕ) (h : a < b) (hb : b < 256 ^ count) :
    timestampBytes count a < timestampBytes count b := by
  induction count generalizing a b with
  | zero => omega
  | succ count ih =>
    rw [timestampBytes, timestampBytes]
    by_cases hhigh : a / 256 = b / 256
    · rw [hhigh]
      apply List.append_left_lt
      apply List.Lex.rel
      rw [UInt8.lt_iff_toNat_lt, lowByte_toNat, lowByte_toNat]
      omega
    · have hlower : a / 256 < b / 256 := by omega
      have hroom : b / 256 < 256 ^ count := by
        rw [pow_succ] at hb
        exact Nat.div_lt_of_lt_mul (by rwa [Nat.mul_comm])
      apply append_lt
      · rw [timestampBytes_length, timestampBytes_length]
      · exact ih _ _ hlower hroom

theorem hexDigit_lt (m n : ℕ) (h : m < n) (hn : n < 16) : hexDigit m < hexDigit n := by
  have all : ∀ n : Fin 16, ∀ m : Fin 16, m < n → hexDigit m < hexDigit n := by decide
  exact all ⟨n, hn⟩ ⟨m, by omega⟩ h

theorem hexDigit_lowerHex (n : ℕ) (h : n < 16) : hexDigit n ∈ lowerHex := by
  have all : ∀ n : Fin 16, hexDigit n ∈ lowerHex := by decide
  exact all ⟨n, h⟩

theorem byteHex_lt (a b : UInt8) (h : a < b) : byteHex a < byteHex b := by
  have hlt := UInt8.lt_iff_toNat_lt.mp h
  have hb := b.toNat_lt
  apply pair_lt
  by_cases hhigh : a.toNat / 16 = b.toNat / 16
  · refine .inr ⟨congrArg hexDigit hhigh, ?_⟩
    exact hexDigit_lt _ _ (by omega) (by omega)
  · exact .inl (hexDigit_lt _ _ (by omega) (by omega))

theorem byteHex_lowerHex (byte : UInt8) : ∀ c ∈ byteHex byte, c ∈ lowerHex := by
  have hb := byte.toNat_lt
  intro c hc
  rcases List.mem_cons.mp hc with rfl | hc
  · exact hexDigit_lowerHex _ (by omega)
  · obtain rfl := List.mem_singleton.mp hc
    exact hexDigit_lowerHex _ (by omega)

theorem fromHex_byteHex (n : ℕ) (byte : UInt8) :
    fromHex n (byteHex byte) = 256 * n + byte.toNat := by
  have hb := byte.toNat_lt
  change 16 * (16 * n + (hexValue (hexDigit (byte.toNat / 16))).getD 0) +
    (hexValue (hexDigit (byte.toNat % 16))).getD 0 = _
  rw [hexValue_hexDigit _ (by omega), hexValue_hexDigit _ (by omega), Option.getD_some,
    Option.getD_some]
  omega

theorem fromHex_timestampBytes (count timestamp : ℕ) (h : timestamp < 256 ^ count) :
    fromHex 0 ((timestampBytes count timestamp).flatMap byteHex) = timestamp := by
  induction count generalizing timestamp with
  | zero => exact (Nat.lt_one_iff.mp h).symm
  | succ count ih =>
    have hroom : timestamp / 256 < 256 ^ count := by
      rw [pow_succ] at h
      exact Nat.div_lt_of_lt_mul (by rwa [Nat.mul_comm])
    rw [timestampBytes, List.flatMap_append, List.flatMap_singleton]
    unfold fromHex
    rw [List.foldl_append]
    change fromHex (fromHex 0 _) _ = _
    rw [ih _ hroom, fromHex_byteHex, lowByte_toNat]
    omega

theorem flatMap_byteHex_length (bytes : List UInt8) :
    (bytes.flatMap byteHex).length = 2 * bytes.length := by
  induction bytes with
  | nil => rfl
  | cons byte rest ih =>
    rw [List.flatMap_cons, List.length_append, ih, List.length_cons]
    change 2 + _ = _
    omega

section Slices
variable (s u : JsString) (start stop : ℕ)

theorem slice_length : (slice s start stop).length = min stop s.length - start := by
  rw [slice, List.length_drop, List.length_take]

theorem slice_append_left (h : stop ≤ s.length) : slice (s ++ u) start stop = slice s start stop := by
  rw [slice, slice, List.take_append_of_le_length h]

theorem slice_append_right : slice (s ++ u) (s.length + start) (s.length + stop) = slice u start stop := by
  rw [slice, slice, List.take_length_add_append, List.drop_length_add_append]

theorem slice_slice (middle : ℕ) (hstart : start ≤ middle) (hstop : middle ≤ stop)
    (hlength : middle ≤ s.length) :
    slice s start middle ++ slice s middle stop = slice s start stop := by
  have hcut := List.take_append_drop middle (s.take stop)
  rw [List.take_take, Nat.min_eq_left hstop] at hcut
  have hdrop := congrArg (List.drop start) hcut
  rw [List.drop_append_of_le_length (by rw [List.length_take]; omega)] at hdrop
  exact hdrop

theorem slice_head (h : start < stop) : (slice s start stop).head? = s[start]? := by
  rw [slice, List.head?_drop, List.getElem?_take_of_lt h]

end Slices

/-- The groups that `formatUuid` cuts the digits into. -/
def groupsOf (hex : JsString) : List JsString :=
  [slice hex 0 8, slice hex 8 12, slice hex 12 16, slice hex 16 20, slice hex 20 32]

theorem join_five (a b c d e : JsString) : join (js "-") [a, b, c, d, e] =
    a ++ (js "-" ++ (b ++ (js "-" ++ (c ++ (js "-" ++ (d ++ (js "-" ++ e))))))) := by
  simp [join, List.intercalate, List.intersperse]

def afterTimestamp (hex : JsString) : JsString :=
  js "-" ++ (slice hex 0 4 ++ (js "-" ++ (slice hex 4 8 ++ (js "-" ++ slice hex 8 20))))

/-- The digits of the first six bytes stand before the third group, with one hyphen among them. -/
theorem formatUuid_append (front back : List UInt8) (h : front.length = 6) :
    formatUuid (front ++ back) =
      (front.flatMap byteHex).take 8 ++
        (js "-" ++ ((front.flatMap byteHex).drop 8 ++ afterTimestamp (back.flatMap byteHex))) := by
  have hlength : (front.flatMap byteHex).length = 12 := by rw [flatMap_byteHex_length, h]
  have hright := slice_append_right (front.flatMap byteHex) (back.flatMap byteHex)
  rw [hlength] at hright
  have hgroups : groupsOf ((front ++ back).flatMap byteHex) =
      groupsOf (front.flatMap byteHex ++ back.flatMap byteHex) := by rw [List.flatMap_append]
  change join (js "-") (groupsOf ((front ++ back).flatMap byteHex)) = _
  rw [hgroups, groupsOf, join_five, hright 0 4, hright 4 8, hright 8 20]
  rw [slice_append_left _ _ _ _ (by omega), slice_append_left _ _ _ _ (by omega)]
  congr 3
  rw [slice, List.take_of_length_le (by omega)]

def withVersion (b : UInt8) : UInt8 := (b &&& 0x0F) ||| 0x70

def withVariant (b : UInt8) : UInt8 := (b &&& 0x3F) ||| 0x80

def randomBytes (random : Fin 10 → UInt8) : List UInt8 :=
  [withVersion (random 0), random 1, withVariant (random 2)] ++ (List.ofFn random).drop 3

theorem newId_bytes (timestamp : ℕ) (random : Fin 10 → UInt8) :
    newId timestamp random = formatUuid (timestampBytes 6 timestamp ++ randomBytes random) := rfl

theorem randomBytes_length (random : Fin 10 → UInt8) : (randomBytes random).length = 10 := rfl

theorem version_digit (b : UInt8) : (withVersion b).toNat / 16 = 7 := by
  have all : ∀ n : Fin 256, (withVersion (UInt8.ofNat n)).toNat / 16 = 7 := by decide +kernel
  have h := all ⟨b.toNat, b.toNat_lt⟩
  rwa [UInt8.ofNat_toNat] at h

theorem variant_digit (b : UInt8) : hexDigit ((withVariant b).toNat / 16) ∈ js "89ab" := by
  have all : ∀ n : Fin 256, hexDigit ((withVariant (UInt8.ofNat n)).toNat / 16) ∈ js "89ab" := by
    decide +kernel
  have h := all ⟨b.toNat, b.toNat_lt⟩
  rwa [UInt8.ofNat_toNat] at h

theorem newId_later (a b : ℕ) (h : a < b) (hb : b < 2 ^ 48) (random random' : Fin 10 → UInt8) :
    newId a random < newId b random' := by
  have hbytes := timestampBytes_lt 6 a b h hb
  have hlength : (timestampBytes 6 a).length = (timestampBytes 6 b).length := by
    rw [timestampBytes_length, timestampBytes_length]
  rw [newId_bytes, newId_bytes, formatUuid_append _ _ (timestampBytes_length 6 a),
    formatUuid_append _ _ (timestampBytes_length 6 b)]
  apply insert_lt
  · rw [flatMap_byteHex_length, flatMap_byteHex_length, hlength]
  · exact flatMap_lt byteHex (fun _ _ => rfl) byteHex_lt _ _ hlength hbytes

def hexOf (timestamp : ℕ) (random : Fin 10 → UInt8) : JsString :=
  (timestampBytes 6 timestamp ++ randomBytes random).flatMap byteHex

theorem hexOf_length (timestamp : ℕ) (random : Fin 10 → UInt8) :
    (hexOf timestamp random).length = 32 := by
  rw [hexOf, flatMap_byteHex_length, List.length_append, timestampBytes_length, randomBytes_length]

theorem hexOf_random (timestamp : ℕ) (random : Fin 10 → UInt8) (i : ℕ) :
    (hexOf timestamp random)[12 + i]? = ((randomBytes random).flatMap byteHex)[i]? := by
  have hlength : ((timestampBytes 6 timestamp).flatMap byteHex).length = 12 := by
    rw [flatMap_byteHex_length, timestampBytes_length]
  rw [hexOf, List.flatMap_append, List.getElem?_append_right (by omega), hlength,
    Nat.add_sub_cancel_left]

theorem newId_canonical (timestamp : ℕ) (random : Fin 10 → UInt8) :
    Canonical (newId timestamp random) (groupsOf (hexOf timestamp random)) where
  text := rfl
  lengths := by
    simp only [groupsOf, List.map_cons, List.map_nil, slice_length, hexOf_length]
    rfl
  digits := by
    intro group hgroup c hc
    have hhex : c ∈ hexOf timestamp random := by
      simp only [groupsOf, List.mem_cons, List.not_mem_nil, or_false] at hgroup
      rcases hgroup with rfl | rfl | rfl | rfl | rfl <;>
        exact List.mem_of_mem_take (List.mem_of_mem_drop hc)
    obtain ⟨byte, _, hbyte⟩ := List.mem_flatMap.mp hhex
    exact byteHex_lowerHex byte c hbyte
  version := by
    change (slice (hexOf timestamp random) 12 16).head? = _
    rw [slice_head _ _ _ (by decide), hexOf_random timestamp random 0]
    change some (hexDigit ((withVersion (random 0)).toNat / 16)) = _
    rw [version_digit]
    rfl
  variant := by
    refine ⟨_, variant_digit (random 2), ?_⟩
    change (slice (hexOf timestamp random) 16 20).head? = _
    rw [slice_head _ _ _ (by decide), hexOf_random timestamp random 4]
    rfl

theorem lowerHex_filter (s : JsString) (h : ∀ c ∈ s, c ∈ lowerHex) : s.filter (· ≠ 0x2D) = s := by
  have hdigits := each_of_all (p := fun c => c ≠ 0x2D) lowerHex (by decide)
  rw [List.filter_eq_self]
  intro c hc
  exact decide_eq_true (hdigits c (h c hc))

theorem newId_filter (timestamp : ℕ) (random : Fin 10 → UInt8) :
    (newId timestamp random).filter (· ≠ 0x2D) = hexOf timestamp random := by
  have hlength := hexOf_length timestamp random
  have hgroups : ∀ group ∈ groupsOf (hexOf timestamp random), group.filter (· ≠ 0x2D) = group := by
    intro group hgroup
    exact lowerHex_filter group ((newId_canonical timestamp random).digits group hgroup)
  simp only [groupsOf, List.forall_mem_cons] at hgroups
  obtain ⟨h₁, h₂, h₃, h₄, h₅, -⟩ := hgroups
  have hhyphen : (js "-").filter (· ≠ 0x2D) = [] := by decide
  rw [(newId_canonical timestamp random).text, groupsOf, join_five]
  simp only [List.filter_append, h₁, h₂, h₃, h₄, h₅, hhyphen, List.nil_append]
  rw [slice_slice _ 16 32 20 (by decide) (by decide) (by omega),
    slice_slice _ 12 32 16 (by decide) (by decide) (by omega),
    slice_slice _ 8 32 12 (by decide) (by decide) (by omega),
    slice_slice _ 0 32 8 (by decide) (by decide) (by omega), slice, List.drop_zero,
    List.take_of_length_le (by omega)]

theorem timestampOf_newId (timestamp : ℕ) (h : timestamp < 2 ^ 48) (random : Fin 10 → UInt8) :
    timestampOf (newId timestamp random) = timestamp := by
  have hlength : ((timestampBytes 6 timestamp).flatMap byteHex).length = 12 := by
    rw [flatMap_byteHex_length, timestampBytes_length]
  rw [timestampOf, newId_filter, hexOf, List.flatMap_append, List.take_left' hlength]
  exact fromHex_timestampBytes 6 timestamp h

/-- Later identifiers are greater as texts, whatever is drawn; and each is canonical and tells its
timestamp. -/
theorem identifiers_sort :
    (∀ a b : ℕ, a < b → b < 2 ^ 48 → ∀ random random', newId a random < newId b random') ∧
    ∀ timestamp < 2 ^ 48, ∀ random, timestampOf (newId timestamp random) = timestamp ∧
      ∃ groups, Canonical (newId timestamp random) groups := by
  constructor
  · intro a b h hb random random'
    exact newId_later a b h hb random random'
  · intro timestamp h random
    exact ⟨timestampOf_newId timestamp h random, _, newId_canonical timestamp random⟩

theorem identifiers_sort_wide :
    newId (2 ^ 32 - 1) (fun _ => 255) < newId (2 ^ 32) (fun _ => 0) ∧
      timestampOf (newId (2 ^ 32) fun _ => 0) = 2 ^ 32 :=
  ⟨identifiers_sort.1 _ _ (by decide) (by decide) _ _, (identifiers_sort.2 _ (by decide) _).1⟩

end Glassbeetle.IdentifierOrder
