import Glassbeetle.JsValue
import Glassbeetle.JsonText

set_option autoImplicit false

namespace Glassbeetle.JsonStringify
open JsText JsonText
open JsValue (Json JsNumber)

variable {ν : Type} [JsNumber ν]

mutual

def stringify : Json ν → JsString
  | .null => js "null"
  | .bool b => if b then js "true" else js "false"
  | .number n => JsNumber.text n
  | .string s => quote s
  | .array items => 0x5B :: join [0x2C] (itemTexts items) ++ [0x5D]
  | .object fields => 0x7B :: join [0x2C] (fieldTexts fields) ++ [0x7D]

def itemTexts : List (Json ν) → List JsString
  | [] => []
  | item :: rest => stringify item :: itemTexts rest

def fieldText : JsString × Json ν → JsString
  | (key, value) => quote key ++ 0x3A :: stringify value

def fieldTexts : List (JsString × Json ν) → List JsString
  | [] => []
  | field :: rest => fieldText field :: fieldTexts rest

end

def Printed (s : JsString) : Prop := ∀ c ∈ s, 0x20 ≤ c

theorem printed_append (s t : JsString) (hs : Printed s) (ht : Printed t) : Printed (s ++ t) :=
  fun c hc => (List.mem_append.mp hc).elim (hs c) (ht c)

theorem printed_cons (c : CodeUnit) (s : JsString) (hc : 0x20 ≤ c) (hs : Printed s) :
    Printed (c :: s) :=
  List.forall_mem_cons.mpr ⟨hc, hs⟩

theorem hexDigit_printed (n : ℕ) (h : n < 16) : 0x20 ≤ hexDigit n := by
  have all : ∀ m : Fin 16, 0x20 ≤ hexDigit m := by decide
  exact all ⟨n, h⟩

theorem quoteUnit_printed (c : CodeUnit) : Printed (quoteUnit c) := by
  unfold quoteUnit
  cases hletter : letters.find? (·.1 = c) with
  | some entry =>
    have hall : ∀ entry ∈ letters, 0x20 ≤ entry.2 := each_of_all _ (by decide)
    exact printed_cons _ _ (by decide)
      (printed_cons _ _ (hall entry (List.mem_of_find?_eq_some hletter)) (fun _ h => nomatch h))
  | none =>
    dsimp only
    split_ifs with h
    · have hlt : c.toNat < 65536 := c.toNat_lt
      refine printed_cons _ _ (by decide) (printed_cons _ _ (by decide) ?_)
      refine printed_cons _ _ (hexDigit_printed _ (by omega)) ?_
      refine printed_cons _ _ (hexDigit_printed _ (by omega)) ?_
      refine printed_cons _ _ (hexDigit_printed _ (by omega)) ?_
      exact printed_cons _ _ (hexDigit_printed _ (by omega)) (fun _ h => nomatch h)
    · simp only [Bool.or_eq_true, decide_eq_true_eq, not_or, UInt16.not_lt] at h
      exact printed_cons _ _ h.1.1 (fun _ h => nomatch h)

theorem quoteUnits_printed (s : JsString) : Printed (quoteUnits s) := by
  induction s using quoteUnits.induct with
  | case1 => exact List.forall_mem_nil _
  | case2 c => exact quoteUnit_printed c
  | case3 c d tail hpair ih =>
    obtain ⟨hhigh, hlow⟩ := Bool.and_eq_true_iff.mp hpair
    have hsurrogate : ∀ e : CodeUnit, isHigh e = true ∨ isLow e = true → 0x20 ≤ e := by
      intro e he
      simp only [isHigh, isLow, Bool.and_eq_true, decide_eq_true_eq, UInt16.le_iff_toNat_le,
        UInt16.reduceToNat] at he ⊢
      omega
    rw [quoteUnits, if_pos hpair]
    exact printed_cons _ _ (hsurrogate c (.inl hhigh))
      (printed_cons _ _ (hsurrogate d (.inr hlow)) ih)
  | case4 c d tail hpair ih =>
    rw [quoteUnits, if_neg hpair]
    exact printed_append _ _ (quoteUnit_printed c) ih

theorem quote_printed (s : JsString) : Printed (quote s) :=
  printed_append _ _ (printed_cons _ _ (by decide) (quoteUnits_printed s))
    (printed_cons _ _ (by decide) (List.forall_mem_nil _))

theorem join_printed (texts : List JsString) (h : ∀ text ∈ texts, Printed text) :
    Printed (join [0x2C] texts) := by
  intro c hc
  rcases mem_join [0x2C] texts c hc with hcomma | ⟨text, htext, hc⟩
  · rw [List.mem_singleton.mp hcomma]
    decide
  · exact h text htext c hc

mutual

theorem stringify_printed (hnumber : ∀ n : ν, Printed (JsNumber.text n)) :
    (value : Json ν) → Printed (stringify value)
  | .null => by rw [stringify]; exact each_of_all _ (by decide)
  | .bool true => by rw [stringify]; exact each_of_all _ (by decide)
  | .bool false => by rw [stringify]; exact each_of_all _ (by decide)
  | .number n => by rw [stringify]; exact hnumber n
  | .string s => by rw [stringify]; exact quote_printed s
  | .array items => by
    rw [stringify]
    exact printed_append _ _ (printed_cons _ _ (by decide)
      (join_printed _ (itemTexts_printed hnumber items))) (each_of_all _ (by decide))
  | .object fields => by
    rw [stringify]
    exact printed_append _ _ (printed_cons _ _ (by decide)
      (join_printed _ (fieldTexts_printed hnumber fields))) (each_of_all _ (by decide))

theorem itemTexts_printed (hnumber : ∀ n : ν, Printed (JsNumber.text n)) :
    (items : List (Json ν)) → ∀ text ∈ itemTexts items, Printed text
  | [] => by rw [itemTexts]; exact fun _ h => nomatch h
  | item :: rest => by
    rw [itemTexts]
    exact List.forall_mem_cons.mpr
      ⟨stringify_printed hnumber item, itemTexts_printed hnumber rest⟩

theorem fieldText_printed (hnumber : ∀ n : ν, Printed (JsNumber.text n)) :
    (field : JsString × Json ν) → Printed (fieldText field)
  | (key, value) => by
    rw [fieldText]
    exact printed_append _ _ (quote_printed key)
      (printed_cons _ _ (by decide) (stringify_printed hnumber value))

theorem fieldTexts_printed (hnumber : ∀ n : ν, Printed (JsNumber.text n)) :
    (fields : List (JsString × Json ν)) → ∀ text ∈ fieldTexts fields, Printed text
  | [] => by rw [fieldTexts]; exact fun _ h => nomatch h
  | field :: rest => by
    rw [fieldTexts]
    exact List.forall_mem_cons.mpr
      ⟨fieldText_printed hnumber field, fieldTexts_printed hnumber rest⟩

end

end Glassbeetle.JsonStringify
