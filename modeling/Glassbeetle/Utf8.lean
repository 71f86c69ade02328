import Glassbeetle.JsText

set_option autoImplicit false

/-!
# UTF-8, one octet at a time

The decoder of the Encoding standard without its error policy: callers choose
between refusing and replacing an invalid octet.
-/
namespace Glassbeetle.Utf8
open JsText

structure Pending where
  needed : ℕ
  lower : ℕ
  upper : ℕ
  point : ℕ
  high : 0x80 ≤ lower
  deriving DecidableEq

inductive Outcome where
  | point (p : ℕ)
  | more (q : Pending)
  | invalid
  deriving DecidableEq

def lead (b : ℕ) : Outcome :=
  if b < 0x80 then .point b
  else if b < 0xC2 then .invalid
  else if b < 0xE0 then .more ⟨1, 0x80, 0xBF, b - 0xC0, by decide⟩
  else if b < 0xF0 then
    .more ⟨2, if b = 0xE0 then 0xA0 else 0x80, if b = 0xED then 0x9F else 0xBF, b - 0xE0,
      by split <;> decide⟩
  else if b < 0xF5 then
    .more ⟨3, if b = 0xF0 then 0x90 else 0x80, if b = 0xF4 then 0x8F else 0xBF, b - 0xF0,
      by split <;> decide⟩
  else .invalid

def next (q : Pending) (b : ℕ) : Outcome :=
  if q.lower ≤ b ∧ b ≤ q.upper then
    if q.needed ≤ 1 then .point (q.point * 0x40 + (b - 0x80))
    else .more ⟨q.needed - 1, 0x80, 0xBF, q.point * 0x40 + (b - 0x80), by decide⟩
  else .invalid

def read : Option Pending → ℕ → Outcome
  | none, b => lead b
  | some q, b => next q b

theorem lead_ascii (b : ℕ) (h : b < 0x80) : lead b = .point b := if_pos h

theorem next_ascii (q : Pending) (b : ℕ) (h : b < 0x80) : next q b = .invalid := by
  have := q.high
  exact if_neg (by omega)

theorem lead_point (b p : ℕ) (h : lead b = .point p) : p = b ∧ b < 0x80 := by
  unfold lead at h
  split_ifs at h with hb
  exact ⟨by cases h; rfl, hb⟩

end Glassbeetle.Utf8
