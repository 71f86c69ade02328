import Mathlib.Data.Nat.Notation
import Glassbeetle.AsyncGenerator

set_option autoImplicit false

namespace Glassbeetle.Schedules
open AsyncGenerator

inductive Schedule (τ κ : Type) where
  | finish
  | turn (t : τ) (next : κ → Schedule τ κ)

variable {τ κ : Type}

inductive Path : Schedule τ κ → List (τ × κ) → Schedule τ κ → Prop where
  | nil (s : Schedule τ κ) : Path s [] s
  | cons (t : τ) (next : κ → Schedule τ κ) (reply : κ) (turns : List (τ × κ)) (left : Schedule τ κ)
      (tail : Path (next reply) turns left) : Path (.turn t next) ((t, reply) :: turns) left

theorem Path.snoc {s : Schedule τ κ} {turns : List (τ × κ)} {t : τ} {next : κ → Schedule τ κ}
    (h : Path s turns (.turn t next)) (reply : κ) : Path s (turns ++ [(t, reply)]) (next reply) := by
  generalize hleft : Schedule.turn t next = left at h
  induction h with
  | nil s =>
    subst hleft
    exact .cons t next reply [] _ (.nil _)
  | cons t' next' reply' turns left tail ih => exact .cons t' next' reply' _ _ (ih hleft)

section Bounds

/-- No more than `n` turns. -/
def Within : ℕ → Schedule τ κ → Prop
  | _, .finish => True
  | 0, .turn _ _ => False
  | n + 1, .turn _ next => ∀ reply, Within n (next reply)

theorem within_finish (n : ℕ) : Within n (.finish : Schedule τ κ) := by
  cases n with
  | zero => exact trivial
  | succ n => exact trivial

theorem path_length (n : ℕ) (s left : Schedule τ κ) (turns : List (τ × κ)) (h : Path s turns left)
    (hs : Within n s) : turns.length ≤ n := by
  induction h generalizing n with
  | nil s => exact Nat.zero_le n
  | cons t next reply turns left tail ih =>
    cases n with
    | zero => exact absurd hs id
    | succ n =>
      have hrest := ih n (hs reply)
      rw [List.length_cons]
      omega

/-- Every turn is as `p` says. -/
def Every (p : τ → Prop) : Schedule τ κ → Prop
  | .finish => True
  | .turn t next => p t ∧ ∀ reply, Every p (next reply)

theorem path_every (p : τ → Prop) (s left : Schedule τ κ) (turns : List (τ × κ))
    (h : Path s turns left) (hs : Every p s) : ∀ turn ∈ turns, p turn.1 := by
  induction h with
  | nil s => exact fun _ hin => absurd hin List.not_mem_nil
  | cons t next reply turns left tail ih =>
    intro turn hin
    obtain rfl | hin := List.mem_cons.mp hin
    · exact hs.1
    · exact ih (hs.2 reply) turn hin

end Bounds

section Readings

def Settled (read : κ → κ) : Schedule τ κ → List κ → Prop
  | .turn _ next, reply :: replies => next (read reply) = next reply ∧ Settled read (next reply) replies
  | .finish, _ => True
  | .turn _ _, [] => True

theorem settled_cons (read : κ → κ) (s : Schedule τ κ) (replies : List κ)
    (h : ∀ t next reply rest, s = .turn t next → replies = reply :: rest →
      next (read reply) = next reply ∧ Settled read (next reply) rest) : Settled read s replies := by
  cases s with
  | finish => exact trivial
  | turn t next =>
    cases replies with
    | nil => exact trivial
    | cons reply rest => exact h t next reply rest rfl rfl

def Keyed {γ : Type} (key : τ → γ) : Schedule τ κ → Prop
  | .finish => True
  | .turn _ next => (∀ reply reply' t t' after after', next reply = .turn t after →
      next reply' = .turn t' after' → key t = key t' → next reply = next reply') ∧
    ∀ reply, Keyed key (next reply)

theorem path_opens {γ : Type} (key : τ → γ) (s s' : Schedule τ κ) (turns turns' : List (τ × κ))
    (h : Path s turns .finish) (h' : Path s' turns' .finish)
    (hkeys : turns.map (fun turn => key turn.1) = turns'.map fun turn => key turn.1) :
    s = .finish ∧ s' = .finish ∨
      ∃ t after t' after', s = .turn t after ∧ s' = .turn t' after' ∧ key t = key t' := by
  cases h with
  | nil =>
    cases h' with
    | nil => exact .inl ⟨rfl, rfl⟩
    | cons => cases hkeys
  | cons t next =>
    cases h' with
    | nil => cases hkeys
    | cons t' next' => exact .inr ⟨t, next, t', next', rfl, rfl, (List.cons.inj hkeys).1⟩

/-- Where the replies and what is read of them lead to turns with the same keys, they decide alike. -/
theorem settled_paths {γ : Type} (key : τ → γ) (read : κ → κ) (s : Schedule τ κ)
    (turns turns' : List (τ × κ)) (hs : Keyed key s) (h : Path s turns .finish)
    (h' : Path s turns' .finish)
    (hkeys : turns.map (fun turn => key turn.1) = turns'.map fun turn => key turn.1)
    (hread : turns.map Prod.snd = (turns'.map Prod.snd).map read) :
    Settled read s (turns'.map Prod.snd) := by
  induction s generalizing turns turns' with
  | finish => exact trivial
  | turn t next ih =>
    cases h with
    | cons _ _ reply rest _ tail =>
    cases h' with
    | cons _ _ reply' rest' _ tail' =>
    obtain ⟨hreply, hrest⟩ := List.cons.inj hread
    have hkeys' := (List.cons.inj hkeys).2
    change reply = read reply' at hreply
    subst hreply
    have hsame : next (read reply') = next reply' := by
      rcases path_opens key _ _ _ _ tail tail' hkeys' with ⟨hnext, hnext'⟩ |
        ⟨t₁, after, t₂, after', hnext, hnext', hkey⟩
      · rw [hnext, hnext']
      · exact hs.1 _ _ t₁ t₂ after after' hnext hnext' hkey
    exact ⟨hsame, ih reply' rest rest' (hs.2 reply') (hsame ▸ tail) tail' hkeys' hrest⟩

end Readings

variable {σ ρ ε α : Type}

/-- Takes the turns of a schedule with `step`, which may also end the run. -/
def perform (step : τ → α → Gen σ ρ ε (Option (κ × α))) :
    Schedule τ κ → α → Gen σ ρ ε (Option α)
  | .finish, a => pure (some a)
  | .turn t next, a => do
    match ← step t a with
    | none => return none
    | some (reply, a) => perform step (next reply) a

/-- What each turn keeps, a run keeps; it ends with its schedule or within a turn. -/
theorem triple_perform (step : τ → α → Gen σ ρ ε (Option (κ × α))) (start s : Schedule τ κ)
    (I : List (τ × κ) → α → σ → Prop) (Y : ρ → σ → Prop) (stopped : List (τ × κ) → τ → σ → Prop)
    (thrown : List (τ × κ) → τ → ε → σ → Prop) (turns : List (τ × κ)) (a : α)
    (hstep : ∀ turns t next a, Path start turns (.turn t next) →
      Triple (I turns a) (step t a) Y (fun out w => match out with
        | none => stopped turns t w
        | some (reply, a) => I (turns ++ [(t, reply)]) a w) (thrown turns t))
    (hpath : Path start turns s) :
    Triple (I turns a) (perform step s a) Y (fun out w => match out with
        | none => ∃ turns t next, Path start turns (.turn t next) ∧ stopped turns t w
        | some a => ∃ turns, Path start turns .finish ∧ I turns a w)
      fun e w => ∃ turns t next, Path start turns (.turn t next) ∧ thrown turns t e w := by
  induction s generalizing turns a with
  | finish => exact triple_pure _ fun w hw => ⟨turns, hpath, hw⟩
  | turn t next ih =>
    unfold perform
    refine triple_bind _ _ (triple_conseq _ (hstep turns t next a hpath) (fun _ h => h)
      (fun _ _ h => h) fun e w h => ⟨turns, t, next, hpath, h⟩) fun out => ?_
    cases out with
    | none => exact triple_pure _ fun w hw => ⟨turns, t, next, hpath, hw⟩
    | some replied => exact ih replied.1 _ replied.2 (hpath.snoc replied.1)

end Glassbeetle.Schedules
