import Mathlib.Init

set_option autoImplicit false

/-!
# Generators over a state

A generator runs on a state, yields events and ends with a result or an
exception. A consumer that calls `return()` at a yield gets the state of that
yield, as long as the generator has no `finally` block.
-/
namespace Glassbeetle.AsyncGenerator

structure Trace (σ ρ ε α : Type) where
  yields : List (ρ × σ)
  result : Except ε α
  final : σ

def Gen (σ ρ ε α : Type) := σ → Trace σ ρ ε α

variable {σ ρ ε α β : Type}

namespace Gen

def pure (a : α) : Gen σ ρ ε α := fun s => ⟨[], .ok a, s⟩

def bind (g : Gen σ ρ ε α) (f : α → Gen σ ρ ε β) : Gen σ ρ ε β := fun s =>
  let t := g s
  match t.result with
  | .ok a => ⟨t.yields ++ (f a t.final).yields, (f a t.final).result, (f a t.final).final⟩
  | .error e => ⟨t.yields, .error e, t.final⟩

instance : Monad (Gen σ ρ ε) where
  pure := Gen.pure
  bind := Gen.bind

def fail (e : ε) : Gen σ ρ ε α := fun s => ⟨[], .error e, s⟩

def read : Gen σ ρ ε σ := fun s => ⟨[], .ok s, s⟩

def modify (f : σ → σ) : Gen σ ρ ε Unit := fun s => ⟨[], .ok (), f s⟩

def lift (r : Except ε α) : Gen σ ρ ε α := fun s => ⟨[], r, s⟩

def emit (event : ρ) : Gen σ ρ ε Unit := fun s => ⟨[(event, s)], .ok (), s⟩

/-- `try { … } catch`: the exception becomes a value. -/
def attempt (g : Gen σ ρ ε α) : Gen σ ρ ε (Except ε α) := fun s =>
  ⟨(g s).yields, .ok (g s).result, (g s).final⟩

theorem bind_assoc {γ : Type} (g : Gen σ ρ ε α) (f : α → Gen σ ρ ε β) (h : β → Gen σ ρ ε γ) :
    (g >>= f) >>= h = g >>= fun a => f a >>= h := by
  funext s
  change bind (bind g f) h s = bind g (fun a => bind (f a) h) s
  unfold bind
  dsimp only
  cases (g s).result with
  | error e => rfl
  | ok a =>
    dsimp only
    cases (f a (g s).final).result with
    | error e => rfl
    | ok b =>
      dsimp only
      rw [List.append_assoc]

theorem pure_bind (a : α) (f : α → Gen σ ρ ε β) : (Pure.pure a : Gen σ ρ ε α) >>= f = f a := rfl

theorem bind_pure (g : Gen σ ρ ε α) : (g >>= fun a => Pure.pure a) = g := by
  funext s
  change bind g pure s = g s
  unfold bind
  dsimp only
  obtain ⟨yields, result, final⟩ := g s
  cases result with
  | error e => rfl
  | ok a =>
    change Trace.mk (yields ++ []) (.ok a) final = _
    rw [List.append_nil]

theorem read_bind (f : σ → Gen σ ρ ε β) (s : σ) : (read >>= f) s = f s s := rfl

theorem lift_bind (r : Except ε α) (f : α → Gen σ ρ ε β) (s : σ) :
    (lift r >>= f) s = match r with
      | .ok a => f a s
      | .error e => ⟨[], .error e, s⟩ := by
  cases r with
  | error e => rfl
  | ok a => rfl

theorem bind_error (g : Gen σ ρ ε α) (f : α → Gen σ ρ ε β) (s : σ) (e : ε)
    (h : (g s).result = .error e) : (g >>= f) s = ⟨(g s).yields, .error e, (g s).final⟩ := by
  change bind g f s = _
  unfold bind
  dsimp only
  rw [h]

theorem bind_ok (g : Gen σ ρ ε α) (f : α → Gen σ ρ ε β) (s : σ) (a : α)
    (h : (g s).result = .ok a) :
    (g >>= f) s = ⟨(g s).yields ++ (f a (g s).final).yields, (f a (g s).final).result,
      (f a (g s).final).final⟩ := by
  change bind g f s = _
  unfold bind
  dsimp only
  rw [h]

theorem final_keep {γ : Type} (φ : σ → γ) (g : Gen σ ρ ε α) (f : α → Gen σ ρ ε β) (s : σ)
    (hf : ∀ a s, φ (f a s).final = φ s) : φ ((g >>= f) s).final = φ (g s).final := by
  cases h : (g s).result with
  | error e => rw [bind_error g f s e h]
  | ok a =>
    rw [bind_ok g f s a h]
    exact hf a _

end Gen

/-- From a state with `P`, every yield is as `Y` says; a run that returns ends as `Q` says and one
that throws as `E` says. -/
def Triple (P : σ → Prop) (g : Gen σ ρ ε α) (Y : ρ → σ → Prop) (Q : α → σ → Prop)
    (E : ε → σ → Prop) : Prop :=
  ∀ s, P s → (∀ event ∈ (g s).yields, Y event.1 event.2) ∧
    match (g s).result with
    | .ok a => Q a (g s).final
    | .error e => E e (g s).final

variable {P : σ → Prop} {Y : ρ → σ → Prop} {Q : α → σ → Prop} {R : β → σ → Prop} {E : ε → σ → Prop}

theorem triple_pure (a : α) (h : ∀ s, P s → Q a s) :
    Triple P (pure a : Gen σ ρ ε α) Y Q E :=
  fun s hs => ⟨fun _ hin => (nomatch hin), h s hs⟩

theorem triple_bind (g : Gen σ ρ ε α) (f : α → Gen σ ρ ε β) (hg : Triple P g Y Q E)
    (hf : ∀ a, Triple (Q a) (f a) Y R E) : Triple P (g >>= f) Y R E := by
  intro s hs
  obtain ⟨hy, hr⟩ := hg s hs
  change (∀ event ∈ (Gen.bind g f s).yields, _) ∧ match (Gen.bind g f s).result with
    | .ok a => R a (Gen.bind g f s).final
    | .error e => E e (Gen.bind g f s).final
  unfold Gen.bind
  simp only
  cases h : (g s).result with
  | error e =>
    rw [h] at hr
    exact ⟨hy, hr⟩
  | ok a =>
    rw [h] at hr
    obtain ⟨hy', hr'⟩ := hf a (g s).final hr
    refine ⟨fun event hin => ?_, hr'⟩
    rcases List.mem_append.mp hin with hin | hin
    · exact hy event hin
    · exact hy' event hin

theorem triple_conseq (g : Gen σ ρ ε α) {P' : σ → Prop} {Q' : α → σ → Prop} {E' : ε → σ → Prop}
    (h : Triple P' g Y Q' E') (hP : ∀ s, P s → P' s) (hQ : ∀ a s, Q' a s → Q a s)
    (hE : ∀ e s, E' e s → E e s) : Triple P g Y Q E := by
  intro s hs
  obtain ⟨hy, hr⟩ := h s (hP s hs)
  refine ⟨hy, ?_⟩
  split
  · rename_i a ha
    rw [ha] at hr
    exact hQ _ _ hr
  · rename_i e he
    rw [he] at hr
    exact hE _ _ hr

theorem triple_fail (e : ε) (h : ∀ s, P s → E e s) : Triple P (Gen.fail e : Gen σ ρ ε α) Y Q E :=
  fun s hs => ⟨fun _ hin => (nomatch hin), h s hs⟩

theorem triple_read {Q : σ → σ → Prop} (h : ∀ s, P s → Q s s) :
    Triple P (Gen.read : Gen σ ρ ε σ) Y Q E :=
  fun s hs => ⟨fun _ hin => (nomatch hin), h s hs⟩

theorem triple_modify (f : σ → σ) {Q : Unit → σ → Prop} (h : ∀ s, P s → Q () (f s)) :
    Triple P (Gen.modify f : Gen σ ρ ε Unit) Y Q E :=
  fun s hs => ⟨fun _ hin => (nomatch hin), h s hs⟩

theorem triple_lift (r : Except ε α) (hok : ∀ a, r = .ok a → ∀ s, P s → Q a s)
    (herror : ∀ e, r = .error e → ∀ s, P s → E e s) :
    Triple P (Gen.lift r : Gen σ ρ ε α) Y Q E := by
  intro s hs
  refine ⟨fun _ hin => (nomatch hin), ?_⟩
  cases r with
  | ok a => exact hok a rfl s hs
  | error e => exact herror e rfl s hs

theorem triple_emit (event : ρ) {Q : Unit → σ → Prop} (hy : ∀ s, P s → Y event s)
    (h : ∀ s, P s → Q () s) : Triple P (Gen.emit event : Gen σ ρ ε Unit) Y Q E := by
  refine fun s hs => ⟨fun y hin => ?_, h s hs⟩
  obtain rfl := List.mem_singleton.mp hin
  exact hy s hs

def outcome (succeeded : α → σ → Prop) (failed : ε → σ → Prop) : Except ε α → σ → Prop
  | .ok a => succeeded a
  | .error e => failed e

theorem triple_attempt (g : Gen σ ρ ε α) {F : ε → σ → Prop} {Q' : Except ε α → σ → Prop}
    (h : Triple P g Y Q F) (hok : ∀ a s, Q a s → Q' (.ok a) s)
    (herror : ∀ e s, F e s → Q' (.error e) s) : Triple P (Gen.attempt g) Y Q' E := by
  intro s hs
  obtain ⟨hy, hr⟩ := h s hs
  refine ⟨hy, ?_⟩
  change Q' (g s).result (g s).final
  cases ha : (g s).result with
  | ok a =>
    rw [ha] at hr
    exact hok a _ hr
  | error e =>
    rw [ha] at hr
    exact herror e _ hr

theorem triple_intro (g : Gen σ ρ ε α) {p : Prop} (h : p → Triple P g Y Q E) :
    Triple (fun s => p ∧ P s) g Y Q E := fun s hs => h hs.1 s hs.2

theorem triple_exists {ι : Type} {P : ι → σ → Prop} (g : Gen σ ρ ε α)
    (h : ∀ i, Triple (P i) g Y Q E) : Triple (fun s => ∃ i, P i s) g Y Q E :=
  fun s ⟨i, hs⟩ => h i s hs

theorem triple_and (g : Gen σ ρ ε α) {P' : σ → Prop} {Y' : ρ → σ → Prop} {Q' : α → σ → Prop}
    {E' : ε → σ → Prop} (h : Triple P g Y Q E) (h' : Triple P' g Y' Q' E') :
    Triple (fun s => P s ∧ P' s) g (fun event s => Y event s ∧ Y' event s)
      (fun a s => Q a s ∧ Q' a s) fun e s => E e s ∧ E' e s := by
  rintro s ⟨hs, hs'⟩
  obtain ⟨hy, hr⟩ := h s hs
  obtain ⟨hy', hr'⟩ := h' s hs'
  refine ⟨fun event hin => ⟨hy event hin, hy' event hin⟩, ?_⟩
  cases ha : (g s).result with
  | ok a =>
    rw [ha] at hr hr'
    exact ⟨hr, hr'⟩
  | error e =>
    rw [ha] at hr hr'
    exact ⟨hr, hr'⟩

theorem triple_forget {g : Gen σ ρ ε α} (h : Triple P g Y Q E) :
    Triple P g (fun _ _ => True) Q E :=
  fun s hs => ⟨fun _ _ => trivial, (h s hs).2⟩

theorem triple_given {g : Gen σ ρ ε α} (h : ∀ s, P s → Triple (· = s) g Y Q E) :
    Triple P g Y Q E :=
  fun s hs => h s hs s rfl

section Sequencing

theorem triple_bind_read (f : σ → Gen σ ρ ε β) (h : ∀ s, P s → Triple (· = s) (f s) Y R E) :
    Triple P (Gen.read >>= f) Y R E := by
  have hread : Triple P (Gen.read : Gen σ ρ ε σ) Y (fun a s => P a ∧ s = a) E :=
    triple_read fun s hs => ⟨hs, rfl⟩
  exact triple_bind _ _ hread fun a => triple_intro _ fun ha => h a ha

theorem triple_bind_modify (g : σ → σ) (f : Unit → Gen σ ρ ε β) (P' : σ → Prop)
    (hg : ∀ s, P s → P' (g s)) (h : Triple P' (f ()) Y R E) :
    Triple P (Gen.modify g >>= f) Y R E := by
  have hmodify : Triple P (Gen.modify g : Gen σ ρ ε Unit) Y (fun _ => P') E := triple_modify g hg
  exact triple_bind _ _ hmodify fun _ => h

theorem triple_bind_lift (r : Except ε α) (f : α → Gen σ ρ ε β)
    (hok : ∀ a, r = .ok a → Triple P (f a) Y R E)
    (herror : ∀ e, r = .error e → ∀ s, P s → E e s) : Triple P (Gen.lift r >>= f) Y R E := by
  have hlift : Triple P (Gen.lift r : Gen σ ρ ε α) Y (fun a s => r = .ok a ∧ P s) E :=
    triple_lift r (fun a ha s hs => ⟨ha, hs⟩) herror
  exact triple_bind _ _ hlift fun a => triple_intro _ fun ha => hok a ha

theorem triple_bind_emit (event : ρ) (f : Unit → Gen σ ρ ε β) (hy : ∀ s, P s → Y event s)
    (h : Triple P (f ()) Y R E) : Triple P (Gen.emit event >>= f) Y R E := by
  have hemit : Triple P (Gen.emit event : Gen σ ρ ε Unit) Y (fun _ => P) E :=
    triple_emit event hy fun s hs => hs
  exact triple_bind _ _ hemit fun _ => h

end Sequencing

/-- Whoever finds every yield as `Y` says and the end as `F` says knows that `c` holds. -/
def Reveals (P : σ → Prop) (g : Gen σ ρ ε α) (Y : ρ → σ → Prop) (F : σ → Prop) (c : Prop) : Prop :=
  ∀ s, P s → (∀ event ∈ (g s).yields, Y event.1 event.2) → F (g s).final → c

section Revealing

variable {F : σ → Prop} {c d : Prop}

theorem reveals_final (g : Gen σ ρ ε α) {Z : ρ → σ → Prop} (hg : Triple P g Z Q E)
    (hQ : ∀ a s, Q a s → F s → c) (hE : ∀ e s, E e s → F s → c) : Reveals P g Y F c := by
  intro s hs _ hF
  have hr := (hg s hs).2
  cases h : (g s).result with
  | error e =>
    rw [h] at hr
    exact hE e _ hr hF
  | ok a =>
    rw [h] at hr
    exact hQ a _ hr hF

theorem reveals_bind (g : Gen σ ρ ε α) (f : α → Gen σ ρ ε β) {Z : ρ → σ → Prop}
    (hg : Triple P g Z Q E) (hf : ∀ a, Reveals (Q a) (f a) Y F c)
    (hE : ∀ e s, E e s → F s → c) : Reveals P (g >>= f) Y F c := by
  intro s hs hy hF
  have hr := (hg s hs).2
  cases h : (g s).result with
  | error e =>
    rw [h] at hr
    rw [Gen.bind_error g f s e h] at hF
    exact hE e _ hr hF
  | ok a =>
    rw [h] at hr
    rw [Gen.bind_ok g f s a h] at hy hF
    exact hf a _ hr (fun event hevent => hy event (List.mem_append_right _ hevent)) hF

theorem reveals_step (g : Gen σ ρ ε α) (f : α → Gen σ ρ ε β)
    (hg : Triple P g (fun _ _ => True) Q fun _ _ => False) (hf : ∀ a, Reveals (Q a) (f a) Y F c) :
    Reveals P (g >>= f) Y F c :=
  reveals_bind g f hg hf nofun

theorem reveals_first (g : Gen σ ρ ε α) (f : α → Gen σ ρ ε β)
    (h : Reveals P g Y (fun _ => True) c) : Reveals P (g >>= f) Y F c := by
  intro s hs hy _
  refine h s hs (fun event hevent => hy event ?_) trivial
  cases hr : (g s).result with
  | error e =>
    rw [Gen.bind_error g f s e hr]
    exact hevent
  | ok a =>
    rw [Gen.bind_ok g f s a hr]
    exact List.mem_append_left _ hevent

theorem reveals_emit (event : ρ) (h : ∀ s, P s → Y event s → c) :
    Reveals P (Gen.emit event : Gen σ ρ ε Unit) Y F c :=
  fun s hs hy _ => h s hs (hy (event, s) (List.mem_singleton_self _))

theorem reveals_known (g : Gen σ ρ ε α) (h : c) : Reveals P g Y F c := fun _ _ _ _ => h

theorem reveals_and (g : Gen σ ρ ε α) (hc : Reveals P g Y F c) (hd : Reveals P g Y F d) :
    Reveals P g Y F (c ∧ d) :=
  fun s hs hy hF => ⟨hc s hs hy hF, hd s hs hy hF⟩

theorem reveals_intro (g : Gen σ ρ ε α) {p : Prop} (h : p → Reveals P g Y F c) :
    Reveals (fun s => p ∧ P s) g Y F c :=
  fun s hs => h hs.1 s hs.2

theorem reveals_exists {ι : Type} {P : ι → σ → Prop} (g : Gen σ ρ ε α)
    (h : ∀ i, Reveals (P i) g Y F c) : Reveals (fun s => ∃ i, P i s) g Y F c :=
  fun s ⟨i, hs⟩ => h i s hs

theorem reveals_given {g : Gen σ ρ ε α} (h : ∀ s, P s → Reveals (· = s) g Y F c) :
    Reveals P g Y F c :=
  fun s hs => h s hs s rfl

theorem reveals_bind_read (f : σ → Gen σ ρ ε β) (h : ∀ s, P s → Reveals (· = s) (f s) Y F c) :
    Reveals P (Gen.read >>= f) Y F c :=
  reveals_given fun s hs _ he => he ▸ h s hs s rfl

theorem reveals_bind_lift (r : Except ε α) (f : α → Gen σ ρ ε β) (a : α) (hr : r = .ok a)
    (h : Reveals P (f a) Y F c) : Reveals P (Gen.lift r >>= f) Y F c := by
  obtain rfl := hr
  exact h

end Revealing

def stoppedAt (t : Trace σ ρ ε α) : Option Nat → Option σ
  | none => some t.final
  | some k => t.yields[k]?.map Prod.snd

def events (t : Trace σ ρ ε α) : List ρ := t.yields.map Prod.fst

theorem events_bind (g : Gen σ ρ ε α) (f : α → Gen σ ρ ε β) (s : σ) (a : α)
    (h : (g s).result = .ok a) :
    events ((g >>= f) s) = events (g s) ++ events (f a (g s).final) := by
  change events (Gen.bind g f s) = _
  unfold Gen.bind events
  simp only [h, List.map_append]

end Glassbeetle.AsyncGenerator
