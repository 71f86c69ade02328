import Mathlib.Algebra.Group.Nat.Defs
import Glassbeetle.JsText
import Glassbeetle.Runs

set_option autoImplicit false

/-!
# The connection indicator

`ApiStatusService` over every order of refreshes, answers, failures elsewhere, visibility changes and
passing time. Timers fire when they are due, and not while the window is hidden.
-/
namespace Glassbeetle.ApiStatus
open JsText

inductive ConnectionState where
  | checking
  | online
  | degraded
  | offline
  deriving DecidableEq, Repr

structure HealthStatus where
  status : JsString
  deriving DecidableEq

/-- What `getHealth` or another request was rejected with. -/
inductive Thrown where
  /-- The status, the code, the message and the details of a body that is an error envelope, and the
  message of the response itself. -/
  | response (status : ℕ) (body : Option (JsString × JsString × List JsString)) (message : JsString)
  | error (message : JsString)
  | other

structure ApiError where
  status : ℕ
  code : JsString
  message : JsString
  details : List JsString
  offline : Bool
  deriving DecidableEq

def toApiError : Thrown → ApiError
  | .other => ⟨0, js "UNKNOWN", js "Something went wrong.", [], false⟩
  | .error message => ⟨0, js "UNKNOWN", message, [], false⟩
  | .response status body message =>
    if status = 0 then
      ⟨0, js "API_UNREACHABLE", js "Could not reach the Glassbeetle API. Is it running on port 3000?",
        [], true⟩
    else match body with
      | some (code, text, details) => ⟨status, code, text, details, false⟩
      | none =>
        ⟨status, js "UNKNOWN", if message.isEmpty
          then js "Request failed with status " ++ js (toString status) ++ js "." else message, [], false⟩

def describeApiError (error : ApiError) : JsString :=
  if error.details.isEmpty then error.message else join (js " · ") error.details

structure ApiStatusService where
  health : Option HealthStatus
  error : Option JsString
  state : ConnectionState
  lastCheckedAt : Option ℕ
  /-- When it is due, in milliseconds. -/
  timer : Option ℕ
  inFlight : Bool
  started : Bool
  consecutiveFailures : ℕ
  /-- Whether `onVisibilityChange` listens. -/
  listening : Bool
  visible : Bool
  clock : ℕ
  /-- The checks sent and answered so far. -/
  sent : ℕ
  answered : ℕ

def POLL_INTERVAL_MS : ℕ := 30000
def OFFLINE_BASE_MS : ℕ := 5000
def OFFLINE_MAX_MS : ℕ := 60000

/-- 5s, 10s, 20s, 40s, then a steady minute. -/
def offlineDelay (consecutiveFailures : ℕ) : ℕ :=
  min (OFFLINE_BASE_MS * 2 ^ min (consecutiveFailures - 1) 4) OFFLINE_MAX_MS

def delay (s : ApiStatusService) : ℕ :=
  if s.state = .offline then offlineDelay s.consecutiveFailures else POLL_INTERVAL_MS

def start (visible : Bool) : ApiStatusService where
  health := none
  error := none
  state := .checking
  lastCheckedAt := none
  timer := none
  inFlight := false
  started := false
  consecutiveFailures := 0
  listening := true
  visible := visible
  clock := 0
  sent := 0
  answered := 0

def setOffline (message : JsString) (s : ApiStatusService) : ApiStatusService :=
  { s with health := none, error := some message, state := .offline }

def scheduleNext (s : ApiStatusService) : ApiStatusService :=
  { s with timer := if s.started && s.visible then some (s.clock + delay s) else none }

/-- A check in flight makes this a no-op. -/
def check (s : ApiStatusService) : ApiStatusService :=
  if s.inFlight then s else { s with inFlight := true, sent := s.sent + 1 }

def refresh (s : ApiStatusService) : ApiStatusService :=
  check { s with
    started := true, consecutiveFailures := 0, timer := none, state := .checking, error := none }

def onVisibilityChange (s : ApiStatusService) : ApiStatusService :=
  if !s.visible then { s with timer := none }
  else if !s.started then s
  else check { s with timer := none }

def ngOnDestroy (s : ApiStatusService) : ApiStatusService :=
  { s with started := false, timer := none, listening := false }

def reportRequestFailure (thrown : Thrown) (s : ApiStatusService) : ApiStatusService :=
  let apiError := toApiError thrown
  if !apiError.offline then s
  else
    let wasOffline := s.state = .offline
    let after := setOffline (describeApiError apiError) s
    if wasOffline || !after.started then after
    else scheduleNext { after with consecutiveFailures := max after.consecutiveFailures 1 }

def settle (s : ApiStatusService) : ApiStatusService :=
  scheduleNext { s with inFlight := false, answered := s.answered + 1 }

def onHealth (health : HealthStatus) (s : ApiStatusService) : ApiStatusService :=
  settle { s with
    consecutiveFailures := 0
    health := some health
    error := none
    state := if health.status = js "ok" then .online else .degraded
    lastCheckedAt := some s.clock }

def onError (thrown : Thrown) (s : ApiStatusService) : ApiStatusService :=
  settle { setOffline (describeApiError (toApiError thrown))
      { s with consecutiveFailures := s.consecutiveFailures + 1 } with
    lastCheckedAt := some s.clock }

inductive Turn where
  | refresh
  | health (health : HealthStatus)
  | failure (thrown : Thrown)
  /-- Another request failed. -/
  | reported (thrown : Thrown)
  | visibility (visible : Bool)
  | timer
  | destroy
  | elapse (milliseconds : ℕ)

def step (s : ApiStatusService) : Turn → ApiStatusService
  | .refresh => ApiStatus.refresh s
  | .health health => onHealth health s
  | .failure thrown => onError thrown s
  | .reported thrown => reportRequestFailure thrown s
  | .visibility visible =>
    if s.listening then onVisibilityChange { s with visible := visible }
    else { s with visible := visible }
  | .timer => check { s with timer := none }
  | .destroy => ngOnDestroy s
  | .elapse milliseconds => { s with clock := s.clock + milliseconds }

/-- A check is answered while it is in flight; a timer fires when it is due, and no time passes before
it has. -/
def enabled (s : ApiStatusService) : Turn → Prop
  | .health _ | .failure _ => s.inFlight = true
  | .timer => s.timer = some s.clock
  | .elapse milliseconds => ∀ due ∈ s.timer, s.clock + milliseconds ≤ due
  | _ => True

def Run (visible : Bool) (turns : List Turn) : Prop :=
  Runs.Allowed step enabled (start visible) turns

def reached (visible : Bool) (turns : List Turn) : ApiStatusService :=
  turns.foldl step (start visible)

/-! ### What every turn keeps -/

def Shown (s : ApiStatusService) : Prop :=
  match s.state with
  | .checking => s.error = none
  | .online => ∃ health, s.health = some health ∧ health.status = js "ok" ∧ s.error = none
  | .degraded => ∃ health, s.health = some health ∧ health.status ≠ js "ok" ∧ s.error = none
  | .offline => s.health = none ∧ s.error.isSome = true

def patience (state : ConnectionState) : ℕ :=
  if state = .offline then OFFLINE_MAX_MS else POLL_INTERVAL_MS

structure Consistent (s : ApiStatusService) : Prop where
  single : s.sent = s.answered + (if s.inFlight then 1 else 0)
  shown : Shown s
  armed : s.timer.isSome = true → s.started = true ∧ (s.listening = true → s.visible = true)
  alive : s.started = true → s.listening = true → s.visible = true →
    s.inFlight = true ∨ s.timer.isSome = true
  failing : s.started = true → (s.state = .offline ↔ s.consecutiveFailures ≠ 0)
  punctual : ∀ due, s.timer = some due → s.clock ≤ due
  fresh : s.started = true → s.inFlight = false → ∃ checked, s.lastCheckedAt = some checked ∧
    checked ≤ s.clock ∧ ∀ due, s.timer = some due → checked + OFFLINE_BASE_MS ≤ due ∧
      (s.listening = true → due ≤ checked + patience s.state)

theorem start_consistent (visible : Bool) : Consistent (start visible) := by
  constructor <;> simp [start, Shown]

theorem offlineDelay_le (failures : ℕ) : offlineDelay failures ≤ OFFLINE_MAX_MS :=
  Nat.min_le_right _ _

theorem le_offlineDelay (failures : ℕ) : OFFLINE_BASE_MS ≤ offlineDelay failures := by
  apply Nat.le_min.mpr
  exact ⟨Nat.le_mul_of_pos_right _ Nat.one_le_two_pow, by decide⟩

theorem delay_le (s : ApiStatusService) : delay s ≤ patience s.state := by
  unfold delay patience
  split
  · exact offlineDelay_le _
  · exact Nat.le_refl _

theorem le_delay (s : ApiStatusService) : OFFLINE_BASE_MS ≤ delay s := by
  unfold delay
  split
  · exact le_offlineDelay _
  · decide

@[simp] theorem check_timer (s : ApiStatusService) : (check s).timer = s.timer := by
  unfold check
  split <;> rfl

@[simp] theorem check_inFlight (s : ApiStatusService) : (check s).inFlight = true := by
  unfold check
  split
  · assumption
  · rfl

theorem check_kept (s : ApiStatusService) :
    (check s).state = s.state ∧ (check s).error = s.error ∧ (check s).health = s.health ∧
      (check s).started = s.started ∧ (check s).listening = s.listening ∧
        (check s).visible = s.visible ∧ (check s).consecutiveFailures = s.consecutiveFailures ∧
          (check s).clock = s.clock := by
  unfold check
  split <;> simp

theorem check_sent (s : ApiStatusService)
    (h : s.sent = s.answered + (if s.inFlight then 1 else 0)) :
    (check s).sent = (check s).answered + 1 := by
  unfold check
  cases hflight : s.inFlight <;> simp [hflight] at h ⊢ <;> exact h

theorem scheduleNext_timer (s : ApiStatusService) (due : ℕ) : (scheduleNext s).timer = some due ↔
    s.started = true ∧ s.visible = true ∧ due = s.clock + delay s := by
  simp only [scheduleNext]
  split
  · next h =>
    rw [Bool.and_eq_true] at h
    simp [h.1, h.2, eq_comm]
  · next h =>
    rw [Bool.and_eq_true] at h
    exact iff_of_false (by simp) fun hall => h ⟨hall.1, hall.2.1⟩

theorem check_consistent (s : ApiStatusService)
    (hsingle : s.sent = s.answered + (if s.inFlight then 1 else 0)) (hshown : Shown s)
    (htimer : s.timer = none)
    (hfailing : s.started = true → (s.state = .offline ↔ s.consecutiveFailures ≠ 0)) :
    Consistent (check s) := by
  obtain ⟨hstate, herror, hhealth, hstarted, -, -, hfailures, -⟩ := check_kept s
  constructor
  · rw [check_sent s hsingle, check_inFlight]
    rfl
  · simpa [Shown, hstate, herror, hhealth] using hshown
  · simp [htimer]
  · simp
  · simpa [hstate, hstarted, hfailures] using hfailing
  · simp [htimer]
  · simp

theorem settle_consistent (s : ApiStatusService) (hsingle : s.sent = s.answered + 1)
    (hshown : Shown s) (hchecked : s.lastCheckedAt = some s.clock)
    (hfailing : s.started = true → (s.state = .offline ↔ s.consecutiveFailures ≠ 0)) :
    Consistent (settle s) := by
  have hle := delay_le { s with inFlight := false, answered := s.answered + 1 }
  have hge := le_delay { s with inFlight := false, answered := s.answered + 1 }
  constructor
  · simpa [settle, scheduleNext] using hsingle
  · exact hshown
  · simp only [settle, scheduleNext]
    split <;> simp_all
  · intro hstarted _ hvisible
    right
    simp_all [settle, scheduleNext]
  · exact hfailing
  · intro due hdue
    simp only [settle, scheduleNext] at hdue ⊢
    split at hdue
    · obtain rfl := Option.some.inj hdue
      omega
    · cases hdue
  · intro hstarted _
    refine ⟨s.clock, hchecked, Nat.le_refl _, ?_⟩
    intro due hdue
    simp only [settle, scheduleNext] at hdue ⊢
    split at hdue
    · obtain rfl := Option.some.inj hdue
      simp only at hle
      omega
    · cases hdue

theorem onHealth_consistent (s : ApiStatusService) (health : HealthStatus) (hs : Consistent s)
    (hflight : s.inFlight = true) : Consistent (onHealth health s) := by
  have hsingle := hs.single
  rw [hflight] at hsingle
  apply settle_consistent
  · exact hsingle
  · by_cases hok : health.status = js "ok" <;> simp [Shown, hok]
  · rfl
  · intro _
    by_cases hok : health.status = js "ok" <;> simp [hok]

theorem onError_consistent (s : ApiStatusService) (thrown : Thrown) (hs : Consistent s)
    (hflight : s.inFlight = true) : Consistent (onError thrown s) := by
  have hsingle := hs.single
  rw [hflight] at hsingle
  apply settle_consistent
  · exact hsingle
  · simp [Shown, setOffline]
  · rfl
  · simp [setOffline]

theorem delay_first (s : ApiStatusService) (hstate : s.state = .offline)
    (hfailures : s.consecutiveFailures = 1) : delay s = OFFLINE_BASE_MS := by
  rw [delay, if_pos hstate, hfailures]
  rfl

/-- A failure elsewhere takes an online indicator offline and brings the next check nearer. -/
theorem reportRequestFailure_consistent (s : ApiStatusService) (thrown : Thrown)
    (hs : Consistent s) : Consistent (reportRequestFailure thrown s) := by
  obtain ⟨hsingle, hshown, harmed, halive, hfailing, hpunctual, hfresh⟩ := hs
  unfold reportRequestFailure
  simp only
  split_ifs with hreached hkept
  · exact ⟨hsingle, hshown, harmed, halive, hfailing, hpunctual, hfresh⟩
  · simp only [setOffline, Bool.or_eq_true, decide_eq_true_eq, Bool.not_eq_true'] at hkept
    constructor
    · exact hsingle
    · simp [Shown, setOffline]
    · exact harmed
    · exact halive
    · intro hstarted
      have hoffline : s.state = .offline := hkept.resolve_right (by simp_all [setOffline])
      simpa [setOffline, hoffline] using hfailing hstarted
    · exact hpunctual
    · intro hstarted hflight
      have hoffline : s.state = .offline := hkept.resolve_right (by simp_all [setOffline])
      simpa [setOffline, hoffline] using hfresh hstarted hflight
  · simp only [setOffline, Bool.or_eq_true, decide_eq_true_eq, Bool.not_eq_true', not_or,
      Bool.not_eq_false] at hkept
    obtain ⟨honline, hstarted⟩ := hkept
    have hnone : s.consecutiveFailures = 0 := by
      by_contra hsome
      exact honline ((hfailing hstarted).mpr hsome)
    constructor
    · exact hsingle
    · simp [Shown, setOffline, scheduleNext]
    · intro hdue
      obtain ⟨due, hdue⟩ := Option.isSome_iff_exists.mp hdue
      obtain ⟨hstarted, hvisible, -⟩ := (scheduleNext_timer _ due).mp hdue
      exact ⟨hstarted, fun _ => hvisible⟩
    · intro _ _ hvisible
      exact .inr (Option.isSome_iff_exists.mpr ⟨_, (scheduleNext_timer _ _).mpr ⟨hstarted, hvisible, rfl⟩⟩)
    · simp [setOffline, scheduleNext]
    · intro due hdue
      rw [((scheduleNext_timer _ due).mp hdue).2.2]
      exact Nat.le_add_right _ _
    · intro _ hflight
      obtain ⟨checked, hchecked, hbefore, hold⟩ := hfresh hstarted hflight
      refine ⟨checked, hchecked, hbefore, ?_⟩
      intro due hdue
      obtain ⟨-, hvisible, hdue⟩ := (scheduleNext_timer _ due).mp hdue
      rw [delay_first _ rfl (by simp [setOffline, hnone])] at hdue
      change due = s.clock + 5000 at hdue
      refine ⟨hdue ▸ Nat.add_le_add_right hbefore _, ?_⟩
      intro hlistening
      -- the check that was due had not come yet
      obtain ⟨planned, hplanned⟩ := Option.isSome_iff_exists.mp
        ((halive hstarted hlistening hvisible).resolve_left (Bool.eq_false_iff.mp hflight))
      have hpending := hpunctual planned hplanned
      have hlate := (hold planned hplanned).2 hlistening
      rw [patience, if_neg honline] at hlate
      change due ≤ checked + 60000
      have hpoll : POLL_INTERVAL_MS = 30000 := rfl
      omega

theorem step_consistent (s : ApiStatusService) (turn : Turn) (hs : Consistent s)
    (henabled : enabled s turn) : Consistent (step s turn) := by
  cases turn with
  | health health => exact onHealth_consistent s health hs henabled
  | failure thrown => exact onError_consistent s thrown hs henabled
  | reported thrown => exact reportRequestFailure_consistent s thrown hs
  | refresh => exact check_consistent _ hs.single (by simp [Shown]) rfl (by simp)
  | timer => exact check_consistent _ hs.single hs.shown rfl hs.failing
  | visibility visible =>
    simp only [step, onVisibilityChange]
    split_ifs with hlistening hhidden hstopped
    · obtain ⟨hsingle, hshown, -, -, hfailing, -, hfresh⟩ := hs
      refine ⟨hsingle, hshown, by simp, by simp_all, hfailing, by simp, ?_⟩
      intro hstarted hflight
      obtain ⟨checked, hchecked, hbefore, -⟩ := hfresh hstarted hflight
      exact ⟨checked, hchecked, hbefore, by simp⟩
    · obtain ⟨hsingle, hshown, harmed, -, hfailing, hpunctual, hfresh⟩ := hs
      constructor <;> simp_all [Shown]
    · exact check_consistent _ hs.single hs.shown rfl hs.failing
    · obtain ⟨hsingle, hshown, harmed, -, hfailing, hpunctual, hfresh⟩ := hs
      constructor <;> simp_all [Shown]
  | destroy =>
    obtain ⟨hsingle, hshown, -, -, -, -, -⟩ := hs
    constructor <;> simp_all [Shown, step, ngOnDestroy]
  | elapse milliseconds =>
    obtain ⟨hsingle, hshown, harmed, halive, hfailing, -, hfresh⟩ := hs
    refine ⟨hsingle, hshown, harmed, halive, hfailing, henabled, ?_⟩
    intro hstarted hflight
    obtain ⟨checked, hchecked, hbefore, hdue⟩ := hfresh hstarted hflight
    exact ⟨checked, hchecked, hbefore.trans (Nat.le_add_right _ _), hdue⟩

theorem reached_consistent (visible : Bool) (turns : List Turn) (hrun : Run visible turns) :
    Consistent (reached visible turns) :=
  Runs.run_invariant step enabled Consistent (fun s turn hs henabled => step_consistent s turn hs henabled)
    _ turns (start_consistent visible) hrun _ (Runs.final_mem step _ turns)

def lostTurns : List Turn :=
  [.refresh, .health ⟨js "ok"⟩, .elapse 30000, .timer, .failure (.response 0 none [])]

theorem lostTurns_run : Run true lostTurns := by
  refine ⟨trivial, rfl, ?_, rfl, rfl, trivial⟩
  intro due hdue
  obtain rfl : due = 30000 := Option.mem_some_iff.mp hdue |>.symm
  decide

/-- At any time at most one check is unanswered, and the indicator, the health report and the error
agree. -/
theorem one_check_shown (visible : Bool) (turns : List Turn) (hrun : Run visible turns) :
    (reached visible turns).sent ≤ (reached visible turns).answered + 1 ∧
      Shown (reached visible turns) := by
  have hs := reached_consistent visible turns hrun
  refine ⟨?_, hs.shown⟩
  rw [hs.single]
  split <;> omega

theorem one_check_shown_lost :
    (reached true lostTurns).sent ≤ (reached true lostTurns).answered + 1 ∧
      Shown (reached true lostTurns) :=
  one_check_shown true lostTurns lostTurns_run

/-- A visible window never falls silent: a check is in flight, or the next one is due at least five
seconds and at most half a minute after the last answer, a minute where the API is down. -/
theorem next_check_due (visible : Bool) (turns : List Turn) (hrun : Run visible turns)
    (hstarted : (reached visible turns).started = true)
    (hlistening : (reached visible turns).listening = true)
    (hvisible : (reached visible turns).visible = true) :
    (reached visible turns).inFlight = true ∨ ∃ checked due,
      (reached visible turns).lastCheckedAt = some checked ∧
        (reached visible turns).timer = some due ∧ (reached visible turns).clock ≤ due ∧
          checked + OFFLINE_BASE_MS ≤ due ∧
            due ≤ checked + patience (reached visible turns).state := by
  have hs := reached_consistent visible turns hrun
  cases hflight : (reached visible turns).inFlight with
  | true => exact .inl rfl
  | false =>
    right
    obtain ⟨due, hdue⟩ := Option.isSome_iff_exists.mp
      ((hs.alive hstarted hlistening hvisible).resolve_left (Bool.eq_false_iff.mp hflight))
    obtain ⟨checked, hchecked, -, hbounds⟩ := hs.fresh hstarted hflight
    exact ⟨checked, due, hchecked, hdue, hs.punctual due hdue, (hbounds due hdue).1,
      (hbounds due hdue).2 hlistening⟩

theorem next_check_due_lost :
    (reached true lostTurns).inFlight = true ∨ ∃ checked due,
      (reached true lostTurns).lastCheckedAt = some checked ∧
        (reached true lostTurns).timer = some due ∧ (reached true lostTurns).clock ≤ due ∧
          checked + OFFLINE_BASE_MS ≤ due ∧ due ≤ checked + patience (reached true lostTurns).state :=
  next_check_due true lostTurns lostTurns_run rfl rfl rfl

def Turn.wakes : Turn → Bool
  | .refresh | .visibility true => true
  | _ => false

theorem step_hidden (s : ApiStatusService) (turn : Turn) (hvisible : s.visible = false)
    (htimer : s.timer = none) (hwakes : turn.wakes = false) (henabled : enabled s turn) :
    (step s turn).visible = false ∧ (step s turn).timer = none ∧ (step s turn).sent = s.sent := by
  cases turn with
  | refresh => cases hwakes
  | visibility shown =>
    cases shown with
    | true => cases hwakes
    | false =>
      simp only [step, onVisibilityChange]
      split_ifs <;> simp_all
  | timer =>
    rw [enabled, htimer] at henabled
    cases henabled
  | reported thrown =>
    simp only [step, reportRequestFailure]
    split_ifs <;> simp_all [setOffline, scheduleNext]
  | _ => simp_all [step, onHealth, onError, settle, setOffline, scheduleNext, ngOnDestroy]

theorem run_hidden (s : ApiStatusService) (turns : List Turn) (hvisible : s.visible = false)
    (htimer : s.timer = none) (hwakes : ∀ turn ∈ turns, turn.wakes = false)
    (hrun : Runs.Allowed step enabled s turns) : (turns.foldl step s).sent = s.sent := by
  induction turns generalizing s with
  | nil => rfl
  | cons turn rest ih =>
    obtain ⟨hturn, hrest⟩ := List.forall_mem_cons.mp hwakes
    obtain ⟨hvisible, htimer, hsent⟩ := step_hidden s turn hvisible htimer hturn hrun.1
    rw [List.foldl_cons, ih _ hvisible htimer hrest hrun.2, hsent]

/-- However long a window stays hidden, it asks nothing on its own. -/
theorem hidden_window_quiet (visible : Bool) (turns more : List Turn)
    (hrun : Run visible (turns ++ more)) (hlistening : (reached visible turns).listening = true)
    (hhidden : (reached visible turns).visible = false)
    (hwakes : ∀ turn ∈ more, turn.wakes = false) :
    (reached visible (turns ++ more)).sent = (reached visible turns).sent := by
  obtain ⟨hturns, hmore⟩ := (Runs.allowed_append step enabled (start visible) turns more).mp hrun
  have hs := reached_consistent visible turns hturns
  have htimer : (reached visible turns).timer = none := by
    by_contra harmed
    have hshown := (hs.armed (Option.isSome_iff_ne_none.mpr harmed)).2 hlistening
    simp [hhidden] at hshown
  rw [reached, List.foldl_append]
  exact run_hidden _ more hhidden htimer hwakes hmore

theorem hidden_window_quiet_reported :
    (reached true ([.refresh, .health ⟨js "ok"⟩, .visibility false] ++
      [.elapse 600000, .reported (.response 0 none [])])).sent =
        (reached true [.refresh, .health ⟨js "ok"⟩, .visibility false]).sent :=
  hidden_window_quiet true [.refresh, .health ⟨js "ok"⟩, .visibility false]
    [.elapse 600000, .reported (.response 0 none [])]
    ⟨trivial, rfl, trivial, fun _ hdue => absurd hdue (by simp [step, refresh, check, start, onHealth,
      settle, scheduleNext, onVisibilityChange]), trivial, trivial⟩
    rfl rfl (by decide)

/-! ### While the API is down -/

def Turn.outage : Turn → Bool
  | .failure _ | .timer | .elapse _ => true
  | _ => false

def Turn.fails : Turn → Bool
  | .failure _ => true
  | _ => false

structure Failing (failures : ℕ) (s : ApiStatusService) : Prop where
  started : s.started = true
  visible : s.visible = true
  counted : s.consecutiveFailures = failures
  waiting : s.inFlight = false → 0 < failures ∧ ∃ checked, s.lastCheckedAt = some checked ∧
    s.timer = some (checked + offlineDelay failures)

theorem step_failing (s : ApiStatusService) (turn : Turn) (failures : ℕ) (hs : Failing failures s)
    (hturn : turn.outage = true) :
    Failing (failures + if turn.fails then 1 else 0) (step s turn) := by
  obtain ⟨hstarted, hvisible, hcounted, hwaiting⟩ := hs
  cases turn with
  | failure thrown =>
    constructor <;>
      simp_all [step, onError, settle, setOffline, scheduleNext, delay, Turn.fails]
  | timer =>
    obtain ⟨-, -, -, hkept, -, hshown, hfailures, -⟩ := check_kept { s with timer := none }
    constructor <;> simp_all [step, Turn.fails]
  | elapse milliseconds => constructor <;> simp_all [step, Turn.fails]
  | _ => cases hturn

theorem run_failing (s : ApiStatusService) (turns : List Turn) (failures : ℕ)
    (hs : Failing failures s) (hturns : ∀ turn ∈ turns, turn.outage = true) :
    Failing (failures + turns.countP Turn.fails) (turns.foldl step s) := by
  induction turns generalizing s failures with
  | nil => exact hs
  | cons turn rest ih =>
    obtain ⟨hturn, hrest⟩ := List.forall_mem_cons.mp hturns
    have hnext := ih _ _ (step_failing s turn failures hs hturn) hrest
    rw [List.countP_cons, Nat.add_comm (rest.countP _), ← Nat.add_assoc]
    exact hnext

/-- After a refresh that the API does not answer, the n-th failure in a row is followed by the next
check after 5, 10, 20, 40 seconds and then every minute. -/
theorem outage_backs_off (s : ApiStatusService) (turns : List Turn) (hvisible : s.visible = true)
    (hturns : ∀ turn ∈ turns, turn.outage = true) :
    let after := (Turn.refresh :: turns).foldl step s
    let failures := turns.countP Turn.fails
    after.consecutiveFailures = failures ∧ (after.inFlight = true ∨ 0 < failures ∧
      ∃ checked, after.lastCheckedAt = some checked ∧
        after.timer = some (checked + min (5000 * 2 ^ min (failures - 1) 4) 60000)) := by
  intro after failures
  have hstart : Failing 0 (step s .refresh) := by
    obtain ⟨-, -, -, hstarted, -, hshown, hfailures, -⟩ := check_kept
      { s with started := true, consecutiveFailures := 0, timer := none, state := .checking, error := none }
    constructor <;> simp_all [step, refresh]
  have hs := run_failing _ turns 0 hstart hturns
  rw [Nat.zero_add] at hs
  refine ⟨hs.counted, ?_⟩
  cases hflight : after.inFlight with
  | true => exact .inl rfl
  | false => exact .inr (hs.waiting hflight)

theorem outage_backs_off_twice :
    let after := [Turn.refresh, .failure .other, .elapse 5000, .timer, .failure .other].foldl step
      (start true)
    let failures := [Turn.failure .other, .elapse 5000, .timer, .failure .other].countP Turn.fails
    after.consecutiveFailures = failures ∧ (after.inFlight = true ∨ 0 < failures ∧
      ∃ checked, after.lastCheckedAt = some checked ∧
        after.timer = some (checked + min (5000 * 2 ^ min (failures - 1) 4) 60000)) :=
  outage_backs_off (start true) [.failure .other, .elapse 5000, .timer, .failure .other] rfl
    (by simp [Turn.outage])

end Glassbeetle.ApiStatus
