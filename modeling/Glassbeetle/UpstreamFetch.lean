import Glassbeetle.AdapterTypes
import Glassbeetle.Runs

set_option autoImplicit false

/-!
# The request behind a stream

`executeFetch` of the four adapters and the read loop of `stream()` around it:
which timers and which listener lead to the controller of the fetch, and when.
-/
namespace Glassbeetle.UpstreamFetch
open AdapterTypes Runs

inductive Outcome where
  | ended
  | requestAborted
  | requestTimeout
  | providerUnavailable
  /-- An error response, mapped by its status. -/
  | refused
  deriving DecidableEq, Repr

inductive Phase where
  | ready
  /-- `fetch` waits for headers. -/
  | connecting
  /-- The body of an error response is read. -/
  | refusing
  /-- At the head of the read loop. -/
  | opened
  /-- `reader.read()` is pending. -/
  | reading
  /-- The lines of a chunk are parsed and events yielded. -/
  | processing
  /-- The body has ended; what remains in the buffer is parsed. -/
  | flushing
  | finished (outcome : Outcome)
  deriving DecidableEq, Repr

structure Fetch where
  phase : Phase
  callerAborted : Bool
  controllerAborted : Bool
  /-- The caller's signal has the listener that aborts the controller. -/
  listening : Bool
  connectTimer : Bool
  generationTimer : Bool
  timedOut : Bool
  deriving DecidableEq, Repr

def start : Fetch := ⟨.ready, false, false, false, false, false, false⟩

def Fetch.finish (s : Fetch) (outcome : Outcome) : Fetch := { s with phase := .finished outcome }

structure Options where
  signal : Bool
  /-- The timeout is positive, where the adapter asks. -/
  timed : Bool

/-- The parts of `executeFetch` that differ. -/
structure Wiring where
  /-- Up to `fetch`. -/
  connect : Options → Fetch → Fetch
  /-- When `fetch` has resolved. -/
  resolved : Fetch → Fetch
  /-- The `finally` block. -/
  release : Fetch → Fetch
  /-- What a rejected `fetch` is thrown as, by whether it is an `AbortError`. -/
  rejection : Fetch → Bool → Outcome

/-- An aborted signal ends the call before anything is sent. -/
def connectOrThrow (options : Options) (s : Fetch) : Fetch :=
  if options.signal && s.callerAborted then s.finish .requestAborted
  else { s with phase := .connecting, listening := options.signal, connectTimer := true }

/-- An aborted signal is handed on to the controller. -/
def connectOrAbort (options : Options) (s : Fetch) : Fetch :=
  if options.signal then
    if s.callerAborted then { s with phase := .connecting, controllerAborted := true }
    else { s with phase := .connecting, listening := true }
  else { s with phase := .connecting }

def clearTimers (s : Fetch) : Fetch := { s with connectTimer := false, generationTimer := false }

namespace OpenAi

def executeFetch : Wiring where
  connect := connectOrThrow
  resolved s := { s with connectTimer := false }
  release s := s
  rejection s _ :=
    if s.timedOut then .providerUnavailable
    else if s.callerAborted then .requestAborted
    else .providerUnavailable

end OpenAi

namespace Anthropic

def executeFetch : Wiring where
  connect := connectOrThrow
  resolved s := { s with connectTimer := false }
  release s := s
  rejection s abortError :=
    if s.timedOut then .requestTimeout
    else if s.callerAborted || abortError then .requestAborted
    else .providerUnavailable

end Anthropic

namespace Google

/-- Its one timer runs until the `finally` block. -/
def executeFetch : Wiring where
  connect options s := connectOrAbort options { s with generationTimer := options.timed }
  resolved s := s
  release s := { clearTimers s with listening := false }
  rejection s abortError :=
    if s.callerAborted || abortError then .requestAborted else .providerUnavailable

end Google

namespace Ollama

def executeFetch : Wiring where
  connect options s :=
    connectOrAbort options { s with connectTimer := true, generationTimer := options.timed }
  resolved s := { s with connectTimer := false }
  release s := { clearTimers s with listening := false }
  rejection s _ := if s.callerAborted then .requestAborted else .providerUnavailable

end Ollama

def executeFetch : AdapterKind → Wiring
  | .anthropic => Anthropic.executeFetch
  | .openAi => OpenAi.executeFetch
  | .google => Google.executeFetch
  | .ollama => Ollama.executeFetch

inductive Action where
  /-- The consumer asks for the first event. -/
  | stream
  | callerAbort
  | connectTimeout
  | generationTimeout
  | headers
  | errorStatus
  | errorBody
  | reject (abortError : Bool)
  | noBody
  /-- The next round of the read loop. -/
  | iterate
  | chunk
  | bodyEnd
  | readFails (abortError : Bool)
  /-- A terminal event, the end of the flush, or a consumer that leaves. -/
  | leave (outcome : Outcome)
  deriving DecidableEq, Repr

/-- A read that fails is the caller's doing where it looks like it; Anthropic's loop does not ask
for the signal. -/
def readFailure (kind : AdapterKind) (s : Fetch) (abortError : Bool) : Outcome :=
  if (s.callerAborted && kind ≠ .anthropic) || abortError then .requestAborted
  else .providerUnavailable

/-- An action that does not belong to the phase does nothing. -/
def step (kind : AdapterKind) (options : Options) (s : Fetch) : Action → Fetch
  | .stream => if s.phase = .ready then (executeFetch kind).connect options s else s
  | .callerAbort =>
    if options.signal && !s.callerAborted then
      { s with callerAborted := true, controllerAborted := s.controllerAborted || s.listening,
               listening := false }
    else s
  | .connectTimeout =>
    if s.connectTimer then
      { s with controllerAborted := true, connectTimer := false, timedOut := true }
    else s
  | .generationTimeout =>
    if s.generationTimer then { s with controllerAborted := true, generationTimer := false } else s
  | .headers =>
    if s.phase = .connecting then
      { (executeFetch kind).release ((executeFetch kind).resolved s) with phase := .opened }
    else s
  | .errorStatus =>
    if s.phase = .connecting then { (executeFetch kind).resolved s with phase := .refusing } else s
  | .errorBody =>
    if s.phase = .refusing then ((executeFetch kind).release s).finish .refused else s
  | .reject abortError =>
    if s.phase = .connecting then
      ((executeFetch kind).release s).finish ((executeFetch kind).rejection s abortError)
    else s
  | .noBody => if s.phase = .opened then s.finish .providerUnavailable else s
  | .iterate =>
    if s.phase = .opened ∨ s.phase = .processing then
      if options.signal && s.callerAborted then s.finish .requestAborted
      else { s with phase := .reading }
    else s
  | .chunk => if s.phase = .reading then { s with phase := .processing } else s
  | .bodyEnd => if s.phase = .reading then { s with phase := .flushing } else s
  | .readFails abortError =>
    if s.phase = .reading then s.finish (readFailure kind s abortError) else s
  | .leave outcome =>
    if s.phase = .processing ∨ s.phase = .flushing then s.finish outcome else s

def Phase.underway : Phase → Bool
  | .ready | .finished _ => false
  | _ => true

def Phase.streaming : Phase → Bool
  | .opened | .reading | .processing | .flushing => true
  | _ => false

/-- An abort by the caller has reached the request. -/
def Reached (s : Fetch) : Prop :=
  s.phase.underway = true → s.callerAborted = true → s.controllerAborted = true

/-- The adapters that stop listening when the headers have come. -/
def deaf : AdapterKind → Bool
  | .google | .ollama => true
  | .anthropic | .openAi => false

/-- Not a first abort while a deaf adapter reads a body that no timeout has cut. -/
def Heard (kind : AdapterKind) (options : Options) (s : Fetch) (action : Action) : Prop :=
  action = .callerAbort → options.signal = true → deaf kind = true → s.phase.streaming = true →
    s.callerAborted = true ∨ s.controllerAborted = true

def Listens (kind : AdapterKind) (options : Options) (s : Fetch) : Prop :=
  s.phase.underway = true → options.signal = true → s.callerAborted = false →
    s.listening = !(deaf kind && s.phase.streaming)

structure Onward (kind : AdapterKind) (s t : Fetch) : Prop where
  caller : t.callerAborted = s.callerAborted
  controller : s.controllerAborted = true → t.controllerAborted = true
  underway : t.phase.underway = true → s.phase.underway = true
  streaming : t.phase.underway = true → s.phase.streaming = true → t.phase.streaming = true
  listening : t.phase.underway = true → t.listening = (s.listening && !(deaf kind && t.phase.streaming))

theorem listening_kept (flag listening : Bool) (h : flag = true → listening = false) :
    listening = (listening && !flag) := by
  cases flag
  · simp
  · rw [h rfl]
    rfl

variable (kind : AdapterKind) (options : Options)

theorem onward_finish (s t : Fetch) (outcome : Outcome) (hcaller : t.callerAborted = s.callerAborted)
    (hcontroller : t.controllerAborted = s.controllerAborted) : Onward kind s (t.finish outcome) :=
  ⟨hcaller, fun h => hcontroller.trans h, fun h => absurd h Bool.false_ne_true,
    fun h => absurd h Bool.false_ne_true, fun h => absurd h Bool.false_ne_true⟩

theorem release_kept (s : Fetch) :
    ((executeFetch kind).release s).callerAborted = s.callerAborted ∧
      ((executeFetch kind).release s).controllerAborted = s.controllerAborted ∧
      ((executeFetch kind).release s).listening = (s.listening && !deaf kind) := by
  cases kind <;> simp [executeFetch, Anthropic.executeFetch, OpenAi.executeFetch,
    Google.executeFetch, Ollama.executeFetch, clearTimers, deaf]

theorem resolved_kept (s : Fetch) :
    ((executeFetch kind).resolved s).callerAborted = s.callerAborted ∧
      ((executeFetch kind).resolved s).controllerAborted = s.controllerAborted ∧
      ((executeFetch kind).resolved s).listening = s.listening := by
  cases kind <;> exact ⟨rfl, rfl, rfl⟩

theorem onward_streaming (s : Fetch) (phase : Phase) (hs : s.phase.streaming = true)
    (hphase : phase.streaming = true)
    (hlistening : (deaf kind && s.phase.streaming) = true → s.listening = false) :
    Onward kind s { s with phase := phase } where
  caller := rfl
  controller h := h
  underway _ := by cases hp : s.phase <;> simp [hp, Phase.streaming] at hs <;> rfl
  streaming _ _ := hphase
  listening _ := by rw [hphase, ← hs]; exact listening_kept _ _ hlistening

theorem onward_headers (s : Fetch) (hs : s.phase = .connecting) : Onward kind s
    { (executeFetch kind).release ((executeFetch kind).resolved s) with phase := .opened } := by
  obtain ⟨hcaller, hcontroller, hreleased⟩ := release_kept kind ((executeFetch kind).resolved s)
  obtain ⟨hcaller', hcontroller', hresolved⟩ := resolved_kept kind s
  refine ⟨hcaller.trans hcaller', fun h => (hcontroller.trans hcontroller').trans h,
    fun _ => by rw [hs]; rfl, fun _ _ => rfl, fun _ => ?_⟩
  change ((executeFetch kind).release ((executeFetch kind).resolved s)).listening =
    (s.listening && !(deaf kind && true))
  rw [hreleased, hresolved, Bool.and_true]

theorem onward_errorStatus (s : Fetch) (hs : s.phase = .connecting) :
    Onward kind s { (executeFetch kind).resolved s with phase := .refusing } := by
  obtain ⟨hcaller, hcontroller, hresolved⟩ := resolved_kept kind s
  refine ⟨hcaller, fun h => hcontroller.trans h, fun _ => by rw [hs]; rfl,
    fun _ h => absurd h (by rw [hs]; exact Bool.false_ne_true), fun _ => ?_⟩
  change ((executeFetch kind).resolved s).listening = (s.listening && !(deaf kind && false))
  rw [hresolved, Bool.and_false, Bool.not_false, Bool.and_true]

theorem onward_rest (s : Fetch) (action : Action) (hstream : action ≠ .stream)
    (habort : action ≠ .callerAbort)
    (hlistening : (deaf kind && s.phase.streaming) = true → s.listening = false) :
    Onward kind s (step kind options s action) := by
  have hsame : Onward kind s s := ⟨rfl, id, id, fun _ => id, fun _ => listening_kept _ _ hlistening⟩
  have hwhen : ∀ (belongs : Prop) [Decidable belongs] (t : Fetch), (belongs → Onward kind s t) →
      Onward kind s (if belongs then t else s) := by
    intro belongs _ t ht
    split_ifs with h
    · exact ht h
    · exact hsame
  obtain ⟨hcaller, hcontroller, hreleased⟩ := release_kept kind s
  cases action with
  | stream => exact absurd rfl hstream
  | callerAbort => exact absurd rfl habort
  | connectTimeout =>
    exact hwhen _ _ fun _ =>
      ⟨rfl, fun _ => rfl, id, fun _ => id, fun _ => listening_kept _ _ hlistening⟩
  | generationTimeout =>
    exact hwhen _ _ fun _ =>
      ⟨rfl, fun _ => rfl, id, fun _ => id, fun _ => listening_kept _ _ hlistening⟩
  | headers => exact hwhen _ _ (onward_headers kind s)
  | errorStatus => exact hwhen _ _ (onward_errorStatus kind s)
  | errorBody => exact hwhen _ _ fun _ => onward_finish kind s _ _ hcaller hcontroller
  | reject abortError => exact hwhen _ _ fun _ => onward_finish kind s _ _ hcaller hcontroller
  | noBody => exact hwhen _ _ fun _ => onward_finish kind s s _ rfl rfl
  | iterate =>
    refine hwhen _ _ fun hphase => ?_
    split_ifs
    · exact onward_finish kind s s _ rfl rfl
    · refine onward_streaming kind s .reading ?_ rfl hlistening
      rcases hphase with h | h <;> rw [h] <;> rfl
  | chunk =>
    refine hwhen _ _ fun hphase => ?_
    exact onward_streaming kind s .processing (by rw [hphase]; rfl) rfl hlistening
  | bodyEnd =>
    refine hwhen _ _ fun hphase => ?_
    exact onward_streaming kind s .flushing (by rw [hphase]; rfl) rfl hlistening
  | readFails abortError => exact hwhen _ _ fun _ => onward_finish kind s s _ rfl rfl
  | leave outcome => exact hwhen _ _ fun _ => onward_finish kind s s _ rfl rfl

structure Wired (s : Fetch) : Prop where
  listens : Listens kind options s
  dropped : (deaf kind && s.phase.streaming) = true → s.listening = false
  signal : s.callerAborted = true → options.signal = true

theorem wired_start : Wired kind options start :=
  ⟨fun h => absurd h Bool.false_ne_true, fun _ => rfl, fun h => absurd h Bool.false_ne_true⟩

theorem underway_of_streaming (phase : Phase) (h : phase.streaming = true) :
    phase.underway = true := by
  cases phase <;> first
    | rfl
    | exact absurd h Bool.false_ne_true

variable {kind options} {s : Fetch}

theorem wired_onward {t : Fetch} (h : Wired kind options s) (hon : Onward kind s t) :
    Wired kind options t := by
  refine ⟨fun hunder hsignal hcaller => ?_, fun hdeaf => ?_, fun hcaller => ?_⟩
  · rw [hon.listening hunder, h.listens (hon.underway hunder) hsignal (hon.caller ▸ hcaller)]
    cases hs : s.phase.streaming
    · simp
    · rw [hon.streaming hunder hs]
      simp
  · have hunder := underway_of_streaming _ (Bool.and_eq_true_iff.mp hdeaf).2
    rw [hon.listening hunder, hdeaf]
    simp
  · exact h.signal (hon.caller ▸ hcaller)

theorem reached_onward {t : Fetch} (h : Reached s) (hon : Onward kind s t) : Reached t :=
  fun hunder hcaller => hon.controller (h (hon.underway hunder) (hon.caller ▸ hcaller))

/-- The request begins with the caller's abort handed on, or with the listener in place. -/
theorem stream_wired (h : Wired kind options s) (hr : Reached s) :
    Wired kind options (step kind options s .stream) ∧ Reached (step kind options s .stream) := by
  have hthrow : Wired kind options (connectOrThrow options s) ∧ Reached (connectOrThrow options s) := by
    unfold connectOrThrow
    split_ifs with haborted
    · exact ⟨⟨fun h => absurd h Bool.false_ne_true, fun h => absurd h (by simp [Fetch.finish, Phase.streaming]),
        h.signal⟩, fun h => absurd h Bool.false_ne_true⟩
    · have hcaller : s.callerAborted = true → options.signal = false := by
        intro hc
        simpa [hc] using haborted
      refine ⟨⟨fun _ hs _ => ?_, fun h => absurd h (by simp [Phase.streaming]), h.signal⟩, fun _ hc => ?_⟩
      · change options.signal = !(deaf kind && false)
        rw [hs, Bool.and_false]
        rfl
      · exact absurd (h.signal hc) (by rw [hcaller hc]; exact Bool.false_ne_true)
  have habort : ∀ before : Fetch, before.callerAborted = s.callerAborted →
      before.listening = s.listening →
      Wired kind options (connectOrAbort options before) ∧ Reached (connectOrAbort options before) := by
    intro before hcaller hlistening
    unfold connectOrAbort
    split_ifs with hsignal haborted
    · refine ⟨⟨fun _ _ hc => ?_, fun h => absurd h (by simp [Phase.streaming]), fun _ => hsignal⟩,
        fun _ _ => rfl⟩
      exact absurd haborted (by rw [hc]; exact Bool.false_ne_true)
    · refine ⟨⟨fun _ _ _ => ?_, fun h => absurd h (by simp [Phase.streaming]), fun _ => hsignal⟩,
        fun _ hc => absurd hc haborted⟩
      change true = !(deaf kind && false)
      rw [Bool.and_false]
      rfl
    · have hnever : ¬ before.callerAborted = true := fun hc => hsignal (h.signal (hcaller ▸ hc))
      exact ⟨⟨fun _ hs => absurd hs hsignal, fun h => absurd h (by simp [Phase.streaming]),
        fun hc => absurd hc hnever⟩, fun _ hc => absurd hc hnever⟩
  dsimp only [step]
  split_ifs with hphase
  · cases kind with
    | anthropic => exact hthrow
    | openAi => exact hthrow
    | google => exact habort _ rfl rfl
    | ollama => exact habort _ rfl rfl
  · exact ⟨h, hr⟩

theorem callerAbort_wired (h : Wired kind options s) :
    Wired kind options (step kind options s .callerAbort) := by
  dsimp only [step]
  split_ifs with hfirst
  · exact ⟨fun _ _ hc => absurd hc (by simp), fun _ => rfl,
      fun _ => (Bool.and_eq_true_iff.mp hfirst).1⟩
  · exact h

theorem callerAbort_reached (h : Wired kind options s) (hr : Reached s) :
    Reached (step kind options s .callerAbort) ↔ Heard kind options s .callerAbort := by
  dsimp only [step]
  split_ifs with hfirst
  · obtain ⟨hsignal, hcaller⟩ := Bool.and_eq_true_iff.mp hfirst
    replace hcaller : s.callerAborted = false := by simpa using hcaller
    constructor
    · intro hreached _ _ hdeaf hstreaming
      have hunder := underway_of_streaming _ hstreaming
      have hcontroller := hreached hunder rfl
      rw [h.listens hunder hsignal hcaller, hdeaf, hstreaming] at hcontroller
      exact .inr (by simpa using hcontroller)
    · intro hheard hunder _
      change (s.controllerAborted || s.listening) = true
      rw [h.listens hunder hsignal hcaller]
      cases hdeaf : deaf kind && s.phase.streaming
      · simp
      · obtain ⟨hd, hs⟩ := Bool.and_eq_true_iff.mp hdeaf
        rcases hheard rfl hsignal hd hs with hc | hc
        · exact absurd hc (by rw [hcaller]; exact Bool.false_ne_true)
        · rw [hc]
          rfl
  · refine ⟨fun _ _ hsignal _ _ => .inl ?_, fun _ => hr⟩
    simpa [hsignal] using hfirst

/-- In every run the caller's abort is known to the request as long as it is underway, exactly when
no deaf adapter is reading at the first abort. -/
theorem abort_reaches_upstream (kind : AdapterKind) (options : Options) (actions : List Action) :
    (∀ s ∈ states (step kind options) start actions, Reached s) ↔
      Allowed (step kind options) (Heard kind options) start actions := by
  have hboth : ∀ s action, Wired kind options s → Reached s →
      Wired kind options (step kind options s action) ∧
        (Reached (step kind options s action) ↔ Heard kind options s action) := by
    intro s action hwired hreached
    by_cases hstream : action = .stream
    · subst hstream
      obtain ⟨hwired', hreached'⟩ := stream_wired hwired hreached
      exact ⟨hwired', iff_of_true hreached' fun h => nomatch h⟩
    · by_cases habort : action = .callerAbort
      · subst habort
        exact ⟨callerAbort_wired hwired, callerAbort_reached hwired hreached⟩
      · have hon := onward_rest kind options s action hstream habort hwired.dropped
        exact ⟨wired_onward hwired hon,
          iff_of_true (reached_onward hreached hon) fun h => absurd h habort⟩
  exact run_iff (step kind options) (Heard kind options) (Wired kind options) Reached
    (fun s action hwired hreached => (hboth s action hwired hreached).1)
    (fun s action hwired hreached => (hboth s action hwired hreached).2) start actions
    (wired_start kind options) fun h => absurd h Bool.false_ne_true

def departure : List Action := [.stream, .headers, .iterate, .callerAbort]

theorem departure_unheard :
    departure.foldl (step .google ⟨true, true⟩) start =
        ⟨.reading, true, false, false, false, false, false⟩ ∧
      ¬ ∀ s ∈ states (step .google ⟨true, true⟩) start departure, Reached s := by
  refine ⟨by decide, fun h => ?_⟩
  have hlast := h _ (final_mem _ start departure)
  exact absurd (hlast (by decide) (by decide)) (by decide)

end Glassbeetle.UpstreamFetch
