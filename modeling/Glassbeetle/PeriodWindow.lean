import Glassbeetle.CivilCalendar
import Glassbeetle.JsText

set_option autoImplicit false

/-!
# Budget windows

`period-window.ts`. An instant is a number of milliseconds from 1970; `none` is
the `RangeError` that an invalid `Date` raises in the formatter or in
`toISOString`.
-/
namespace Glassbeetle.PeriodWindow
open CivilCalendar JsText

inductive BudgetPeriod where
  | daily
  | weekly
  | monthly
  deriving DecidableEq, Repr

def dayMs : ℤ := 86400000

def reach : ℤ := 50400000

structure Change where
  instant : ℤ
  before : ℤ
  after : ℤ
  beforeBound : -50400 ≤ before ∧ before ≤ 50400
  afterBound : -50400 ≤ after ∧ after ≤ 50400
  jump : -36000 ≤ after - before ∧ after - before ≤ 36000

/-- The clock does nothing else within fourteen hours of the moment. -/
def Describes (offset : ℤ → ℤ) (c : Change) (moment : ℤ) : Prop :=
  ∀ t, moment - reach ≤ t → t ≤ moment + reach →
    offset t = if t < c.instant then c.before else c.after

/-- What the formatter knows of a zone. -/
structure Zone where
  offset : ℤ → ℤ
  isolated : ∀ moment, ∃ c, Describes offset c moment

def utc : Zone :=
  ⟨fun _ => 0, fun _ => ⟨⟨0, 0, 0, by decide, by decide, by decide⟩, fun _ _ _ => by simp⟩⟩

/-- `new Date(ms)`, if that is a valid date. -/
def newDate (ms : ℤ) : Option ℤ :=
  if -8640000000000000 ≤ ms ∧ ms ≤ 8640000000000000 then some ms else none

/-- `Date.UTC` reads the years 0 to 99 as those of the twentieth century. -/
def fullYear (year : ℤ) : ℤ := if 0 ≤ year ∧ year ≤ 99 then 1900 + year else year

def dateUTC (date : CivilDate) (hour minute second : ℤ) : Option ℤ :=
  newDate (dayMs * dayNumber ⟨fullYear date.year, date.month, date.day⟩ +
    3600000 * hour + 60000 * minute + 1000 * second)

structure ZonedParts where
  date : CivilDate
  hour : ℤ
  minute : ℤ
  second : ℤ
  deriving DecidableEq, Repr

/-- Without an era, the year before 1 is shown as 1 again. -/
def shownYear (year : ℤ) : ℤ := if 1 ≤ year then year else 1 - year

def localTime (zone : Zone) (instant : ℤ) : ℤ := instant + 1000 * zone.offset instant

def dayIn (zone : Zone) (instant : ℤ) : ℤ := localTime zone instant / dayMs

def partsIn (zone : Zone) (instant : ℤ) : ZonedParts :=
  let date := civil (dayIn zone instant)
  let seconds := localTime zone instant % dayMs / 1000
  { date := { date with year := shownYear date.year }
    hour := seconds / 3600
    minute := seconds % 3600 / 60
    second := seconds % 60 }

def civilDateIn (zone : Zone) (instant : ℤ) : CivilDate := (partsIn zone instant).date

def zoneOffsetMs (zone : Zone) (instant : ℤ) : Option ℤ :=
  let parts := partsIn zone instant
  (dateUTC parts.date parts.hour parts.minute parts.second).map fun asIfUtc =>
    asIfUtc - instant / 1000 * 1000

def utcDate (date : CivilDate) : Option ℤ := dateUTC date 0 0 0

def instantAtCivilMidnight (zone : Zone) (date : CivilDate) : Option ℤ := do
  let asIfUtc ← utcDate date
  let guessOffset ← zoneOffsetMs zone asIfUtc
  let firstGuess ← newDate (asIfUtc - guessOffset)
  let offset ← zoneOffsetMs zone firstGuess
  newDate (asIfUtc - offset)

def getUTCDay (instant : ℤ) : ℤ := (instant / dayMs + 4) % 7

def addDays (date : CivilDate) (days : ℤ) : Option CivilDate := do
  let base ← utcDate date
  let shifted ← newDate (base + days * dayMs)
  return civil (shifted / dayMs)

def startCivilDate (period : BudgetPeriod) (today : CivilDate) : Option CivilDate :=
  match period with
  | .daily => some today
  | .weekly => do
    let date ← utcDate today
    addDays today (-((getUTCDay date + 6) % 7))
  | .monthly => some { today with day := 1 }

def nextMonth (start : CivilDate) : CivilDate :=
  if start.month = 12 then ⟨start.year + 1, 1, 1⟩
  else { start with month := start.month + 1, day := 1 }

def advance (period : BudgetPeriod) (start : CivilDate) : Option CivilDate :=
  match period with
  | .daily => addDays start 1
  | .weekly => addDays start 7
  | .monthly => some (nextMonth start)

structure Window where
  start : ℤ
  endsAt : ℤ
  deriving DecidableEq, Repr

/-- `lookup` is the platform's zone database; a name it does not know falls back to UTC. -/
def usableZone (lookup : JsString → Option Zone) (timeZone : Option JsString) : Zone :=
  match timeZone with
  | none => utc
  | some name => if name = [] then utc else (lookup name).getD utc

def periodWindow (lookup : JsString → Option Zone) (period : BudgetPeriod) (now : ℤ)
    (timeZone : Option JsString) : Option Window := do
  let zone := usableZone lookup timeZone
  let now ← newDate now
  let start ← startCivilDate period (civilDateIn zone now)
  let finish ← advance period start
  let startInstant ← instantAtCivilMidnight zone start
  let endInstant ← instantAtCivilMidnight zone finish
  return ⟨startInstant, endInstant⟩

end Glassbeetle.PeriodWindow
