import Glassbeetle.PeriodWindow

set_option autoImplicit false

namespace Glassbeetle.WindowTiling
open CivilCalendar PeriodWindow

def monthEnd (date : CivilDate) : ℤ := dayFromYear date.year + monthStart date.year (date.month + 1)

def startDay (period : BudgetPeriod) (day : ℤ) : ℤ :=
  match period with
  | .daily => day
  | .weekly => day - (day + 3) % 7
  | .monthly => dayFromYear (civil day).year + monthStart (civil day).year (civil day).month

def endDay (period : BudgetPeriod) (day : ℤ) : ℤ :=
  match period with
  | .daily => day + 1
  | .weekly => startDay .weekly day + 7
  | .monthly => monthEnd (civil day)

theorem monthly_bounds (day : ℤ) :
    startDay .monthly day ≤ day ∧ day < endDay .monthly day := by
  obtain ⟨-, -, h1, h2⟩ := civil_bounds day
  have hd := dayNumber_civil day
  unfold dayNumber at hd
  unfold startDay endDay monthEnd
  dsimp only
  omega

theorem startDay_le (period : BudgetPeriod) (day : ℤ) : startDay period day ≤ day := by
  cases period with
  | daily => exact Int.le_refl _
  | weekly => unfold startDay; dsimp only; omega
  | monthly => exact (monthly_bounds day).1

theorem lt_endDay (period : BudgetPeriod) (day : ℤ) : day < endDay period day := by
  cases period with
  | daily => unfold endDay; dsimp only; omega
  | weekly => unfold endDay startDay; dsimp only; omega
  | monthly => exact (monthly_bounds day).2

theorem civil_same_month (day other : ℤ) (h1 : startDay .monthly day ≤ other)
    (h2 : other < endDay .monthly day) :
    (civil other).year = (civil day).year ∧ (civil other).month = (civil day).month := by
  obtain ⟨m1, m2, -, -⟩ := civil_bounds day
  rw [civil_unique (civil day).year (civil day).month other m1 m2 h1 h2]
  exact ⟨rfl, rfl⟩

theorem civil_monthEnd (day : ℤ) :
    civil (endDay .monthly day) = nextMonth { civil day with day := 1 } := by
  obtain ⟨m1, m2, -, -⟩ := civil_bounds day
  have hn := dayFromYear_next (civil day).year
  rw [← monthStart_next_year] at hn
  unfold nextMonth
  dsimp only
  split_ifs with h12
  · have he : endDay .monthly day = dayFromYear ((civil day).year + 1) +
        monthStart ((civil day).year + 1) 1 := by
      change dayFromYear _ + monthStart _ ((civil day).month + 1) = _ + 0
      rw [h12, hn, Int.add_zero, show (12 : ℤ) + 1 = 13 by decide]
    have hb := monthStart_bounds ((civil day).year + 1) 1 (by omega) (by omega)
    rw [he, civil_unique _ 1 _ (by omega) (by omega) (Int.le_refl _) (by omega)]
    congr 1
    omega
  · have hb := monthStart_bounds (civil day).year ((civil day).month + 1) (by omega) (by omega)
    have he : endDay .monthly day = dayFromYear (civil day).year +
      monthStart (civil day).year ((civil day).month + 1) := rfl
    rw [he, civil_unique _ ((civil day).month + 1) _ (by omega) (by omega) (Int.le_refl _) (by omega)]
    congr 1
    omega

theorem startDay_endDay (period : BudgetPeriod) (day : ℤ) :
    startDay period (endDay period day) = endDay period day := by
  cases period with
  | daily => rfl
  | weekly => unfold endDay startDay; dsimp only; omega
  | monthly =>
    have hc := civil_monthEnd day
    have hn := dayNumber_civil (endDay .monthly day)
    have hday : (civil (endDay .monthly day)).day = 1 := by
      rw [hc]
      unfold nextMonth
      split_ifs <;> rfl
    unfold dayNumber at hn
    rw [hday] at hn
    unfold startDay
    dsimp only
    omega

theorem startDay_last (period : BudgetPeriod) (day : ℤ) :
    startDay period (endDay period day - 1) = startDay period day := by
  cases period with
  | daily => unfold endDay startDay; dsimp only; omega
  | weekly => unfold endDay startDay; dsimp only; omega
  | monthly =>
    obtain ⟨h1, h2⟩ := monthly_bounds day
    obtain ⟨hy, hm⟩ := civil_same_month day (endDay .monthly day - 1) (by omega) (by omega)
    unfold startDay
    dsimp only
    rw [hy, hm]

theorem endDay_last (period : BudgetPeriod) (day : ℤ) :
    endDay period (endDay period day - 1) = endDay period day := by
  cases period with
  | daily => unfold endDay; dsimp only; omega
  | weekly => unfold endDay startDay; dsimp only; omega
  | monthly =>
    obtain ⟨h1, h2⟩ := monthly_bounds day
    obtain ⟨hy, hm⟩ := civil_same_month day (endDay .monthly day - 1) (by omega) (by omega)
    unfold endDay monthEnd at *
    dsimp only at *
    rw [hy, hm]

def midnight (zone : Zone) (day : ℤ) : ℤ :=
  dayMs * day - 1000 * zone.offset (dayMs * day - 1000 * zone.offset (dayMs * day))

theorem offset_bounds (zone : Zone) (t : ℤ) : -50400 ≤ zone.offset t ∧ zone.offset t ≤ 50400 := by
  obtain ⟨c, hc⟩ := zone.isolated t
  have hb := c.beforeBound
  have ha := c.afterBound
  have h := hc t (by unfold reach; omega) (by unfold reach; omega)
  split_ifs at h <;> omega

theorem midnight_bounds (zone : Zone) (day : ℤ) :
    dayMs * day - reach ≤ midnight zone day ∧ midnight zone day ≤ dayMs * day + reach := by
  have h := offset_bounds zone (dayMs * day - 1000 * zone.offset (dayMs * day))
  unfold midnight reach
  omega

theorem le_dayIn (zone : Zone) (day t : ℤ) :
    day ≤ dayIn zone t ↔ dayMs * day ≤ t + 1000 * zone.offset t := by
  unfold dayIn localTime dayMs
  omega

/-- The start of the window lies past the instant: a clock put back over the first midnight
shows the day twice, or one put forward over it is read with the offset from before. -/
def StartMissed (c : Change) (midnightUtc now : ℤ) : Prop :=
  c.instant ≤ midnightUtc ∧
    (c.instant + 1000 * c.after ≤ midnightUtc ∧ midnightUtc < c.instant + 1000 * c.before ∧
        midnightUtc - 1000 * c.before ≤ now ∧ now < c.instant ∨
      c.instant + 1000 * c.before ≤ midnightUtc ∧ midnightUtc < c.instant + 1000 * c.after ∧
        c.instant ≤ now ∧ now < midnightUtc - 1000 * c.before)

/-- The instant lies past the end of the window: the clock is put back over the last midnight
after that has passed once. -/
def EndPassed (c : Change) (midnightUtc now : ℤ) : Prop :=
  midnightUtc < c.instant ∧ c.instant + 1000 * c.after ≤ midnightUtc ∧
    midnightUtc < c.instant + 1000 * c.before ∧ c.instant ≤ now ∧
      now < midnightUtc - 1000 * c.after

/-- The end of the window falls before the last midnight: the clock is put forward over it
and the offset from after is applied. -/
def EndSkipped (c : Change) (midnightUtc : ℤ) : Prop :=
  midnightUtc < c.instant ∧ c.instant + 1000 * c.before ≤ midnightUtc ∧
    midnightUtc < c.instant + 1000 * c.after

theorem midnight_offsets (zone : Zone) (day : ℤ) (c : Change)
    (h : Describes zone.offset c (dayMs * day)) : ∃ first second,
      (first = if dayMs * day < c.instant then c.before else c.after) ∧
      (second = if dayMs * day - 1000 * first < c.instant then c.before else c.after) ∧
      midnight zone day = dayMs * day - 1000 * second := by
  have hfirst := h (dayMs * day) (by unfold reach; omega) (by unfold reach; omega)
  have hb := offset_bounds zone (dayMs * day)
  have hsecond := h (dayMs * day - 1000 * zone.offset (dayMs * day))
    (by unfold reach; omega) (by unfold reach; omega)
  exact ⟨_, _, hfirst, hsecond, rfl⟩

theorem midnight_le (zone : Zone) (day now : ℤ) (c : Change)
    (h : Describes zone.offset c (dayMs * day)) (hd : day ≤ dayIn zone now) :
    midnight zone day ≤ now ↔ ¬ StartMissed c (dayMs * day) now := by
  rw [le_dayIn] at hd
  obtain ⟨first, second, hf, hs, hm⟩ := midnight_offsets zone day c h
  have hbefore := c.beforeBound
  have hafter := c.afterBound
  have hnow := offset_bounds zone now
  have hbounds := midnight_bounds zone day
  unfold StartMissed
  by_cases hfar : dayMs * day + reach < now
  · unfold reach at *
    split_ifs at hf hs <;> omega
  · have hn := h now (by unfold reach at *; omega) (by omega)
    rw [hn] at hd
    split_ifs at hf hs hd <;> omega

theorem lt_midnight (zone : Zone) (day now : ℤ) (c : Change)
    (h : Describes zone.offset c (dayMs * day)) (hskip : ¬ EndSkipped c (dayMs * day))
    (hd : dayIn zone now < day) :
    now < midnight zone day ↔ ¬ EndPassed c (dayMs * day) now := by
  have hd := not_le.mpr hd
  rw [le_dayIn] at hd
  obtain ⟨first, second, hf, hs, hm⟩ := midnight_offsets zone day c h
  have hbefore := c.beforeBound
  have hafter := c.afterBound
  have hnow := offset_bounds zone now
  have hbounds := midnight_bounds zone day
  unfold EndPassed
  unfold EndSkipped at hskip
  by_cases hfar : now < dayMs * day - reach
  · unfold reach at *
    split_ifs at hf hs <;> omega
  · have hn := h now (by omega) (by unfold reach at *; omega)
    rw [hn] at hd
    split_ifs at hf hs hd <;> omega

instance (c : Change) (midnightUtc : ℤ) : Decidable (EndSkipped c midnightUtc) :=
  inferInstanceAs (Decidable (_ ∧ _))

/-- The instant found for a midnight lies on its day, or on the day before if the clock skips that
midnight. -/
theorem dayIn_midnight (zone : Zone) (day : ℤ) (c : Change)
    (h : Describes zone.offset c (dayMs * day)) :
    dayIn zone (midnight zone day) = if EndSkipped c (dayMs * day) then day - 1 else day := by
  obtain ⟨first, second, hf, hs, hm⟩ := midnight_offsets zone day c h
  have hjump := c.jump
  obtain ⟨hlow, hhigh⟩ := midnight_bounds zone day
  have hoff := h (midnight zone day) hlow hhigh
  have h0 := le_dayIn zone (day - 1) (midnight zone day)
  have h1 := le_dayIn zone day (midnight zone day)
  have h2 := le_dayIn zone (day + 1) (midnight zone day)
  rw [hoff, hm] at h0 h1 h2
  rw [hm]
  split_ifs with hskip
  · unfold EndSkipped dayMs at *
    split_ifs at hf hs h0 h1 <;> omega
  · unfold EndSkipped dayMs at *
    split_ifs at hf hs h1 h2 <;> omega

/-- The offset from after a skipped midnight is short of ten hours, so its instant is past the
midnight of any earlier day. -/
theorem midnight_skipped (zone : Zone) (day earlier : ℤ) (c : Change)
    (h : Describes zone.offset c (dayMs * day)) (hskip : EndSkipped c (dayMs * day))
    (he : earlier < day) : midnight zone earlier < midnight zone day := by
  obtain ⟨first, second, hf, hs, hm⟩ := midnight_offsets zone day c h
  have hjump := c.jump
  have hb := (midnight_bounds zone earlier).2
  unfold EndSkipped at hskip
  rw [hm]
  unfold dayMs reach at *
  split_ifs at hf hs <;> omega

/-! ## The code finds these days and instants -/

def maxTime : ℤ := 8640000000000000

/-- The clock of the zone shows a date from year 100 on, which `Date.UTC` does not misread, and neither
it nor the instant is past the last valid date. -/
def Readable (zone : Zone) (t : ℤ) : Prop :=
  dayFromYear 100 ≤ dayIn zone t ∧ t ≤ maxTime ∧ localTime zone t ≤ maxTime

def Ordinary (zone : Zone) (day : ℤ) : Prop :=
  dayFromYear 100 ≤ day ∧ Readable zone (dayMs * day) ∧
    Readable zone (dayMs * day - 1000 * zone.offset (dayMs * day)) ∧ midnight zone day ≤ maxTime

theorem hundred_le_year (day : ℤ) (h : dayFromYear 100 ≤ day) : 100 ≤ (civil day).year := by
  have hy := (yearFromDay_bounds day).2
  by_contra hlt
  change ¬ 100 ≤ yearFromDay day at hlt
  rcases Int.lt_or_eq_of_le (show yearFromDay day + 1 ≤ 100 by omega) with hlt | he
  · have := dayFromYear_lt _ _ hlt
    omega
  · rw [he] at hy
    omega

theorem newDate_some (ms : ℤ) (h1 : -maxTime ≤ ms) (h2 : ms ≤ maxTime) : newDate ms = some ms :=
  if_pos ⟨h1, h2⟩

theorem dayFromYear_hundred : dayFromYear 100 = -683003 := by decide

theorem dateUTC_civil (day hour minute second rest : ℤ) (h1 : dayFromYear 100 ≤ day)
    (h2 : dayMs * day + rest ≤ maxTime)
    (hrest : rest = 3600000 * hour + 60000 * minute + 1000 * second) (hlow : 0 ≤ rest) :
    dateUTC (civil day) hour minute second = some (dayMs * day + rest) := by
  have hy := hundred_le_year day h1
  have hfull : fullYear (civil day).year = (civil day).year := if_neg (by omega)
  rw [dayFromYear_hundred] at h1
  unfold dateUTC
  rw [hfull, show (⟨(civil day).year, (civil day).month, (civil day).day⟩ : CivilDate) = civil day
    from rfl, dayNumber_civil]
  unfold dayMs maxTime at *
  rw [newDate_some _ (by unfold maxTime; omega) (by unfold maxTime; omega)]
  congr 1
  omega

theorem utcDate_civil (day : ℤ) (h1 : dayFromYear 100 ≤ day) (h2 : dayMs * day ≤ maxTime) :
    utcDate (civil day) = some (dayMs * day) := by
  have h := dateUTC_civil day 0 0 0 0 h1 (by omega) (by decide) (by decide)
  rwa [Int.add_zero] at h

theorem civilDateIn_eq (zone : Zone) (t : ℤ) (h : dayFromYear 100 ≤ dayIn zone t) :
    civilDateIn zone t = civil (dayIn zone t) := by
  have hy := hundred_le_year _ h
  have hshown : shownYear (civil (dayIn zone t)).year = (civil (dayIn zone t)).year :=
    if_pos (by omega)
  change { civil (dayIn zone t) with year := shownYear (civil (dayIn zone t)).year } = _
  rw [hshown]

/-- The clock reading less the instant, both in whole seconds, is the offset. -/
theorem zoneOffsetMs_eq (zone : Zone) (t : ℤ) (h : Readable zone t) :
    zoneOffsetMs zone t = some (1000 * zone.offset t) := by
  obtain ⟨h1, -, h3⟩ := h
  have hdate : (partsIn zone t).date = civil (dayIn zone t) := civilDateIn_eq zone t h1
  have hlocal : dayMs * dayIn zone t + localTime zone t % dayMs = localTime zone t := by
    unfold dayIn dayMs
    omega
  unfold zoneOffsetMs
  dsimp only
  rw [hdate, dateUTC_civil (dayIn zone t) _ _ _ (localTime zone t % dayMs / 1000 * 1000) h1
    (by unfold dayMs at *; omega) (by unfold partsIn; dsimp only; omega) (by unfold dayMs; omega)]
  simp only [Option.map_some, Option.some.injEq]
  unfold dayIn localTime dayMs
  omega

theorem ordinary_day (zone : Zone) (day : ℤ) (h : Ordinary zone day) :
    -683003 ≤ day ∧ dayMs * day ≤ maxTime := by
  obtain ⟨h1, ⟨-, h2, -⟩, -, -⟩ := h
  exact ⟨dayFromYear_hundred ▸ h1, h2⟩

theorem instantAtCivilMidnight_eq (zone : Zone) (day : ℤ) (h : Ordinary zone day) :
    instantAtCivilMidnight zone (civil day) = some (midnight zone day) := by
  obtain ⟨hlow, hday⟩ := ordinary_day zone day h
  obtain ⟨h1, hutc, hguess, hlast⟩ := h
  have hfirst := offset_bounds zone (dayMs * day)
  have hbounds := midnight_bounds zone day
  have hfar : -maxTime ≤ dayMs * day - reach := by
    unfold dayMs maxTime reach
    omega
  unfold instantAtCivilMidnight
  rw [utcDate_civil day h1 hday]
  simp only [Option.bind_eq_bind, Option.bind_some]
  rw [zoneOffsetMs_eq zone _ hutc]
  simp only [Option.bind_some]
  rw [newDate_some _ (by unfold reach at hfar; omega) hguess.2.1]
  simp only [Option.bind_some]
  rw [zoneOffsetMs_eq zone _ hguess]
  simp only [Option.bind_some]
  exact newDate_some _ (hfar.trans hbounds.1) hlast

theorem addDays_eq (day days : ℤ) (h1 : dayFromYear 100 ≤ day) (h2 : dayMs * day ≤ maxTime)
    (h3 : dayFromYear 100 ≤ day + days) (h4 : dayMs * (day + days) ≤ maxTime) :
    addDays (civil day) days = some (civil (day + days)) := by
  have hhundred := dayFromYear_hundred
  unfold addDays
  rw [utcDate_civil day h1 h2]
  simp only [Option.bind_eq_bind, Option.bind_some]
  rw [newDate_some _ (by unfold dayMs maxTime; omega) (by unfold dayMs at *; omega)]
  simp only [Option.bind_some, Option.pure_def, Option.some.injEq]
  congr 1
  unfold dayMs
  omega

theorem startCivilDate_eq (period : BudgetPeriod) (day : ℤ)
    (h1 : dayFromYear 100 ≤ startDay period day) (h2 : dayMs * day ≤ maxTime) :
    startCivilDate period (civil day) = some (civil (startDay period day)) := by
  have hle := startDay_le period day
  cases period with
  | daily => rfl
  | weekly =>
    unfold startCivilDate
    dsimp only
    rw [utcDate_civil day (by omega) h2]
    simp only [Option.bind_eq_bind, Option.bind_some]
    have hday : day + -((getUTCDay (dayMs * day) + 6) % 7) = startDay .weekly day := by
      unfold getUTCDay startDay dayMs
      dsimp only
      omega
    have hstart : dayMs * startDay .weekly day ≤ maxTime := by
      unfold dayMs at *
      omega
    rw [addDays_eq day _ (by omega) h2 (hday ▸ h1) (hday ▸ hstart), hday]
  | monthly =>
    obtain ⟨m1, m2, -, -⟩ := civil_bounds day
    have hb := monthStart_bounds (civil day).year (civil day).month m1 m2
    have hs : startDay .monthly day =
      dayFromYear (civil day).year + monthStart (civil day).year (civil day).month := rfl
    rw [hs, civil_unique _ (civil day).month _ m1 m2 (Int.le_refl _) (by omega)]
    change some _ = some _
    congr 2
    omega

theorem advance_eq (period : BudgetPeriod) (day : ℤ) (h1 : dayFromYear 100 ≤ startDay period day)
    (h2 : dayMs * endDay period day ≤ maxTime) :
    advance period (civil (startDay period day)) = some (civil (endDay period day)) := by
  cases period with
  | daily =>
    change dayFromYear 100 ≤ day at h1
    change dayMs * (day + 1) ≤ maxTime at h2
    exact addDays_eq day 1 h1 (by unfold dayMs at *; omega) (by omega) h2
  | weekly =>
    have he : endDay .weekly day = startDay .weekly day + 7 := rfl
    rw [he] at h2 ⊢
    exact addDays_eq _ 7 h1 (by unfold dayMs at *; omega) (by omega) h2
  | monthly =>
    obtain ⟨m1, m2, -, -⟩ := civil_bounds day
    have hb := monthStart_bounds (civil day).year (civil day).month m1 m2
    have hs : startDay .monthly day =
      dayFromYear (civil day).year + monthStart (civil day).year (civil day).month := rfl
    have hc : civil (startDay .monthly day) = { civil day with day := 1 } := by
      rw [hs, civil_unique _ (civil day).month _ m1 m2 (Int.le_refl _) (by omega)]
      congr 1
      omega
    unfold advance
    dsimp only
    rw [hc, civil_monthEnd]

theorem periodWindow_eq (lookup : JsText.JsString → Option Zone) (period : BudgetPeriod) (now : ℤ)
    (timeZone : Option JsText.JsString) (zone : Zone) (hz : zone = usableZone lookup timeZone)
    (hvalid : now ≤ maxTime) (h1 : Ordinary zone (startDay period (dayIn zone now)))
    (h2 : Ordinary zone (endDay period (dayIn zone now))) :
    periodWindow lookup period now timeZone =
      some ⟨midnight zone (startDay period (dayIn zone now)),
        midnight zone (endDay period (dayIn zone now))⟩ := by
  have hle := startDay_le period (dayIn zone now)
  have hlt := lt_endDay period (dayIn zone now)
  have hoff := offset_bounds zone now
  have hlow := le_dayIn zone (dayIn zone now) now
  have hstart := ordinary_day zone _ h1
  have hend := ordinary_day zone _ h2
  have hnow : newDate now = some now :=
    newDate_some _ (by unfold dayMs maxTime at *; omega) hvalid
  unfold periodWindow
  simp only [← hz, hnow, Option.bind_eq_bind, Option.bind_some]
  rw [civilDateIn_eq zone now (h1.1.trans hle),
    startCivilDate_eq period _ h1.1 (by unfold dayMs at *; omega)]
  simp only [Option.bind_some]
  rw [advance_eq period _ h1.1 hend.2]
  simp only [Option.bind_some, instantAtCivilMidnight_eq zone _ h1,
    instantAtCivilMidnight_eq zone _ h2]
  rfl

/-- The instant is in its window, and the next window starts where this one ends. -/
def Tiles (lookup : JsText.JsString → Option Zone) (period : BudgetPeriod) (now : ℤ)
    (timeZone : Option JsText.JsString) : Prop :=
  ∃ window ∈ periodWindow lookup period now timeZone, window.start ≤ now ∧ now < window.endsAt ∧
    (periodWindow lookup period window.endsAt timeZone).map Window.start = some window.endsAt

instance (lookup : JsText.JsString → Option Zone) (period : BudgetPeriod) (now : ℤ)
    (timeZone : Option JsText.JsString) : Decidable (Tiles lookup period now timeZone) :=
  inferInstanceAs (Decidable (∃ _ ∈ _, _))

/-- The instant is a valid date, and the code can look up the midnights of this window and the next. -/
def OrdinaryWindows (zone : Zone) (period : BudgetPeriod) (now : ℤ) : Prop :=
  let endsOn := endDay period (dayIn zone now)
  now ≤ maxTime ∧ Ordinary zone (startDay period (dayIn zone now)) ∧ Ordinary zone endsOn ∧
    Ordinary zone (endDay period endsOn)

instance (zone : Zone) (t : ℤ) : Decidable (Readable zone t) :=
  inferInstanceAs (Decidable (_ ∧ _ ∧ _))

instance (zone : Zone) (day : ℤ) : Decidable (Ordinary zone day) :=
  inferInstanceAs (Decidable (_ ∧ _ ∧ _ ∧ _))

instance (zone : Zone) (period : BudgetPeriod) (now : ℤ) : Decidable (OrdinaryWindows zone period now) :=
  inferInstanceAs (Decidable (_ ∧ _ ∧ _ ∧ _))

/-- No change of the clock near the first or the last midnight does harm at the instant. -/
def Clear (zone : Zone) (period : BudgetPeriod) (now : ℤ) : Prop :=
  (∀ c, Describes zone.offset c (dayMs * startDay period (dayIn zone now)) →
    ¬ StartMissed c (dayMs * startDay period (dayIn zone now)) now) ∧
  ∀ c, Describes zone.offset c (dayMs * endDay period (dayIn zone now)) →
    ¬ EndPassed c (dayMs * endDay period (dayIn zone now)) now ∧
      ¬ EndSkipped c (dayMs * endDay period (dayIn zone now))

/-- The window that follows starts at the end of this one unless that midnight is skipped. -/
theorem next_start (lookup : JsText.JsString → Option Zone) (period : BudgetPeriod) (day : ℤ)
    (timeZone : Option JsText.JsString) (zone : Zone) (hz : zone = usableZone lookup timeZone)
    (c : Change) (hc : Describes zone.offset c (dayMs * endDay period day))
    (h1 : Ordinary zone (startDay period day)) (h2 : Ordinary zone (endDay period day))
    (h3 : Ordinary zone (endDay period (endDay period day))) :
    (periodWindow lookup period (midnight zone (endDay period day)) timeZone).map Window.start =
        some (midnight zone (endDay period day)) ↔ ¬ EndSkipped c (dayMs * endDay period day) := by
  have hday := dayIn_midnight zone _ c hc
  have hvalid := h2.2.2.2
  constructor
  · intro hnext hskip
    rw [if_pos hskip] at hday
    have hs := startDay_last period day
    rw [periodWindow_eq lookup period _ timeZone zone hz hvalid (by rwa [hday, hs])
      (by rwa [hday, endDay_last]), hday, hs, Option.map_some, Option.some_inj] at hnext
    have hle := startDay_le period day
    have hlt := lt_endDay period day
    exact (midnight_skipped zone _ _ c hc hskip (Int.lt_of_le_of_lt hle hlt)).ne hnext
  · intro hskip
    rw [if_neg hskip] at hday
    have hs := startDay_endDay period day
    rw [periodWindow_eq lookup period _ timeZone zone hz hvalid (by rwa [hday, hs]) (by rwa [hday]),
      hday, hs]
    rfl

/-- A budget's windows tile time exactly where no change of the clock falls on a midnight of
theirs in a way that the two lookups of the offset get wrong. -/
theorem windows_tile (lookup : JsText.JsString → Option Zone) (period : BudgetPeriod) (now : ℤ)
    (timeZone : Option JsText.JsString)
    (ho : OrdinaryWindows (usableZone lookup timeZone) period now) :
    Tiles lookup period now timeZone ↔ Clear (usableZone lookup timeZone) period now := by
  generalize hz : usableZone lookup timeZone = zone at ho
  obtain ⟨hvalid, h1, h2, h3⟩ := ho
  have hle := startDay_le period (dayIn zone now)
  have hlt := lt_endDay period (dayIn zone now)
  have hwindow := periodWindow_eq lookup period now timeZone zone hz.symm hvalid h1 h2
  simp only [Tiles, hwindow, Option.mem_some_iff, exists_eq_left']
  constructor
  · rintro ⟨hstart, hend, hnext⟩
    refine ⟨fun c hc => (midnight_le zone _ now c hc hle).mp hstart, fun c hc => ?_⟩
    have hskip := (next_start lookup period _ timeZone zone hz.symm c hc h1 h2 h3).mp hnext
    exact ⟨(lt_midnight zone _ now c hc hskip hlt).mp hend, hskip⟩
  · rintro ⟨hstart, hend⟩
    obtain ⟨c, hc⟩ := zone.isolated (dayMs * startDay period (dayIn zone now))
    obtain ⟨e, he⟩ := zone.isolated (dayMs * endDay period (dayIn zone now))
    obtain ⟨hpassed, hskip⟩ := hend e he
    exact ⟨(midnight_le zone _ now c hc hle).mpr (hstart c hc),
      (lt_midnight zone _ now e he hskip hlt).mpr hpassed,
      (next_start lookup period _ timeZone zone hz.symm e he h1 h2 h3).mpr hskip⟩

theorem windows_tile_utc :
    OrdinaryWindows (usableZone (fun _ => none) none) .daily (-59011416000000) ∧
      (Tiles (fun _ => none) .daily (-59011416000000) none ↔
        Clear (usableZone (fun _ => none) none) .daily (-59011416000000)) :=
  ⟨by decide +kernel, windows_tile _ _ _ _ (by decide +kernel)⟩

def santiago : Zone :=
  ⟨fun t => if t < 1725768000000 then -14400 else -10800, fun _ =>
    ⟨⟨1725768000000, -14400, -10800, by decide, by decide, by decide⟩, fun _ _ _ => rfl⟩⟩

/-- The day before ends an hour early, inside itself. -/
theorem skipped_midnight_breaks :
    ¬ Tiles (fun _ => some santiago) .daily 1725710400000 (some (JsText.js "America/Santiago")) := by
  decide +kernel

end Glassbeetle.WindowTiling
