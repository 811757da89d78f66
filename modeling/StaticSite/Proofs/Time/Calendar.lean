/-
Days and dates.

Counted from March, a year is a number of days (`yearStart`) and a month begins at the same day of
every year, so a day number, a day of a year and a date come to the same.  Main statements: the date
of a day number is a day of the calendar and has this number (`isDay_ofDayNumber`,
`dayNumber_ofDayNumber`), and it is the only one (`ofDayNumber_dayNumber`).  So a time is the moment
of a date and a clock, rounded down to the second (`Moment.of_ofMillis?`).
-/
import Mathlib.Order.SuccPred.IntervalSucc
import Mathlib.Tactic.IntervalCases
import StaticSite.Time.Calendar

namespace StaticSite.Time

/-! ## Years that begin in March -/

/-- The number of days before a year, counted from the year zero. -/
def yearStart (year : Int) : Int := year * 365 + year / 4 - year / 100 + year / 400

/-- The number of days of a year.  Its last month is the February of the calendar year after it. -/
def yearLength (year : Int) : Nat := if isLeapYear (year + 1) then 366 else 365

theorem isLeapYear_iff {year : Int} :
    isLeapYear year = true ↔ year % 4 = 0 ∧ (year % 100 ≠ 0 ∨ year % 400 = 0) := by
  simp [isLeapYear]

theorem yearStart_succ (year : Int) : yearStart (year + 1) = yearStart year + yearLength year := by
  unfold yearStart yearLength
  split
  · rename_i h
    rw [isLeapYear_iff] at h
    omega
  · rename_i h
    rw [isLeapYear_iff] at h
    omega

theorem yearLength_bounds (year : Int) : 365 ≤ yearLength year ∧ yearLength year ≤ 366 := by
  unfold yearLength
  split <;> decide

theorem yearStart_lt_iff {year year' : Int} : yearStart year < yearStart year' ↔ year < year' := by
  have hmono : StrictMono yearStart := by
    refine strictMono_int_of_lt_succ fun year => ?_
    have hlength := yearLength_bounds year
    rw [yearStart_succ]
    omega
  exact hmono.lt_iff_lt

theorem yearStart_le {year year' : Int} (h : year ≤ year') : yearStart year ≤ yearStart year' :=
  Int.not_lt.mp fun hlt => Int.not_lt.mpr h (yearStart_lt_iff.mp hlt)

/-- A day lies in one year only. -/
theorem year_unique {year year' : Int} {day day' : Nat} (h : day < yearLength year)
    (h' : day' < yearLength year') (heq : yearStart year + day = yearStart year' + day') :
    year = year' := by
  have hle : ∀ {y y' : Int} {d d' : Nat}, d' < yearLength y' →
      yearStart y + d = yearStart y' + d' → y ≤ y' := by
    intro y y' d d' hd' heq
    refine Int.lt_add_one_iff.mp (yearStart_lt_iff.mp ?_)
    rw [yearStart_succ]
    omega
  exact le_antisymm (hle h' heq) (hle h heq.symm)

/-! ## Dates of a year -/

namespace Date

/-- Is this a day of the calendar? -/
def IsDay (d : Date) : Prop :=
  1 ≤ d.month ∧ d.month ≤ 12 ∧ 1 ≤ d.day ∧ d.day ≤ daysInMonth d.year d.month

theorem isValid_iff {d : Date} :
    d.isValid = true ↔ firstYear ≤ d.year ∧ d.year ≤ lastYear ∧ d.IsDay := by
  simp [isValid, IsDay, and_assoc]

/-- The year that begins in March. -/
def marchYear (d : Date) : Int := if d.month ≤ 2 then d.year - 1 else d.year

/-- The month, counted from March as zero. -/
def marchMonth (d : Date) : Nat := if d.month ≤ 2 then d.month + 9 else d.month - 3

/-- The day of the year, counted from zero. -/
def marchDay (d : Date) : Nat := daysBeforeMonth d.marchMonth + d.day - 1

/-- The date of a day of a year. -/
def ofMarchDay (year : Int) (day : Nat) : Date :=
  let month := (5 * day + 2) / 153
  { year := if month < 10 then year else year + 1
    month := if month < 10 then month + 3 else month - 9
    day := day - daysBeforeMonth month + 1 }

theorem dayNumber_eq {d : Date} (h : d.IsDay) :
    d.dayNumber = yearStart d.marchYear + d.marchDay - 719468 := by
  obtain ⟨-, -, hday, -⟩ := h
  unfold dayNumber yearStart marchDay marchMonth marchYear
  dsimp only
  generalize (if d.month ≤ 2 then d.year - 1 else d.year) = year
  generalize (if d.month ≤ 2 then d.month + 9 else d.month - 3) = month
  omega

/-- A month ends where the next one begins, and the last one with the year. -/
theorem daysBeforeMonth_add_daysInMonth {d : Date} (hfirst : 1 ≤ d.month) (hlast : d.month ≤ 12) :
    daysBeforeMonth d.marchMonth + daysInMonth d.year d.month =
      if d.marchMonth = 11 then yearLength d.marchYear else daysBeforeMonth (d.marchMonth + 1) := by
  obtain ⟨year, month, day⟩ := d
  dsimp only at hfirst hlast
  interval_cases month
  case «2» =>
    -- only the last month depends on the year
    simp [marchMonth, marchYear, daysInMonth, yearLength, daysBeforeMonth]
    split <;> rfl
  all_goals simp [marchMonth, daysInMonth, daysBeforeMonth]

/-- The month of a day of the year. -/
theorem month_of_marchDay {month day : Nat} (hlow : daysBeforeMonth month ≤ day)
    (hhigh : day < daysBeforeMonth (month + 1)) : (5 * day + 2) / 153 = month := by
  unfold daysBeforeMonth at hlow hhigh
  omega

/-- A day of the calendar is a day of its year. -/
theorem ofMarchDay_marchDay {d : Date} (h : d.IsDay) :
    d.marchDay < yearLength d.marchYear ∧ ofMarchDay d.marchYear d.marchDay = d := by
  obtain ⟨hfirst, hlast, hday, hlength⟩ := h
  have hmonth := daysBeforeMonth_add_daysInMonth hfirst hlast
  have hlong := yearLength_bounds d.marchYear
  have hsum : d.marchDay + 1 = daysBeforeMonth d.marchMonth + d.day := by
    unfold marchDay
    omega
  have hmarch : d.marchMonth ≤ 11 := by
    unfold marchMonth
    split <;> omega
  have hday : d.marchDay < yearLength d.marchYear ∧
      d.marchDay < daysBeforeMonth (d.marchMonth + 1) := by
    unfold daysBeforeMonth at *
    split at hmonth <;> omega
  refine ⟨hday.1, ?_⟩
  have hdayOfMonth : d.marchDay - daysBeforeMonth d.marchMonth + 1 = d.day := by omega
  rw [ofMarchDay, month_of_marchDay (by omega) hday.2, hdayOfMonth, marchMonth, marchYear]
  obtain ⟨year, month, day⟩ := d
  dsimp only at hfirst hlast ⊢
  split
  · rw [if_neg (by omega), if_neg (by omega)]
    congr 1
    omega
  · rw [if_pos (by omega), if_pos (by omega)]
    congr 1
    omega

/-- A day of a year is a day of the calendar. -/
theorem isDay_ofMarchDay {year : Int} {day : Nat} (h : day < yearLength year) :
    (ofMarchDay year day).IsDay ∧ (ofMarchDay year day).marchYear = year ∧
      (ofMarchDay year day).marchDay = day := by
  obtain ⟨d, hd⟩ : ∃ d, d = ofMarchDay year day := ⟨_, rfl⟩
  have hlong := yearLength_bounds year
  have hmonths : (5 * day + 2) / 153 ≤ 11 ∧ daysBeforeMonth ((5 * day + 2) / 153) ≤ day ∧
      day < daysBeforeMonth ((5 * day + 2) / 153 + 1) := by
    unfold daysBeforeMonth
    omega
  rw [← hd]
  unfold ofMarchDay at hd
  generalize (5 * day + 2) / 153 = month at hmonths hd
  obtain ⟨hmonth, hlow, hhigh⟩ := hmonths
  have hmarchMonth : d.marchMonth = month := by
    rw [hd, marchMonth]
    dsimp only
    split <;> split at * <;> omega
  have hmarchYear : d.marchYear = year := by
    rw [hd, marchYear]
    dsimp only
    split <;> split at * <;> omega
  have hfirst : 1 ≤ d.month := by
    rw [hd]
    dsimp only
    split <;> omega
  have hlast : d.month ≤ 12 := by
    rw [hd]
    dsimp only
    split <;> omega
  have hday : d.day = day - daysBeforeMonth month + 1 := by rw [hd]
  have hlength := daysBeforeMonth_add_daysInMonth hfirst hlast
  rw [hmarchMonth, hmarchYear] at hlength
  refine ⟨⟨hfirst, hlast, by omega, ?_⟩, hmarchYear, ?_⟩
  · split at hlength <;> omega
  · rw [marchDay, hmarchMonth]
    omega

end Date

/-! ## Day numbers -/

/-- The day count, cut into spans of 400, 100, 4 and 1 years, gives a year and a day of it. -/
theorem exists_ofMarchDay (n : Int) :
    ∃ (year : Int) (day : Nat), n + 719468 = yearStart year + day ∧ day < yearLength year ∧
      Date.ofDayNumber n = Date.ofMarchDay year day := by
  let era := (n + 719468) / 146097
  let dayOfEra := ((n + 719468) % 146097).toNat
  let century := min 3 (dayOfEra / 36524)
  let dayOfCentury := dayOfEra - century * 36524
  let quad := dayOfCentury / 1461
  let dayOfQuad := dayOfCentury - quad * 1461
  let yearOfQuad := min 3 (dayOfQuad / 365)
  let day := dayOfQuad - yearOfQuad * 365
  let year : Int := era * 400 + (century * 100 + quad * 4 + yearOfQuad : Nat)
  suffices h : n + 719468 = yearStart year + day ∧ day < yearLength year from
    ⟨year, day, h.1, h.2, rfl⟩
  have hera : n + 719468 = era * 146097 + dayOfEra := by omega
  -- the last span of each kind may be a day longer than the others
  have hcentury : century ≤ 3 ∧ dayOfEra = century * 36524 + dayOfCentury ∧
      (dayOfCentury < 36524 ∨ dayOfCentury = 36524 ∧ century = 3) := by omega
  have hquad : quad ≤ 24 ∧ dayOfCentury = quad * 1461 + dayOfQuad ∧ dayOfQuad < 1461 := by omega
  have hyear : yearOfQuad ≤ 3 ∧ dayOfQuad = yearOfQuad * 365 + day ∧
      (day < 365 ∨ day = 365 ∧ yearOfQuad = 3) := by omega
  have hfour : year / 4 = era * 100 + century * 25 + quad := by omega
  have hhundred : year / 100 = era * 4 + century := by omega
  have hfourHundred : year / 400 = era := by omega
  have hsum : year = era * 400 + century * 100 + quad * 4 + yearOfQuad := by omega
  clear_value era dayOfEra century dayOfCentury quad dayOfQuad yearOfQuad day year
  constructor
  · rw [yearStart, hfour, hhundred, hfourHundred]
    omega
  · unfold yearLength
    split
    · omega
    · rename_i hleap
      rw [isLeapYear_iff] at hleap
      omega

theorem dayNumber_ofDayNumber (n : Int) : (Date.ofDayNumber n).dayNumber = n := by
  obtain ⟨year, day, hn, hday, hdate⟩ := exists_ofMarchDay n
  obtain ⟨hisDay, hyear, hmarchDay⟩ := Date.isDay_ofMarchDay hday
  rw [hdate, Date.dayNumber_eq hisDay, hyear, hmarchDay]
  omega

theorem isDay_ofDayNumber (n : Int) : (Date.ofDayNumber n).IsDay := by
  obtain ⟨year, day, -, hday, hdate⟩ := exists_ofMarchDay n
  rw [hdate]
  exact (Date.isDay_ofMarchDay hday).1

/-- A day of the calendar is the date of its number. -/
theorem ofDayNumber_dayNumber {d : Date} (h : d.IsDay) : Date.ofDayNumber d.dayNumber = d := by
  obtain ⟨year, day, hn, hday, hdate⟩ := exists_ofMarchDay d.dayNumber
  obtain ⟨hlt, hd⟩ := Date.ofMarchDay_marchDay h
  have hnumber := Date.dayNumber_eq h
  have hyear : year = d.marchYear := year_unique hday hlt (by omega)
  subst hyear
  obtain rfl : day = d.marchDay := by omega
  rw [hdate, hd]

theorem year_ofMarchDay (year : Int) (day : Nat) :
    (Date.ofMarchDay year day).year = if day < 306 then year else year + 1 := by
  unfold Date.ofMarchDay
  dsimp only
  split <;> split <;> omega

/-- A date lies in a year or before it just if it comes before the first day of the next year. -/
theorem year_ofDayNumber_le_iff (n year : Int) :
    (Date.ofDayNumber n).year ≤ year ↔ n < Date.dayNumber ⟨year + 1, 1, 1⟩ := by
  obtain ⟨y, day, hn, hday, hdate⟩ := exists_ofMarchDay n
  have hnext : Date.dayNumber ⟨year + 1, 1, 1⟩ = yearStart year + 306 - 719468 := by
    have hfirst : Date.IsDay ⟨year + 1, 1, 1⟩ := by simp [Date.IsDay, daysInMonth]
    rw [Date.dayNumber_eq hfirst]
    simp [Date.marchYear, Date.marchDay, Date.marchMonth, daysBeforeMonth]
  rw [hdate, year_ofMarchDay, hnext]
  split
  · constructor
    · intro hle
      have hstart := yearStart_le hle
      omega
    · intro hlt
      have hlength := yearLength_bounds year
      refine Int.lt_add_one_iff.mp (yearStart_lt_iff.mp ?_)
      rw [yearStart_succ]
      omega
  · constructor
    · intro hle
      have hstart := yearStart_le hle
      rw [yearStart_succ] at hstart
      omega
    · intro hlt
      exact Int.add_one_le_iff.mpr (yearStart_lt_iff.mp (by omega))

/-! ## Moments -/

/-- The beginning of the first year that can be written. -/
def startOfTime : Int := Date.dayNumber ⟨firstYear, 1, 1⟩ * millisPerDay

/-- The end of the last year that can be written. -/
def endOfTime : Int := Date.dayNumber ⟨lastYear + 1, 1, 1⟩ * millisPerDay

/-- The time of day is one that a clock shows; a leap second counts. -/
structure Moment.HasClock (m : Moment) : Prop where
  hour : m.hour ≤ 23
  minute : m.minute ≤ 59
  second : m.second ≤ 60

/-- A moment has the day of its time, and its time but for the part of a second. -/
theorem Moment.of_ofMillis? {t : Int} {m : Moment} (h : Moment.ofMillis? t = some m) :
    m.date = Date.ofDayNumber (t / millisPerDay) ∧ m.date.isValid = true ∧ m.HasClock ∧
      m.millis = t / 1000 * 1000 := by
  unfold ofMillis? at h
  dsimp only at h
  split at h
  · rename_i hyear
    cases h
    have hnumber := dayNumber_ofDayNumber (t / millisPerDay)
    refine ⟨rfl, Date.isValid_iff.mpr ⟨hyear.1, hyear.2, isDay_ofDayNumber _⟩, ?_, ?_⟩
    · constructor <;> dsimp only <;> unfold millisPerDay <;> omega
    · unfold millis
      dsimp only
      rw [hnumber]
      unfold millisPerDay
      omega
  · cases h

/-- The times that have a moment are those of the years that can be written. -/
theorem isSome_ofMillis?_iff {t : Int} :
    (Moment.ofMillis? t).isSome = true ↔ startOfTime ≤ t ∧ t < endOfTime := by
  have hlast := year_ofDayNumber_le_iff (t / millisPerDay) lastYear
  have hfirst := year_ofDayNumber_le_iff (t / millisPerDay) (firstYear - 1)
  rw [sub_add_cancel] at hfirst
  have hsome : (Moment.ofMillis? t).isSome = true ↔
      firstYear ≤ (Date.ofDayNumber (t / millisPerDay)).year ∧
        (Date.ofDayNumber (t / millisPerDay)).year ≤ lastYear := by
    unfold Moment.ofMillis?
    dsimp only
    split <;> simp_all
  rw [hsome, hlast, startOfTime, endOfTime]
  unfold millisPerDay at *
  omega

/-- A moment lies between the beginning of the first of some years and the end of the last one; a
leap second may be the end. -/
theorem Moment.millis_bounds {m : Moment} {first last : Int} (hday : m.date.IsDay)
    (hclock : m.HasClock) (hfirst : first ≤ m.date.year) (hlast : m.date.year ≤ last) :
    Date.dayNumber ⟨first, 1, 1⟩ * millisPerDay ≤ m.millis ∧
      m.millis ≤ Date.dayNumber ⟨last + 1, 1, 1⟩ * millisPerDay := by
  have hbefore := year_ofDayNumber_le_iff m.date.dayNumber (first - 1)
  have hafter := year_ofDayNumber_le_iff m.date.dayNumber last
  rw [ofDayNumber_dayNumber hday] at hbefore hafter
  rw [sub_add_cancel] at hbefore
  obtain ⟨hhour, hminute, hsecond⟩ := hclock
  unfold millis millisPerDay
  omega

end StaticSite.Time
