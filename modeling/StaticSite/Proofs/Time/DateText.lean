/-
Dates read back.

A text that is read as a time has a hyphen behind its first character, so it is no integer, and the
time is not beyond the years that can be written (`IsTimeText`).  In the other direction, a date of
the years 0 to 9999 is written with the widths that the readers ask for, so it is read to its first
moment and a moment is read to itself (`timestampOf?_dateText`, `timestampOf?_isoText`).
-/
import Mathlib.Data.List.TakeWhile
import StaticSite.Proofs.Text.Numeral
import StaticSite.Proofs.Time.Calendar
import StaticSite.Time.Format

namespace StaticSite.Time

open StaticSite.Text

/-! ## What is read -/

section Read

variable {cs rest : List Char} {c : Char} {n k : Nat} {t : Int}

theorem readChar_eq_some : readChar c cs = some rest ↔ cs = c :: rest := by
  cases cs with
  | nil => simp [readChar]
  | cons d cs => simp [readChar]

theorem exists_of_readDigits (h : readDigits n cs = some (k, rest)) :
    ∃ digits, digits ≠ [] ∧ cs = digits ++ rest := by
  unfold readDigits at h
  dsimp only at h
  split at h
  · cases h
  · rename_i hne
    cases h
    refine ⟨_, fun hnil => hne (List.isEmpty_iff.mpr hnil), ?_⟩
    have hfront : (cs.take n).takeWhile Char.isDigit <+: cs :=
      (List.takeWhile_prefix _).trans (List.take_prefix n cs)
    exact (List.prefix_iff_eq_append.mp hfront).symm

theorem exists_of_readExactly (h : readExactly n cs = some (k, rest)) :
    ∃ digits, cs = digits ++ rest ∧ digits.length = n ∧ k < 10 ^ n := by
  unfold readExactly at h
  dsimp only at h
  split at h
  · rename_i hdigits
    cases h
    have hlt := digitsValue_lt (List.all_eq_true.mp hdigits.2)
    rw [hdigits.1] at hlt
    exact ⟨cs.take n, (List.take_append_drop n cs).symm, hdigits.1, hlt⟩
  · cases h

theorem exists_of_readYear {year : Int} (h : readYear cs = some (year, rest)) :
    ∃ before, before ≠ [] ∧ cs = before ++ rest := by
  obtain ⟨blanks, hblanks⟩ := trimStart_suffix cs
  have hdigits : ∀ {n after} (f : Nat → Int),
      (readDigits n after).map (fun x => (f x.1, x.2)) = some (year, rest) →
      ∃ digits, digits ≠ [] ∧ after = digits ++ rest := by
    intro n after f h
    obtain ⟨⟨k, rest'⟩, hread, heq⟩ := Option.map_eq_some_iff.mp h
    cases heq
    exact exists_of_readDigits hread
  suffices hstart : ∃ before, before ≠ [] ∧ trimStart cs = before ++ rest by
    obtain ⟨before, hne, hbefore⟩ := hstart
    refine ⟨blanks ++ before, List.append_ne_nil_of_right_ne_nil _ hne, ?_⟩
    rw [List.append_assoc, ← hbefore, hblanks]
  unfold readYear at h
  split at h
  · rename_i after htrim
    obtain ⟨digits, -, rfl⟩ := hdigits (fun k => -k) h
    exact ⟨'-' :: digits, List.cons_ne_nil _ _, htrim⟩
  · rename_i after htrim
    obtain ⟨digits, -, rfl⟩ := hdigits (fun k => k) h
    exact ⟨'+' :: digits, List.cons_ne_nil _ _, htrim⟩
  · exact hdigits (fun k => k) h

theorem lt_of_readMillis (h : readMillis cs = some (k, rest)) : k < 1000 := by
  unfold readMillis at h
  split at h
  · rename_i after
    dsimp only at h
    split at h
    · cases h
    · cases h
      -- three digits count, with zeros for those that are missing
      generalize hcounted : (after.takeWhile Char.isDigit).take 3 = counted
      have hlength : counted.length ≤ 3 := by
        rw [← hcounted, List.length_take]
        exact Nat.min_le_left _ _
      have hdigits : ∀ c ∈ counted ++ List.replicate (3 - counted.length) '0',
          c.isDigit = true := by
        refine List.forall_mem_append.mpr ⟨fun c hc => ?_, fun c hc => ?_⟩
        · rw [← hcounted] at hc
          exact List.mem_takeWhile_imp (List.mem_of_mem_take hc)
        · rw [List.eq_of_mem_replicate hc]
          decide
      have hlt := digitsValue_lt hdigits
      rw [List.length_append, List.length_replicate, Nat.add_sub_cancel' hlength] at hlt
      exact hlt
  · cases h
    decide

theorem natAbs_of_readOffset (h : readOffset cs = some (t, rest)) : t.natAbs < 24 * 60 := by
  unfold readOffset at h
  dsimp only at h
  split at h
  case h_1 | h_2 =>
    -- universal time
    cases h
    decide
  case h_6 => cases h
  all_goals
    simp only [Option.bind_eq_bind, Option.bind_eq_some_iff, Prod.exists] at h
    obtain ⟨hours, cs, -, cs', -, minutes, after, -, h⟩ := h
    split at h
    · cases h
      omega
    · cases h

theorem hasClock_of_momentOf? {date : Date} {hour minute second : Nat} {m : Moment}
    (h : momentOf? date hour minute second = some m) : m.date = date ∧ m.HasClock := by
  unfold momentOf? at h
  split at h
  · rename_i hclock
    cases h
    exact ⟨rfl, hclock.1, hclock.2.1, hclock.2.2⟩
  · cases h

end Read

/-! ## Texts that stand for a time -/

/-- The text has a hyphen behind its first character, and its time is one of the years that can be
written, or their end. -/
structure IsTimeText (cs : List Char) (t : Int) : Prop where
  hyphen : '-' ∈ cs.tail
  low : startOfTime ≤ t
  high : t ≤ endOfTime

section TimeText

variable {cs before after : List Char} {m : Moment} {t : Int}

theorem hyphen_mem_tail (h : before ≠ []) : '-' ∈ (before ++ '-' :: after).tail := by
  rw [List.tail_append_of_ne_nil h]
  exact List.mem_append_right _ List.mem_cons_self

/-- A hyphen behind the first character is no part of an integer. -/
theorem IsTimeText.readInt64_eq_none (h : IsTimeText cs t) : readInt64 cs = none := by
  refine Option.eq_none_iff_forall_ne_some.mpr fun z hz => ?_
  exact absurd (isDigit_of_readInt64 hz '-' h.hyphen) (by decide)

theorem IsTimeText.of_moment (hhyphen : '-' ∈ cs.tail) (hvalid : m.date.isValid = true)
    (hclock : m.HasClock) : IsTimeText cs m.millis := by
  obtain ⟨hfirst, hlast, hday⟩ := Date.isValid_iff.mp hvalid
  obtain ⟨hlow, hhigh⟩ := Moment.millis_bounds hday hclock hfirst hlast
  exact ⟨hhyphen, hlow, hhigh⟩

theorem of_readDate {d : Date} (h : readDate cs = some (d, after)) :
    '-' ∈ cs.tail ∧ d.isValid = true := by
  obtain ⟨⟨year, cs₁⟩, hyear, h⟩ := Option.bind_eq_some_iff.mp h
  obtain ⟨cs₂, hhyphen, h⟩ := Option.bind_eq_some_iff.mp h
  obtain ⟨⟨month, cs₃⟩, -, h⟩ := Option.bind_eq_some_iff.mp h
  obtain ⟨cs₄, -, h⟩ := Option.bind_eq_some_iff.mp h
  obtain ⟨⟨day, cs₅⟩, -, h⟩ := Option.bind_eq_some_iff.mp h
  dsimp only at h
  split at h
  · rename_i hvalid
    cases h
    obtain ⟨before, hne, rfl⟩ := exists_of_readYear hyear
    obtain rfl := readChar_eq_some.mp hhyphen
    exact ⟨hyphen_mem_tail hne, hvalid⟩
  · cases h

theorem isTimeText_of_readMoment {form : TimeForm} (h : readMoment form cs = some m) :
    IsTimeText cs m.millis := by
  obtain ⟨⟨date, cs₁⟩, hdate, h⟩ := Option.bind_eq_some_iff.mp h
  obtain ⟨cs₂, -, h⟩ := Option.bind_eq_some_iff.mp h
  obtain ⟨⟨hour, cs₃⟩, -, h⟩ := Option.bind_eq_some_iff.mp h
  obtain ⟨cs₄, -, h⟩ := Option.bind_eq_some_iff.mp h
  obtain ⟨⟨minute, cs₅⟩, -, h⟩ := Option.bind_eq_some_iff.mp h
  obtain ⟨⟨second, cs₆⟩, -, h⟩ := Option.bind_eq_some_iff.mp h
  obtain ⟨hhyphen, hvalid⟩ := of_readDate hdate
  dsimp only at h
  split at h
  · obtain ⟨rfl, hclock⟩ := hasClock_of_momentOf? h
    exact .of_moment hhyphen hvalid hclock
  · cases h

theorem isTimeText_of_readDay (h : readDay cs = some m) : IsTimeText cs m.millis := by
  obtain ⟨⟨date, cs₁⟩, hdate, h⟩ := Option.bind_eq_some_iff.mp h
  obtain ⟨hhyphen, hvalid⟩ := of_readDate hdate
  dsimp only at h
  split at h
  · obtain ⟨rfl, hclock⟩ := hasClock_of_momentOf? h
    exact .of_moment hhyphen hvalid hclock
  · cases h

/-- What the internet format is read from: a date with four digits of a year, and behind it a clock
and an offset of less than a day. -/
theorem exists_of_readInternetTime (h : readInternetTime cs = some t) :
    ∃ (m : Moment) (millis : Nat) (offset : Int) (year month day rest : List Char),
      cs = year ++ '-' :: (month ++ '-' :: (day ++ rest)) ∧
        (year.length = 4 ∧ month.length = 2 ∧ day.length = 2 ∧ rest ≠ []) ∧
        0 ≤ m.date.year ∧ m.date.year ≤ 9999 ∧ m.date.isValid = true ∧ m.HasClock ∧
        millis < 1000 ∧ offset.natAbs < 24 * 60 ∧ t = m.millis + millis - offset * 60000 := by
  obtain ⟨⟨year, cs₁⟩, hyear, h⟩ := Option.bind_eq_some_iff.mp h
  obtain ⟨cs₂, hhyphen₁, h⟩ := Option.bind_eq_some_iff.mp h
  obtain ⟨⟨month, cs₃⟩, hmonth, h⟩ := Option.bind_eq_some_iff.mp h
  obtain ⟨cs₄, hhyphen₂, h⟩ := Option.bind_eq_some_iff.mp h
  obtain ⟨⟨day, cs₅⟩, hday, h⟩ := Option.bind_eq_some_iff.mp h
  obtain ⟨yearDigits, hcs, hyearLength, hyearLt⟩ := exists_of_readExactly hyear
  obtain ⟨monthDigits, hcs₂, hmonthLength, -⟩ := exists_of_readExactly hmonth
  obtain ⟨dayDigits, hcs₄, hdayLength, -⟩ := exists_of_readExactly hday
  have hsource : cs = yearDigits ++ '-' :: (monthDigits ++ '-' :: (dayDigits ++ cs₅)) := by
    rw [hcs, readChar_eq_some.mp hhyphen₁, hcs₂, readChar_eq_some.mp hhyphen₂, hcs₄]
  dsimp only at h
  split at h
  case h_4 => cases h
  all_goals
    obtain ⟨cs₆, -, h⟩ := Option.bind_eq_some_iff.mp h
    obtain ⟨⟨hour, cs₇⟩, -, h⟩ := Option.bind_eq_some_iff.mp h
    obtain ⟨cs₈, -, h⟩ := Option.bind_eq_some_iff.mp h
    obtain ⟨⟨minute, cs₉⟩, -, h⟩ := Option.bind_eq_some_iff.mp h
    obtain ⟨cs₁₀, -, h⟩ := Option.bind_eq_some_iff.mp h
    obtain ⟨⟨second, cs₁₁⟩, -, h⟩ := Option.bind_eq_some_iff.mp h
    obtain ⟨⟨millis, cs₁₂⟩, hmillis, h⟩ := Option.bind_eq_some_iff.mp h
    obtain ⟨⟨offset, cs₁₃⟩, hoffset, h⟩ := Option.bind_eq_some_iff.mp h
    dsimp only at h
    split at h
    · rename_i hend
      obtain ⟨m, hm, rfl⟩ := Option.map_eq_some_iff.mp h
      obtain ⟨hdate, hclock⟩ := hasClock_of_momentOf? hm
      rw [← hdate] at hend
      have hyearEq : m.date.year = year := by rw [hdate]
      exact ⟨m, millis, offset, yearDigits, monthDigits, dayDigits, _, hsource,
        ⟨hyearLength, hmonthLength, hdayLength, List.cons_ne_nil _ _⟩, by omega, by omega,
        (Bool.and_eq_true_iff.mp hend).2, hclock, lt_of_readMillis hmillis,
        natAbs_of_readOffset hoffset, rfl⟩
    · cases h

/-- The internet format is longer than a date, and its four digits of a year keep the time far from
the end of the years. -/
theorem isTimeText_of_readInternetTime (h : readInternetTime cs = some t) :
    IsTimeText cs t ∧ 10 < cs.length := by
  obtain ⟨m, millis, offset, year, month, day, rest, rfl, ⟨hyear, hmonth, hday, hrest⟩, hlow, hhigh,
    hvalid, hclock, hmillis, hoffset, rfl⟩ := exists_of_readInternetTime h
  have hbounds := Moment.millis_bounds (Date.isValid_iff.mp hvalid).2.2 hclock hlow hhigh
  have hfirst : startOfTime + millisPerDay ≤ Date.dayNumber ⟨0, 1, 1⟩ * millisPerDay := by decide
  have hlast : Date.dayNumber ⟨9999 + 1, 1, 1⟩ * millisPerDay + millisPerDay ≤ endOfTime := by
    decide
  have hne : year ≠ [] := List.ne_nil_of_length_eq_add_one hyear
  have hpos : 0 < rest.length := List.length_pos_iff.mpr hrest
  refine ⟨⟨hyphen_mem_tail hne, ?_, ?_⟩, ?_⟩
  · unfold millisPerDay at *
    omega
  · unfold millisPerDay at *
    omega
  · simp only [List.length_append, List.length_cons]
    omega

/-- An accepted text stands for a time. -/
theorem isTimeText_of_timestampOf? {s : String} (h : timestampOf? s = some t) :
    IsTimeText (trim s.toList) t := by
  simp only [timestampOf?, Option.orElse_eq_orElse, Option.orElse_eq_or, Option.or_eq_some_iff,
    Option.map_eq_some_iff] at h
  obtain h | ⟨-, ⟨m, h, rfl⟩ | ⟨-, ⟨m, h, rfl⟩ | ⟨-, ⟨m, h, rfl⟩ | ⟨-, m, h, rfl⟩⟩⟩⟩ := h
  · exact (isTimeText_of_readInternetTime h).1
  · exact isTimeText_of_readMoment h
  · exact isTimeText_of_readMoment h
  · exact isTimeText_of_readMoment h
  · exact isTimeText_of_readDay h

end TimeText

/-! ## Numbers of a fixed width -/

section Width

variable {width n : Nat}

theorem readExactly_zeroPadded (hwidth : 0 < width) (hn : n < 10 ^ width) (rest : List Char) :
    readExactly width (zeroPadded width (decimal n) ++ rest) = some (n, rest) := by
  obtain ⟨hdigits, hvalue⟩ := isNumeral_zeroPadded width n
  have hlength := length_zeroPadded hwidth hn
  rw [readExactly, List.take_left' hlength, List.drop_left' hlength]
  exact (if_pos ⟨hlength, List.all_eq_true.mpr hdigits⟩).trans (by rw [hvalue])

theorem readDigits_zeroPadded (hwidth : 0 < width) (hn : n < 10 ^ width) (rest : List Char) :
    readDigits width (zeroPadded width (decimal n) ++ rest) = some (n, rest) := by
  obtain ⟨hdigits, hvalue⟩ := isNumeral_zeroPadded width n
  have hlength := length_zeroPadded hwidth hn
  have hne : zeroPadded width (decimal n) ≠ [] := List.ne_nil_of_length_pos (by omega)
  rw [readDigits, List.take_left' hlength, List.takeWhile_eq_self_iff.mpr hdigits, List.drop_left,
    hvalue]
  exact if_neg fun hnil => hne (List.isEmpty_iff.mp hnil)

theorem readExactly_twoDigits (hn : n < 100) (rest : List Char) :
    readExactly 2 (twoDigits n ++ rest) = some (n, rest) :=
  readExactly_zeroPadded (by decide) hn rest

theorem length_twoDigits (hn : n < 100) : (twoDigits n).length = 2 :=
  length_zeroPadded Nat.two_pos hn

/-- A number of a fixed width begins with a digit. -/
theorem exists_cons_zeroPadded (width n : Nat) :
    ∃ c cs, zeroPadded width (decimal n) = c :: cs ∧ c.isDigit = true := by
  have hne : zeroPadded width (decimal n) ≠ [] :=
    List.append_ne_nil_of_right_ne_nil _ (numeral_ne_nil 10 n)
  obtain ⟨c, cs, hcs⟩ := List.exists_cons_of_ne_nil hne
  refine ⟨c, cs, hcs, (isNumeral_zeroPadded width n).isDigit c ?_⟩
  rw [hcs]
  exact List.mem_cons_self

theorem trimStart_zeroPadded (width n : Nat) (rest : List Char) :
    trimStart (zeroPadded width (decimal n) ++ rest) = zeroPadded width (decimal n) ++ rest := by
  obtain ⟨c, cs, hcs, hc⟩ := exists_cons_zeroPadded width n
  rw [hcs]
  exact dropWhile_of_stops (stops_cons.mpr (isBlank_of_isDigit hc))

theorem readShort_twoDigits (hn : n < 100) (rest : List Char) :
    readShort (twoDigits n ++ rest) = some (n, rest) := by
  rw [readShort, twoDigits, trimStart_zeroPadded, readDigits_zeroPadded (by decide) hn]

end Width

/-! ## Dates that are written -/

/-- The year is written with four digits and no sign. -/
def IsPlainYear (year : Int) : Prop := 0 ≤ year ∧ year ≤ 9999

theorem IsPlainYear.yearText_eq {year : Int} (h : IsPlainYear year) :
    yearText year = zeroPadded 4 (decimal year.natAbs) := by
  obtain ⟨hlow, hhigh⟩ := h
  rw [yearText, if_neg (by omega), if_neg (by omega)]

theorem IsPlainYear.readYear_yearText {year : Int} (h : IsPlainYear year) (rest : List Char) :
    readYear (yearText year ++ rest) = some (year, rest) := by
  obtain ⟨c, cs, hcs, hc⟩ := exists_cons_zeroPadded 4 year.natAbs
  rw [h.yearText_eq]
  obtain ⟨hlow, hhigh⟩ := h
  unfold readYear
  rw [trimStart_zeroPadded]
  split
  -- a sign is no digit
  · simp_all
  · simp_all
  · rw [readDigits_zeroPadded (by decide) (by omega), Option.map_some]
    dsimp only
    rw [Int.natAbs_of_nonneg hlow]

section Written

variable {d : Date} {m : Moment}

theorem Date.two_digits_of_isValid (h : d.isValid = true) : d.month < 100 ∧ d.day < 100 := by
  obtain ⟨-, -, -, hmonth, -, hday⟩ := isValid_iff.mp h
  have hlength : daysInMonth d.year d.month ≤ 31 := by
    unfold daysInMonth
    split
    · split <;> omega
    · split <;> omega
  omega

theorem readDate_text (h : d.isValid = true) (hyear : IsPlainYear d.year) (rest : List Char) :
    readDate (d.text ++ rest) = some (d, rest) := by
  obtain ⟨hmonth, hday⟩ := Date.two_digits_of_isValid h
  have htext : d.text ++ rest = yearText d.year ++ '-' :: (twoDigits d.month ++ '-' ::
      (twoDigits d.day ++ rest)) := by
    simp [Date.text]
  rw [htext]
  refine Option.bind_eq_some_iff.mpr ⟨_, hyear.readYear_yearText _, ?_⟩
  refine Option.bind_eq_some_iff.mpr ⟨_, readChar_eq_some.mpr rfl, ?_⟩
  refine Option.bind_eq_some_iff.mpr ⟨_, readShort_twoDigits hmonth _, ?_⟩
  refine Option.bind_eq_some_iff.mpr ⟨_, readChar_eq_some.mpr rfl, ?_⟩
  refine Option.bind_eq_some_iff.mpr ⟨_, readShort_twoDigits hday _, ?_⟩
  exact if_pos h

theorem readInternetTime_text (h : m.date.isValid = true) (hclock : m.HasClock)
    (hyear : IsPlainYear m.date.year) (locale : String) :
    readInternetTime (m.text .iso locale) = some m.millis := by
  obtain ⟨hmonth, hday⟩ := Date.two_digits_of_isValid h
  have htext : m.text .iso locale = zeroPadded 4 (decimal m.date.year.natAbs) ++
      '-' :: (twoDigits m.date.month ++ '-' :: (twoDigits m.date.day ++ 'T' :: (twoDigits m.hour ++
        ':' :: (twoDigits m.minute ++ ':' :: (twoDigits m.second ++ ['Z']))))) := by
    simp [Moment.text, Date.text, Moment.clockText, hyear.yearText_eq]
  obtain ⟨hhour, hminute, hsecond⟩ := hclock
  obtain ⟨hlow, hhigh⟩ := hyear
  have hdate : (⟨m.date.year.natAbs, m.date.month, m.date.day⟩ : Date) = m.date := by
    rw [Int.natAbs_of_nonneg hlow]
  have hmoment : momentOf? m.date m.hour m.minute m.second = some m :=
    if_pos ⟨hhour, hminute, hsecond⟩
  rw [htext]
  refine Option.bind_eq_some_iff.mpr ⟨_, readExactly_zeroPadded (by decide) (by omega) _, ?_⟩
  refine Option.bind_eq_some_iff.mpr ⟨_, readChar_eq_some.mpr rfl, ?_⟩
  refine Option.bind_eq_some_iff.mpr ⟨_, readExactly_twoDigits hmonth _, ?_⟩
  refine Option.bind_eq_some_iff.mpr ⟨_, readChar_eq_some.mpr rfl, ?_⟩
  refine Option.bind_eq_some_iff.mpr ⟨_, readExactly_twoDigits hday _, ?_⟩
  refine Option.bind_eq_some_iff.mpr ⟨_, rfl, ?_⟩
  refine Option.bind_eq_some_iff.mpr ⟨_, readExactly_twoDigits (by omega) _, ?_⟩
  refine Option.bind_eq_some_iff.mpr ⟨_, readChar_eq_some.mpr rfl, ?_⟩
  refine Option.bind_eq_some_iff.mpr ⟨_, readExactly_twoDigits (by omega) _, ?_⟩
  refine Option.bind_eq_some_iff.mpr ⟨_, readChar_eq_some.mpr rfl, ?_⟩
  refine Option.bind_eq_some_iff.mpr ⟨_, readExactly_twoDigits (by omega) _, ?_⟩
  -- no part of a second, and no offset
  refine Option.bind_eq_some_iff.mpr ⟨(0, ['Z']), rfl, ?_⟩
  refine Option.bind_eq_some_iff.mpr ⟨(0, []), rfl, ?_⟩
  dsimp only
  rw [hdate, h, hmoment]
  simp

theorem length_dateText (h : d.isValid = true) (hyear : IsPlainYear d.year) :
    d.text.length = 10 := by
  obtain ⟨hmonth, hday⟩ := Date.two_digits_of_isValid h
  have hfour : (yearText d.year).length = 4 := by
    rw [hyear.yearText_eq]
    obtain ⟨hlow, hhigh⟩ := hyear
    exact length_zeroPadded (by decide) (by omega)
  simp [Date.text, hfour, length_twoDigits hmonth, length_twoDigits hday]

/-- Without blanks there is nothing to trim. -/
theorem trim_eq_self_of_not_blank {cs : List Char} (h : ∀ c ∈ cs, isBlank c = false) :
    trim cs = cs :=
  trim_eq_self (fun c hc => h c (List.mem_of_mem_head? hc))
    fun c hc => h c (List.mem_reverse.mp (List.mem_of_mem_head? hc))

theorem isBlank_twoDigits (n : Nat) : ∀ c ∈ twoDigits n, isBlank c = false :=
  fun c hc => isBlank_of_isDigit ((isNumeral_zeroPadded 2 n).isDigit c hc)

theorem isBlank_dateText (hyear : IsPlainYear d.year) : ∀ c ∈ d.text, isBlank c = false := by
  have hyearText : ∀ c ∈ yearText d.year, isBlank c = false := by
    rw [hyear.yearText_eq]
    exact fun c hc => isBlank_of_isDigit ((isNumeral_zeroPadded 4 _).isDigit c hc)
  simp only [Date.text, List.forall_mem_append, List.forall_mem_cons]
  exact ⟨⟨hyearText, by decide, isBlank_twoDigits _⟩, by decide, isBlank_twoDigits _⟩

theorem isBlank_isoText (hyear : IsPlainYear m.date.year) (locale : String) :
    ∀ c ∈ m.text .iso locale, isBlank c = false := by
  simp only [Moment.text, Moment.clockText, List.forall_mem_append, List.forall_mem_cons]
  exact ⟨⟨isBlank_dateText hyear, by decide, ⟨isBlank_twoDigits _, by decide, isBlank_twoDigits _⟩,
    by decide, isBlank_twoDigits _⟩, by decide, by simp⟩

/-- A date is read to its first moment. -/
theorem timestampOf?_dateText (h : d.isValid = true) (hyear : IsPlainYear d.year) :
    timestampOf? (String.ofList d.text) = some (d.dayNumber * millisPerDay) := by
  have hread := readDate_text h hyear []
  rw [List.append_nil] at hread
  have hinternet : readInternetTime d.text = none := by
    refine Option.eq_none_iff_forall_ne_some.mpr fun t ht => ?_
    have hlength := (isTimeText_of_readInternetTime ht).2
    rw [length_dateText h hyear] at hlength
    omega
  have hmoment : ∀ form, readMoment form d.text = none := by
    intro form
    rw [readMoment, hread]
    cases form <;> rfl
  have hday : readDay d.text = some ⟨d, 0, 0, 0⟩ := by
    rw [readDay, hread]
    rfl
  rw [timestampOf?, String.toList_ofList, trim_eq_self_of_not_blank (isBlank_dateText hyear),
    hinternet, hmoment, hmoment, hmoment, hday]
  simp [Moment.millis]

/-- A moment is read to itself. -/
theorem timestampOf?_isoText (h : m.date.isValid = true) (hclock : m.HasClock)
    (hyear : IsPlainYear m.date.year) (locale : String) :
    timestampOf? (String.ofList (m.text .iso locale)) = some m.millis := by
  rw [timestampOf?, String.toList_ofList, trim_eq_self_of_not_blank (isBlank_isoText hyear locale),
    readInternetTime_text h hclock hyear]
  rfl

end Written

end StaticSite.Time
