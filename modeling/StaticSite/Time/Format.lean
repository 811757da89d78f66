/-
Writing dates.

A date value is a number of milliseconds or a date in one of the formats that `timestampOf?`
reads.  `dateText` writes it in one of four styles; a text that is no date stays as it is.
-/
import StaticSite.Time.Locale
import StaticSite.Time.Timestamp

namespace StaticSite.Time

open StaticSite.Text

/-- The ways to write a date. -/
inductive DateStyle where
  /-- The year alone. -/
  | year
  /-- Year, month and day with hyphens. -/
  | date
  /-- Day, name of the month and year. -/
  | long
  /-- Date and time to the second in universal time. -/
  | iso
  deriving Repr, DecidableEq

/-- A year has at least four digits; outside of 0 to 9999 a sign precedes them. -/
def yearText (year : Int) : List Char :=
  let digits := zeroPadded 4 (decimal year.natAbs)
  if year < 0 then '-' :: digits
  else if 9999 < year then '+' :: digits
  else digits

/-- A number with at least two digits. -/
def twoDigits (n : Nat) : List Char := zeroPadded 2 (decimal n)

/-- Year, month and day with hyphens. -/
def Date.text (d : Date) : List Char :=
  yearText d.year ++ '-' :: twoDigits d.month ++ '-' :: twoDigits d.day

/-- Hour, minute and second with colons. -/
def Moment.clockText (m : Moment) : List Char :=
  twoDigits m.hour ++ ':' :: twoDigits m.minute ++ ':' :: twoDigits m.second

/-- A date with the name of its month. -/
def Date.longText (d : Date) (locale : Locale) : List Char :=
  let month := (locale.monthName d.month).toList
  if locale.monthFirst then
    month ++ ' ' :: decimal d.day ++ ',' :: ' ' :: yearText d.year
  else decimal d.day ++ ' ' :: month ++ ' ' :: yearText d.year

/-- A moment in one of the styles. -/
def Moment.text (m : Moment) (style : DateStyle) (locale : String) : List Char :=
  match style with
  | .year => yearText m.date.year
  | .date => m.date.text
  | .long => m.date.longText (Locale.ofTag locale)
  | .iso => m.date.text ++ 'T' :: m.clockText ++ ['Z']

/-- The milliseconds that a date value stands for: a number, or a date in a known format. -/
def millisOf? (value : String) : Option Int :=
  readInt64 (trim value.toList) <|> timestampOf? value

/-- A date value in one of the styles; a text that is no date stays as it is. -/
def dateText (value : String) (style : DateStyle) (locale : String) : String :=
  match (millisOf? value).bind Moment.ofMillis? with
  | some m => String.ofList (m.text style locale)
  | none => value

end StaticSite.Time
