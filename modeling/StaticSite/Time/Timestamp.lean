/-
Dates and times.

`timestampOf?` accepts the internet format with an offset, a date with a time to the second or
minute, and a date alone, and gives milliseconds since 1970-01-01T00:00:00Z.  The internet format
has fixed widths; in the others a number has up to two digits, a year up to four or any number
after a sign, and white space before a number is skipped.
-/
import StaticSite.Text.Blank
import StaticSite.Text.Numeral
import StaticSite.Time.Calendar

namespace StaticSite.Time

open StaticSite.Text

/-- Read the given character. -/
def readChar (c : Char) : List Char → Option (List Char)
  | d :: rest => if d = c then some rest else none
  | [] => none

/-- Read at least one digit and at most `max`. -/
def readDigits (max : Nat) (cs : List Char) : Option (Nat × List Char) :=
  let digits := (cs.take max).takeWhile Char.isDigit
  if digits.isEmpty then none else some (digitsValue digits, cs.drop digits.length)

/-- Read exactly `n` digits. -/
def readExactly (n : Nat) (cs : List Char) : Option (Nat × List Char) :=
  let digits := cs.take n
  if digits.length = n ∧ digits.all Char.isDigit then some (digitsValue digits, cs.drop n) else none

/-- Read a year: up to four digits, or a sign and any number of digits. -/
def readYear (cs : List Char) : Option (Int × List Char) :=
  match trimStart cs with
  | '-' :: rest => (readDigits rest.length rest).map fun (n, rest) => (-(n : Int), rest)
  | '+' :: rest => (readDigits rest.length rest).map fun (n, rest) => (n, rest)
  | rest => (readDigits 4 rest).map fun (n, rest) => (n, rest)

/-- Read a number of one or two digits after any white space. -/
def readShort (cs : List Char) : Option (Nat × List Char) := readDigits 2 (trimStart cs)

/-- Read a date of the calendar. -/
def readDate (cs : List Char) : Option (Date × List Char) := do
  let (year, cs) ← readYear cs
  let cs ← readChar '-' cs
  let (month, cs) ← readShort cs
  let cs ← readChar '-' cs
  let (day, cs) ← readShort cs
  let date : Date := ⟨year, month, day⟩
  if date.isValid then some (date, cs) else none

/-- A time of day, if the numbers are in range; a leap second is accepted. -/
def momentOf? (date : Date) (hour minute second : Nat) : Option Moment :=
  if hour ≤ 23 ∧ minute ≤ 59 ∧ second ≤ 60 then some ⟨date, hour, minute, second⟩ else none

/-- How a time of day is separated from its date, and whether it has seconds. -/
inductive TimeForm where
  | blankSeconds
  | letterSeconds
  | blankMinutes
  deriving Repr, DecidableEq

/-- Read what stands between date and time. -/
def TimeForm.readSeparator : TimeForm → List Char → Option (List Char)
  | .letterSeconds, cs => readChar 'T' cs
  | _, cs => some (trimStart cs)

/-- Read the seconds of a time of day, or none where the form has none. -/
def TimeForm.readSeconds : TimeForm → List Char → Option (Nat × List Char)
  | .blankMinutes, cs => some (0, cs)
  | _, cs => do readShort (← readChar ':' cs)

/-- Read a date and a time of day without an offset, up to the end of the text. -/
def readMoment (form : TimeForm) (cs : List Char) : Option Moment := do
  let (date, cs) ← readDate cs
  let (hour, cs) ← readShort (← form.readSeparator cs)
  let (minute, cs) ← readShort (← readChar ':' cs)
  let (second, cs) ← form.readSeconds cs
  if cs.isEmpty then momentOf? date hour minute second else none

/-- Read the part of a second after a point: at least one digit, of which three count. -/
def readMillis (cs : List Char) : Option (Nat × List Char) :=
  match cs with
  | '.' :: rest =>
    let digits := rest.takeWhile Char.isDigit
    if digits.isEmpty then none
    else
      let counted := digits.take 3
      let padded := counted ++ List.replicate (3 - counted.length) '0'
      some (digitsValue padded, rest.drop digits.length)
  | _ => some (0, cs)

/-- Read an offset from universal time in minutes. -/
def readOffset (cs : List Char) : Option (Int × List Char) := do
  let signed (sign : Int) (cs : List Char) : Option (Int × List Char) := do
    let (hours, cs) ← readExactly 2 cs
    let (minutes, cs) ← readExactly 2 (← readChar ':' cs)
    if hours ≤ 23 ∧ minutes ≤ 59 then some (sign * (hours * 60 + minutes : Nat), cs) else none
  match cs with
  | 'Z' :: rest => some (0, rest)
  | 'z' :: rest => some (0, rest)
  | '+' :: rest => signed 1 rest
  | '-' :: rest => signed (-1) rest
  | '\u2212' :: rest => signed (-1) rest
  | _ => none

/-- Read the internet format up to the end of the text, as milliseconds. -/
def readInternetTime (cs : List Char) : Option Int := do
  let (year, cs) ← readExactly 4 cs
  let (month, cs) ← readExactly 2 (← readChar '-' cs)
  let (day, cs) ← readExactly 2 (← readChar '-' cs)
  let cs ← match cs with
    | 'T' :: rest => some rest
    | 't' :: rest => some rest
    | ' ' :: rest => some rest
    | _ => none
  let (hour, cs) ← readExactly 2 cs
  let (minute, cs) ← readExactly 2 (← readChar ':' cs)
  let (second, cs) ← readExactly 2 (← readChar ':' cs)
  let (millis, cs) ← readMillis cs
  let (offset, cs) ← readOffset cs
  let date : Date := ⟨year, month, day⟩
  if cs.isEmpty && date.isValid then
    (momentOf? date hour minute second).map fun m => m.millis + millis - offset * 60000
  else none

/-- Read a date alone, up to the end of the text. -/
def readDay (cs : List Char) : Option Moment := do
  let (date, cs) ← readDate cs
  if cs.isEmpty then momentOf? date 0 0 0 else none

/-- Read a date or a time: milliseconds since 1970-01-01T00:00:00Z. -/
def timestampOf? (s : String) : Option Int :=
  let cs := trim s.toList
  readInternetTime cs
    <|> (readMoment .blankSeconds cs).map Moment.millis
    <|> (readMoment .letterSeconds cs).map Moment.millis
    <|> (readMoment .blankMinutes cs).map Moment.millis
    <|> (readDay cs).map Moment.millis

end StaticSite.Time
