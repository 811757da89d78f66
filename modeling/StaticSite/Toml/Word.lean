/-
The numbers, truth values and dates of TOML.

All of these are words without quotation marks: `firstWord` gives the word, `wordValue` its value.
-/
import StaticSite.Text.Binary64
import StaticSite.Text.Split
import StaticSite.Time.Calendar
import StaticSite.Toml.Value

namespace StaticSite.Toml

/-! ## Numbers -/

/-- Digits with single underscores between them, without the underscores. -/
def plainDigits (isDigit : Char → Bool) (cs : List Char) : Option (List Char) :=
  let groups := Text.splitOn '_' cs
  if groups.all fun group => !group.isEmpty && group.all isDigit then some groups.flatten else none

/-- A number that fits 64 bits. -/
def fitting (n : Int) : Option Value :=
  if Int64.minValue.toInt ≤ n ∧ n ≤ Int64.maxValue.toInt then some (.integer n) else none

/-- A word that begins with a sign, without it, and whether the sign is a minus. -/
def splitSign (word : List Char) : Bool × List Char :=
  match word with
  | '-' :: rest => (true, rest)
  | '+' :: rest => (false, rest)
  | _ => (false, word)

/-- Digits without a zero in front of others. -/
def wholeDigits (cs : List Char) : Option (List Char) :=
  (plainDigits Char.isDigit cs).filter fun digits => digits.head? != some '0' || digits.length == 1

/-- Is the character a digit of base `base`? -/
def isDigitOf (base : Nat) (c : Char) : Bool := (Text.hexDigit? c).any (· < base)

/-- A number in a base other than ten. -/
def basedInteger (base : Nat) (word : List Char) : Option Value :=
  (plainDigits (isDigitOf base) word).bind fun digits =>
    fitting (digits.foldl (fun (n : Int) c => base * n + (Text.hexDigit? c).getD 0) 0)

/-- A whole number. -/
def integer? (word : List Char) : Option Value :=
  match word with
  | '0' :: 'x' :: digits => basedInteger 16 digits
  | '0' :: 'o' :: digits => basedInteger 8 digits
  | '0' :: 'b' :: digits => basedInteger 2 digits
  | _ =>
    let (negative, digits) := splitSign word
    (wholeDigits digits).bind fun digits =>
      fitting (if negative then -(Text.digitsValue digits : Int) else Text.digitsValue digits)

/-- Decimal digits shifted by a power of ten, without idle zeros. -/
def shownReal (negative : Bool) (digits : List Char) (shift : Int) : String :=
  let significant := digits.dropWhile (· == '0')
  let whole := (significant.length : Int) + shift
  let padded := List.replicate (-whole).toNat '0' ++ significant ++ List.replicate shift.toNat '0'
  let before := padded.take whole.toNat
  let after := Text.dropEndWhile (· == '0') (padded.drop whole.toNat)
  let text := (if before.isEmpty then ['0'] else before) ++
    (if after.isEmpty then [] else '.' :: after)
  String.ofList (if negative then '-' :: text else text)

/-- The number with these digits, shifted by a power of ten: one whose double is zero is zero, and
one whose double would be infinite is refused. -/
def decimalReal (negative : Bool) (digits : List Char) (shift : Int) : Option Value :=
  (Text.Binary64.magnitudeBits? (Text.digitsValue digits) shift).map fun bits =>
    .real (if bits = 0 then if negative then "-0" else "0" else shownReal negative digits shift)

/-- The exponent of a number, after its letter. -/
def exponentOf (cs : List Char) : Option Int :=
  let (negative, digits) := splitSign cs
  (plainDigits Char.isDigit digits).map fun ds =>
    if negative then -(Text.digitsValue ds : Int) else Text.digitsValue ds

/-- The digits before and after the point of a number. -/
def partsOf (mantissa : List Char) : Option (List Char × List Char) :=
  match Text.splitFirst '.' mantissa with
  | some (before, after) =>
    (wholeDigits before).bind fun b => (plainDigits Char.isDigit after).map fun a => (b, a)
  | none => (wholeDigits mantissa).map (·, [])

/-- A number with a fraction, an exponent or both. -/
def real? (word : List Char) : Option Value :=
  let (negative, body) := splitSign word
  if body = "inf".toList then some (.real (if negative then "-inf" else "inf"))
  else if body = "nan".toList then some (.real "NaN")
  else
    let mantissa := body.takeWhile fun c => c != 'e' && c != 'E'
    let exponent? :=
      if mantissa.length < body.length then exponentOf (body.drop (mantissa.length + 1))
      else if body.contains '.' then some 0
      else none
    exponent?.bind fun exponent => (partsOf mantissa).bind fun (before, after) =>
      decimalReal negative (before ++ after) (exponent - after.length)

/-! ## Dates and times -/

/-- The number of two digits. -/
def twoDigits? : List Char → Option Nat
  | [a, b] => Text.readNat [a, b]
  | _ => none

/-- Is the word a date of the calendar? -/
def isDate (word : List Char) : Bool :=
  match Text.splitOn '-' word with
  | [year, month, day] =>
    match Text.readNat year, twoDigits? month, twoDigits? day with
    | some y, some m, some d => year.length == 4 && (Time.Date.mk y m d).isValid
    | _, _, _ => false
  | _ => false

/-- Is the word a time of a day?  The fraction of its last second may have any number of digits. -/
def isClockTime (word : List Char) : Bool :=
  let (whole, fraction) := (Text.splitFirst '.' word).getD (word, ['0'])
  match (Text.splitOn ':' whole).map twoDigits? with
  | [some hour, some minute, some second] =>
    hour ≤ 23 && minute ≤ 59 && second ≤ 60 && (Text.readNat fraction).isSome
  | _ => false

/-- Is the word a distance from universal time, without its sign? -/
def isDistance (word : List Char) : Bool :=
  match (Text.splitOn ':' word).map twoDigits? with
  | [some hours, some minutes] => hours ≤ 23 && minutes ≤ 59
  | _ => false

/-- Is the word a time of a day, perhaps with its distance from universal time? -/
def isZonedTime (word : List Char) : Bool :=
  let time := word.takeWhile fun c => c.isDigit || c == ':' || c == '.'
  isClockTime time &&
    match word.drop time.length with
    | [] => true
    | ['Z'] | ['z'] => true
    | '+' :: distance => isDistance distance
    | '-' :: distance => isDistance distance
    | _ => false

/-- Is the word a date, a time or both? -/
def isMoment (word : List Char) : Bool :=
  match word.drop 10 with
  | [] => isDate word || isClockTime word
  | c :: time =>
    ((c == 'T' || c == 't' || c == ' ') && isDate (word.take 10) && isZonedTime time) ||
      isClockTime word

/-! ## Words -/

/-- The value of a word that is no string. -/
def wordValue (word : List Char) : Option Value :=
  if word = "true".toList then some (.boolean true)
  else if word = "false".toList then some (.boolean false)
  else if isMoment word then some (.moment (String.ofList word))
  else (integer? word).or (real? word)

/-- May the character stand in a number, a truth value or a date? -/
def isWordChar (c : Char) : Bool := c.isAlphanum || "+-_.:".toList.contains c

/-- The word that a text begins with; a date and a time with a space between them are one word. -/
def firstWord (cs : List Char) : List Char :=
  let word := cs.takeWhile isWordChar
  match cs.drop word.length with
  | ' ' :: rest =>
    let both := word ++ ' ' :: rest.takeWhile isWordChar
    if isDate word && isMoment both then both else word
  | _ => word

/-- A number, truth value or date. -/
def readWord (cs : List Char) : Option (Value × List Char) :=
  let word := firstWord cs
  (wordValue word).map fun value => (value, cs.drop word.length)

end StaticSite.Toml
