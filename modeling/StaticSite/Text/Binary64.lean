/-
Decimal text as a double-precision number, up to order.

`orderKey?` reads a decimal number, rounds it to the nearest double (a tie goes to the even one) and
gives an integer that orders finite doubles as their total order does: by value, and `-0` just below
`0`.  All arithmetic is exact, on natural numbers.  A number whose double would be infinite has no
key, and neither has a text that is not a decimal number.
-/
import StaticSite.Text.Blank
import StaticSite.Text.Numeral

namespace StaticSite.Text.Binary64

/-- A decimal number: `mantissa * 10 ^ exponent`, with a sign of its own because of `-0`. -/
structure Decimal where
  negative : Bool
  mantissa : Nat
  exponent : Int
deriving DecidableEq

/-- Read the exponent part, which may be missing. -/
def readExponent : List Char → Option Int
  | [] => some 0
  | c :: rest =>
    if c = 'e' ∨ c = 'E' then
      match rest with
      | '-' :: digits => (readNat digits).map fun n => -(n : Int)
      | '+' :: digits => (readNat digits).map fun n => (n : Int)
      | digits => (readNat digits).map fun n => (n : Int)
    else none

/-- Read digits with an optional point among them, then an optional exponent. -/
def readUnsigned (negative : Bool) (cs : List Char) : Option Decimal :=
  let whole := cs.takeWhile Char.isDigit
  let rest := cs.dropWhile Char.isDigit
  let (fraction, rest) := match rest with
    | '.' :: rest => (rest.takeWhile Char.isDigit, rest.dropWhile Char.isDigit)
    | _ => ([], rest)
  if whole.isEmpty && fraction.isEmpty then none
  else (readExponent rest).map fun e =>
    ⟨negative, digitsValue (whole ++ fraction), e - fraction.length⟩

/-- Read a decimal number with an optional sign. -/
def readDecimal : List Char → Option Decimal
  | '-' :: rest => readUnsigned true rest
  | '+' :: rest => readUnsigned false rest
  | cs => readUnsigned false cs

/-- The quotient rounded to the nearest natural number, ties to even. -/
def roundDiv (num den : Nat) : Nat :=
  let q := num / den
  let twice := 2 * (num % den)
  if twice < den then q else if den < twice then q + 1 else if q % 2 = 0 then q else q + 1

/-- The bits of the double nearest to `num / den`, without regard to overflow.  The quotient is
scaled by a power of two so that it has 53 binary digits, or fewer at the small end; counting the
scaled values one binade after the other is what the bits of a double do. -/
def nearestBits (num den : Nat) : Nat :=
  let log : Int := (Nat.log2 num : Int) - (Nat.log2 den : Int)
  let below : Bool :=
    if 0 ≤ log then num < den <<< log.toNat else num <<< (-log).toNat < den
  let top : Int := if below then log - 1 else log
  let scale : Int := max (top - 52) (-1074)
  let q :=
    if 0 ≤ scale then roundDiv num (den <<< scale.toNat)
    else roundDiv (num <<< (-scale).toNat) den
  (scale + 1074).toNat <<< 52 + q

/-- The bits of infinity: every finite double has fewer. -/
def infinityBits : Nat := 0x7ff <<< 52

/-- The bits of the magnitude of a decimal number as a double, if that is finite.  Exponents far
outside the range of doubles are settled without computing their power of ten. -/
def magnitudeBits? (mantissa : Nat) (exponent : Int) : Option Nat :=
  if mantissa = 0 then some 0
  else
    let digits : Int := (decimal mantissa).length
    if 400 < digits + exponent then none
    else if digits + exponent < -400 then some 0
    else
      let bits :=
        if 0 ≤ exponent then nearestBits (mantissa * Nat.pow 10 exponent.toNat) 1
        else nearestBits mantissa (Nat.pow 10 (-exponent).toNat)
      if bits < infinityBits then some bits else none

/-- The key that orders the finite numbers among the texts. -/
def orderKey? (s : String) : Option Int :=
  (readDecimal (trim s.toList)).bind fun d =>
    (magnitudeBits? d.mantissa d.exponent).map fun bits =>
      if d.negative then -1 - (bits : Int) else bits

end StaticSite.Text.Binary64
