/-
Numbers as text.

`numeral` writes a natural number in a base up to 36 with the digits `0`-`9a`-`z`, without leading
zeros.  The readers accept ASCII digits only and check the range of the machine integer that the
number stands for, because a number beyond it is refused and not truncated.
-/

namespace StaticSite.Text

/-- The digit with a value below 36. -/
def digitChar (n : Nat) : Char := if n < 10 then Char.ofNat (0x30 + n) else Char.ofNat (0x57 + n)

/-- A number in a base of at least two, without leading zeros. -/
def numeral (base n : Nat) : List Char :=
  if _h : base < 2 ∨ n < base then [digitChar n]
  else numeral base (n / base) ++ [digitChar (n % base)]
termination_by n
decreasing_by exact Nat.div_lt_self (by omega) (by omega)

/-- A number in base 36: the short form of a time in asset versions. -/
def base36 (n : Nat) : String := String.ofList (numeral 36 n)

/-- A natural number in base ten. -/
def decimal (n : Nat) : List Char := numeral 10 n

/-- An integer in base ten, with a minus sign when it is negative. -/
def decimalInt (z : Int) : List Char :=
  if z < 0 then '-' :: decimal z.natAbs else decimal z.natAbs

/-- At least `width` characters, filled with zeros on the left. -/
def zeroPadded (width : Nat) (digits : List Char) : List Char :=
  List.replicate (width - digits.length) '0' ++ digits

/-- The value of a digit of base ten. -/
def digitValue (c : Char) : Nat := c.toNat - 0x30

/-- The number that a list of digits stands for. -/
def digitsValue (cs : List Char) : Nat := cs.foldl (fun n c => 10 * n + digitValue c) 0

/-- Read one or more ASCII digits and nothing else. -/
def readNat (cs : List Char) : Option Nat :=
  if cs.isEmpty || !cs.all Char.isDigit then none else some (digitsValue cs)

/-- Read an integer with an optional sign that fits 64 bits. -/
def readInt64 (cs : List Char) : Option Int :=
  let fits (z : Int) : Option Int :=
    if Int64.minValue.toInt ≤ z ∧ z ≤ Int64.maxValue.toInt then some z else none
  match cs with
  | '-' :: digits => (readNat digits).bind fun n => fits (-(n : Int))
  | '+' :: digits => (readNat digits).bind fun n => fits n
  | digits => (readNat digits).bind fun n => fits n

/-- Read a natural number with an optional plus sign that fits 64 bits. -/
def readNat64 (cs : List Char) : Option Nat :=
  let digits := match cs with
    | '+' :: rest => rest
    | _ => cs
  (readNat digits).filter (· < UInt64.size)

/-- The value of a digit of base sixteen. -/
def hexDigit? (c : Char) : Option Nat :=
  if c.isDigit then some (c.toNat - 0x30)
  else if 'a' ≤ c ∧ c ≤ 'f' then some (c.toNat - 0x57)
  else if 'A' ≤ c ∧ c ≤ 'F' then some (c.toNat - 0x37)
  else none

/-- The number that a list of digits of base sixteen stands for. -/
def hexValue (cs : List Char) : Nat := cs.foldl (fun n c => 16 * n + (hexDigit? c).getD 0) 0

end StaticSite.Text
