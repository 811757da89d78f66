/-
Backslash escapes and character references.

A backslash before ASCII punctuation stands for the character itself; `&name;`, `&#digits;` and
`&#xdigits;` stand for characters.  `unescape` resolves both in addresses, titles and info texts.
-/
import StaticSite.Markdown.Entity

namespace StaticSite.Markdown

/-- Is the character ASCII punctuation? -/
def isAsciiPunctuation (c : Char) : Bool :=
  let n := c.toNat
  (0x21 ≤ n && n ≤ 0x2f) || (0x3a ≤ n && n ≤ 0x40) || (0x5b ≤ n && n ≤ 0x60) ||
    (0x7b ≤ n && n ≤ 0x7e)

/-- The character with a code point; zero and what is no character become the replacement
character. -/
def charOfCode (n : Nat) : Char := if n = 0 ∨ !n.isValidChar then '\ufffd' else Char.ofNat n

/-- Read digits up to a semicolon: at least one and at most `max`. -/
def readCode (isDigit : Char → Bool) (max : Nat) (value : List Char → Nat) (cs : List Char) :
    Option (List Char × List Char) :=
  let digits := cs.takeWhile isDigit
  match digits, cs.dropWhile isDigit with
  | _ :: _, ';' :: rest =>
    if digits.length ≤ max then some ([charOfCode (value digits)], rest) else none
  | _, _ => none

/-- The characters of a reference whose ampersand stands before a text, with what follows. -/
def readReference (cs : List Char) : Option (List Char × List Char) :=
  match cs with
  | '#' :: x :: rest =>
    if x = 'x' ∨ x = 'X' then readCode (fun c => (Text.hexDigit? c).isSome) 6 Text.hexValue rest
    else readCode Char.isDigit 7 Text.digitsValue
      (x :: rest)
  | cs =>
    match cs.takeWhile Char.isAlphanum, cs.dropWhile Char.isAlphanum with
    | name, ';' :: rest => (namedCharacter? name).map fun image => (image, rest)
    | _, _ => none

/-- Resolve escapes and references, at most as many as the bound. -/
def unescapeUpTo : Nat → List Char → List Char
  | 0, cs => cs
  | _, [] => []
  | bound + 1, '\\' :: c :: rest =>
    if isAsciiPunctuation c then c :: unescapeUpTo bound rest
    else '\\' :: unescapeUpTo bound (c :: rest)
  | bound + 1, '&' :: rest =>
    match readReference rest with
    | some (image, after) => image ++ unescapeUpTo bound after
    | none => '&' :: unescapeUpTo bound rest
  | bound + 1, c :: rest => c :: unescapeUpTo bound rest

/-- Resolve all escapes and references. -/
def unescape (cs : List Char) : List Char := unescapeUpTo cs.length cs

end StaticSite.Markdown
