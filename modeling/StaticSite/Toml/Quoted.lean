/-
The strings and keys of TOML.

Every reader takes the text from its first character on and gives what follows what it has read.
-/
import StaticSite.Text.Blank
import StaticSite.Text.Numeral
import StaticSite.Text.Split
import StaticSite.Toml.Value

namespace StaticSite.Toml

/-! ## White space -/

/-- White space inside of a line. -/
def isSpace (c : Char) : Bool := c == ' ' || c == '\t'

/-- The text without the white space in front. -/
def skipSpace (cs : List Char) : List Char := cs.dropWhile isSpace

/-- A control character, which stands in no comment and no string; tabs do not count. -/
def isControl (c : Char) : Bool := (c.toNat < 0x20 && c != '\t') || c.toNat == 0x7f

/-- The text after white space and a comment, if the comment has no control character. -/
def skipComment (cs : List Char) : Option (List Char) :=
  match skipSpace cs with
  | '#' :: rest =>
    let after := rest.dropWhile fun c => !isControl c
    match after with
    | [] => some []
    | '\n' :: _ => some after
    | '\r' :: '\n' :: _ => some after
    | _ => none
  | rest => some rest

/-- The text after the end of a line. -/
def afterNewline? : List Char → Option (List Char)
  | '\n' :: rest => some rest
  | '\r' :: '\n' :: rest => some rest
  | _ => none

/-- The text after the rest of a line that holds nothing but white space and a comment. -/
def skipLine (cs : List Char) : Option (List Char) :=
  match skipComment cs with
  | none => none
  | some [] => some []
  | some rest => afterNewline? rest

/-- The text after white space, comments and ends of lines, at most as many as the bound. -/
def skipBlankUpTo : Nat → List Char → Option (List Char)
  | 0, cs => some cs
  | bound + 1, cs =>
    (skipComment cs).bind fun rest =>
      match afterNewline? rest with
      | some after => skipBlankUpTo bound after
      | none => some rest

/-- The text after all white space, comments and ends of lines. -/
def skipBlank (cs : List Char) : Option (List Char) := skipBlankUpTo (cs.length + 1) cs

/-! ## Strings -/

/-- The character that a letter after a backslash stands for. -/
def escaped? : Char → Option Char
  | 'b' => some '\x08'
  | 't' => some '\t'
  | 'n' => some '\n'
  | 'f' => some '\x0c'
  | 'r' => some '\r'
  | '"' => some '"'
  | '\\' => some '\\'
  | _ => none

/-- The character with a code point in base sixteen. -/
def codeChar? (digits : List Char) : Option Char :=
  let n := Text.hexValue digits
  if digits.all (fun c => (Text.hexDigit? c).isSome) ∧ n.isValidChar then some (Char.ofNat n)
  else none

/-- Put a character in front of what has been read. -/
def consRead (c : Char) (read : Option (List Char × List Char)) : Option (List Char × List Char) :=
  read.map fun (text, after) => (c :: text, after)

/-- The rest of a string up to its quotation mark. -/
def readBasic : List Char → Option (List Char × List Char)
  | [] => none
  | '\\' :: 'u' :: a :: b :: c :: d :: rest =>
    (codeChar? [a, b, c, d]).bind fun x => consRead x (readBasic rest)
  | '\\' :: 'U' :: a :: b :: c :: d :: e :: f :: g :: h :: rest =>
    (codeChar? [a, b, c, d, e, f, g, h]).bind fun x => consRead x (readBasic rest)
  | '\\' :: c :: rest => (escaped? c).bind fun x => consRead x (readBasic rest)
  | c :: rest =>
    if c = '"' then some ([], rest)
    else if isControl c ∨ c = '\\' then none
    else consRead c (readBasic rest)

/-- The rest of a string without escapes, up to its apostrophe. -/
def readLiteral : List Char → Option (List Char × List Char)
  | [] => none
  | c :: rest =>
    if c = '\'' then some ([], rest)
    else if isControl c then none
    else consRead c (readLiteral rest)

/-- The end of a string of several lines, which may have one or two of its marks before it. -/
def readTripleEnd (mark : Char) (cs : List Char) : Option (List Char × List Char) :=
  let marks := (cs.takeWhile (· == mark)).take 5
  if marks.length < 3 then none else some (marks.drop 3, cs.drop marks.length)

/-- White space and ends of lines at the front are dropped. -/
def isLineSpace (c : Char) : Bool := isSpace c || c == '\n' || c == '\r'

/-- The rest of a string of several lines, whose lines end in line feeds; `trimming` holds after a
backslash at the end of a line. -/
def readLines (mark : Char) (trimming : Bool) : List Char → Option (List Char × List Char)
  | [] => none
  | '\\' :: 'u' :: a :: b :: c :: d :: rest =>
    if mark = '\'' then
      consRead '\\' (consRead 'u' (readLines mark false (a :: b :: c :: d :: rest)))
    else (codeChar? [a, b, c, d]).bind fun x => consRead x (readLines mark false rest)
  | '\\' :: 'U' :: a :: b :: c :: d :: e :: f :: g :: h :: rest =>
    if mark = '\'' then
      consRead '\\' (consRead 'U'
        (readLines mark false (a :: b :: c :: d :: e :: f :: g :: h :: rest)))
    else
      (codeChar? [a, b, c, d, e, f, g, h]).bind fun x => consRead x (readLines mark false rest)
  | '\r' :: '\n' :: rest =>
    if trimming then readLines mark true rest
    else consRead '\n' (readLines mark false rest)
  | c :: rest =>
    if trimming ∧ isLineSpace c then readLines mark true rest
    else if c = mark ∧ (readTripleEnd mark (c :: rest)).isSome then readTripleEnd mark (c :: rest)
    else if c = '\\' ∧ mark = '"' then
      match rest with
      | d :: after =>
        match escaped? d with
        | some x => consRead x (readLines mark false after)
        | none =>
          if isLineSpace d ∧ ((d :: after).dropWhile isSpace).head?.any (!isSpace ·) ∧
              (afterNewline? ((d :: after).dropWhile isSpace)).isSome then
            readLines mark true (d :: after)
          else none
      | [] => none
    else if isControl c ∧ c ≠ '\n' then none
    else consRead c (readLines mark false rest)

/-- A string. -/
def readString (cs : List Char) : Option (List Char × List Char) :=
  match cs with
  | '"' :: '"' :: '"' :: rest => readLines '"' false ((afterNewline? rest).getD rest)
  | '\'' :: '\'' :: '\'' :: rest => readLines '\'' false ((afterNewline? rest).getD rest)
  | '"' :: rest => readBasic rest
  | '\'' :: rest => readLiteral rest
  | _ => none

/-! ## Keys -/

/-- May the character stand in a key without quotation marks? -/
def isBareKeyChar (c : Char) : Bool := c.isAlphanum || c == '_' || c == '-'

/-- One part of a key. -/
def readSimpleKey (cs : List Char) : Option (String × List Char) :=
  let read := match cs with
    | '"' :: rest => readBasic rest
    | '\'' :: rest => readLiteral rest
    | _ =>
      let bare := cs.takeWhile isBareKeyChar
      if bare.isEmpty then none else some (bare, cs.drop bare.length)
  read.map fun (key, after) => (String.ofList key, after)

/-- A key of parts with points between them, at most as many as the bound. -/
def readKeyUpTo : Nat → List Char → Option (List String × List Char)
  | 0, _ => none
  | bound + 1, cs =>
    match readSimpleKey (skipSpace cs) with
    | none => none
    | some (key, after) =>
      match skipSpace after with
      | '.' :: rest => (readKeyUpTo bound rest).map fun (path, last) => (key :: path, last)
      | rest => some ([key], rest)

/-- A key, with the white space around it. -/
def readKey (cs : List Char) : Option (List String × List Char) := readKeyUpTo cs.length cs

end StaticSite.Toml
