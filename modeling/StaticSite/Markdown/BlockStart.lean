/-
How blocks begin.

Each function looks at the text of a line from its first character that is not blank, and says
whether a kind of block begins there.
-/
import StaticSite.Markdown.Event
import StaticSite.Markdown.Line
import StaticSite.Markdown.Link

namespace StaticSite.Markdown

/-- Three or more equal marks with nothing but blanks between them are a rule. -/
def isRule (cs : List Char) : Bool :=
  match cs with
  | c :: _ =>
    (c == '*' || c == '-' || c == '_') &&
      cs.all (fun d => d == c || d == ' ' || d == '\t') && 3 ≤ cs.count c
  | [] => false

/-- The level of the heading that begins with number signs. -/
def headingLevel? (cs : List Char) : Option Nat :=
  let level := (cs.takeWhile (· == '#')).length
  if 1 ≤ level ∧ level ≤ 6 ∧ (cs.drop level).head?.all isLineBlank then some level else none

/-- The level that a line of equal or minus signs gives to the paragraph before it. -/
def underlineLevel? (cs : List Char) : Option Nat :=
  match cs with
  | c :: _ =>
    if (c == '=' || c == '-') && isBlankLine (cs.dropWhile (· == c)) then
      some (if c == '=' then 1 else 2)
    else none
  | [] => none

/-- The beginning of fenced code. -/
structure Fence where
  mark : Char
  length : Nat
  info : List Char
  deriving Repr, DecidableEq

/-- The fence that a line begins; an info text after grave accents has none of them. -/
def fence? (cs : List Char) : Option Fence :=
  match cs with
  | c :: _ =>
    let length := (cs.takeWhile (· == c)).length
    let info := cs.drop length
    if (c == '\x60' || c == '~') && 3 ≤ length && !(c == '\x60' && info.contains '\x60') then
      some ⟨c, length, Text.dropEndWhile isTagBlank (afterLineBlanks info)⟩
    else none
  | [] => none

/-- Does a line end the code that a fence has begun? -/
def Fence.isEndedBy (f : Fence) (cs : List Char) : Bool :=
  let marks := cs.takeWhile (· == f.mark)
  f.length ≤ marks.length && (cs.drop marks.length).all (· == ' ')

/-! ## Items of lists -/

/-- The marker of an item. -/
structure Marker where
  /-- The bullet, or the character after the number. -/
  mark : Char
  /-- The number, if it is an ordered item. -/
  number : Option Nat
  /-- The number of its characters. -/
  width : Nat
  deriving Repr, DecidableEq

/-- The marker at the front of a text, without what has to follow it. -/
def bareMarker? (cs : List Char) : Option Marker :=
  match cs with
  | [] => none
  | c :: _ =>
    if c == '-' || c == '+' || c == '*' then
      if isRule cs then none else some ⟨c, none, 1⟩
    else
      let digits := cs.takeWhile Char.isDigit
      match cs.drop digits.length with
      | d :: _ =>
        if 1 ≤ digits.length ∧ digits.length ≤ 9 ∧ (d = '.' ∨ d = ')') then
          some ⟨d, some (Text.digitsValue digits), digits.length + 1⟩
        else none
      | [] => none

/-- The marker of the item that begins at a place, the columns from it to the content of the item,
and the place where its content begins. -/
def itemStart? (c : Cursor) : Option (Marker × Nat × Cursor) :=
  match bareMarker? c.rest with
  | none => none
  | some marker =>
    let after := c.advance marker.width
    match after.takeColumn? with
    | none => if after.rest.isEmpty then some (marker, marker.width + 1, after) else none
    | some content =>
      if content.isBlank then some (marker, marker.width + 1, content)
      else
        match content.takeColumns 4 with
        | (4, _) => some (marker, marker.width + 1, content)
        | (n, inner) => some (marker, marker.width + 1 + n, inner)

/-- May the item interrupt a paragraph in the same container?  It is not empty, and if it is ordered
it has the number one. -/
def interruptsAsItem (c : Cursor) : Bool :=
  match itemStart? c with
  | some (marker, _, content) => marker.number.all (· == 1) && !content.isBlank
  | none => false

/-- The state of the task that an item begins with, and the place after its box. -/
def task? (c : Cursor) : Option (Bool × Cursor) :=
  let (_, c) := c.takeColumns 3
  match c.rest with
  | '[' :: state :: ']' :: blank :: _ =>
    if !isLineBlank blank then none
    else if isLineBlank state then some (false, c.advance 3)
    else if state = 'x' ∨ state = 'X' then some (true, c.advance 3)
    else none
  | _ => none

/-! ## Footnotes -/

/-- The label of the footnote that begins at the front of a text, with what follows its colon. -/
def footnoteStart? (cs : List Char) : Option (List Char × List Char) :=
  match Text.afterPrefix? ['[', '^'] cs with
  | none => none
  | some rest =>
    match readLabel rest with
    | some (label, ':' :: after) => some (label, after)
    | _ => none

/-! ## Tables -/

/-- The alignment that a cell of the line below the head gives to its column: a colon in front
aligns to the left, a later one to the right. -/
def columnAlignment (cell : List Char) : Alignment :=
  let signs := cell.filter (· != ' ')
  match signs.head? == some ':', signs.tail.contains ':' with
  | true, true => .center
  | true, false => .left
  | false, true => .right
  | false, false => .none

/-- The alignments that the line below the head of a table gives.  All its cells but an unfinished
last one have a hyphen, and an empty last cell does not count. -/
def tableAlignments? (c : Cursor) : Option (List Alignment) :=
  let (indent, c) := c.takeColumns 4
  let inner := match c.rest with
    | '|' :: rest => rest
    | rest => rest
  let cells := Text.splitOn '|' inner
  if indent ≤ 3 ∧ c.rest.contains '|' ∧ inner.contains '-' ∧
      inner.all (fun d => d == ' ' || d == ':' || d == '-' || d == '|') ∧
      cells.dropLast.all (·.contains '-') then
    some ((cells.filter fun cell => cell.any (· != ' ')).map columnAlignment)
  else none

/-- Put characters in front of the first piece. -/
def extendFirst (cs : List Char) : List (List Char) → List (List Char)
  | [] => [cs]
  | piece :: pieces => (cs ++ piece) :: pieces

/-- The pieces of a line between its vertical bars.  A bar after one backslash or two is a character
of its piece, and these backslashes are dropped. -/
def barPieces : List Char → List (List Char)
  | [] => [[]]
  | '\\' :: '\\' :: '|' :: rest => extendFirst ['|'] (barPieces rest)
  | '\\' :: '|' :: rest => extendFirst ['|'] (barPieces rest)
  | '\\' :: d :: rest => extendFirst ['\\', d] (barPieces rest)
  | '|' :: rest => [] :: barPieces rest
  | c :: rest => extendFirst [c] (barPieces rest)

/-- The cells of a line in a table: the bars at its ends may be there or not. -/
def rowCells (line : List Char) : List (List Char) :=
  let line := afterLineBlanks line
  let pieces := match line with
    | '|' :: rest => barPieces rest
    | _ => barPieces line
  let cells := match pieces.getLast? with
    | some last => if isBlankLine last then pieces.dropLast else pieces
    | none => pieces
  cells.map fun cell => Text.dropEndWhile isLineBlank (afterLineBlanks cell)

/-- The cells of a line, one for each column: missing ones are empty and surplus ones are
dropped. -/
def rowOfWidth (columns : Nat) (line : List Char) : List (List Char) :=
  let cells := (rowCells line).take columns
  cells ++ List.replicate (columns - cells.length) []

/-- The alignments of the table that two lines begin, if they do: there is a bar in the first line,
and it has as many cells as the second one gives alignments. -/
def tableStart? (head : List Char) (below : Cursor) : Option (List Alignment) :=
  (tableAlignments? below).filter fun alignments =>
    2 ≤ (barPieces head).length && (rowCells head).length == alignments.length

/-! ## Small lemmas -/

/-- A row has one cell for each column. -/
theorem length_rowOfWidth (columns : Nat) (line : List Char) :
    (rowOfWidth columns line).length = columns := by
  simp only [rowOfWidth, List.length_append, List.length_take, List.length_replicate]
  omega

end StaticSite.Markdown
