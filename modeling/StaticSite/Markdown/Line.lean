/-
Lines of a document and the columns of a line.

Blocks are told apart by the columns at the beginning of a line.  A tab reaches to the next multiple
of four, and a part of its columns can be taken, so a cursor keeps the columns of a tab that are
left.
-/
import StaticSite.Text.Split

namespace StaticSite.Markdown

/-- A line, without what ends it. -/
structure Line where
  text : List Char
  /-- Does a line feed end it? -/
  ended : Bool
  /-- Does a carriage return stand before the line feed? -/
  returned : Bool
  deriving Repr, DecidableEq

/-- The line feed of a line, if it has one. -/
def Line.ending (l : Line) : List Char := if l.ended then ['\n'] else []

/-- The text with a line feed at each end of a line, also where there is a carriage return only. -/
def unifyLineEnds : List Char → List Char
  | [] => []
  | '\r' :: '\n' :: rest => '\r' :: '\n' :: unifyLineEnds rest
  | '\r' :: rest => '\n' :: unifyLineEnds rest
  | c :: rest => c :: unifyLineEnds rest

/-- The text as it is read: with line feeds and without null characters. -/
def readable (cs : List Char) : List Char :=
  (unifyLineEnds cs).map fun c => if c = '\x00' then '\ufffd' else c

/-- A line from its text with what ends it. -/
def Line.ofInclusive (cs : List Char) : Line :=
  match Text.beforeSuffix? ['\n'] cs with
  | some line =>
    match Text.beforeSuffix? ['\r'] line with
    | some text => ⟨text, true, true⟩
    | none => ⟨line, true, false⟩
  | none => ⟨cs, false, false⟩

/-- The lines of a text. -/
def linesOf (cs : List Char) : List Line := (Text.linesInclusive (readable cs)).map Line.ofInclusive

/-- White space inside of a line. -/
def isLineBlank (c : Char) : Bool := c == ' ' || c == '\t' || c == '\x0b' || c == '\x0c'

/-- Is there nothing but white space in a line? -/
def isBlankLine (cs : List Char) : Bool := cs.all isLineBlank

/-- The text without the white space in front. -/
def afterLineBlanks (cs : List Char) : List Char := cs.dropWhile isLineBlank

/-! ## Columns -/

/-- A place in a line. -/
structure Cursor where
  /-- The column of the first character of the rest. -/
  column : Nat
  /-- Columns of a tab that have not been taken. -/
  pending : Nat
  rest : List Char
  deriving Repr, DecidableEq

namespace Cursor

/-- The beginning of a text. -/
def start (cs : List Char) : Cursor := ⟨0, 0, cs⟩

/-- The text from the place on; columns that are left of a tab are spaces. -/
def text (c : Cursor) : List Char := List.replicate c.pending ' ' ++ c.rest

/-- Is the rest of the line blank? -/
def isBlank (c : Cursor) : Bool := isBlankLine c.rest

/-- The place after a number of characters. -/
def advance (n : Nat) (c : Cursor) : Cursor := ⟨c.column + n, 0, c.rest.drop n⟩

/-- Take one column of white space. -/
def takeColumn? (c : Cursor) : Option Cursor :=
  match c.pending, c.rest with
  | n + 1, rest => some ⟨c.column, n, rest⟩
  | 0, ' ' :: rest => some ⟨c.column + 1, 0, rest⟩
  | 0, '\t' :: rest =>
    let width := 4 - c.column % 4
    some ⟨c.column + width, width - 1, rest⟩
  | 0, _ => none

/-- Take columns of white space, at most as many as asked for, and count them. -/
def takeColumns : Nat → Cursor → Nat × Cursor
  | 0, c => (0, c)
  | n + 1, c =>
    match c.takeColumn? with
    | some next =>
      let (taken, last) := takeColumns n next
      (taken + 1, last)
    | none => (0, c)

/-- No more columns are taken than asked for. -/
theorem takeColumns_le (n : Nat) (c : Cursor) : (takeColumns n c).1 ≤ n := by
  induction n generalizing c with
  | zero => simp [takeColumns]
  | succ n ih =>
    unfold takeColumns
    split
    · rename_i next _
      have := ih next
      simp only
      omega
    · simp

end Cursor

/-! ## Small lemmas -/

/-- A text without carriage returns stays as it is. -/
theorem unifyLineEnds_eq_self {cs : List Char} (h : '\r' ∉ cs) : unifyLineEnds cs = cs := by
  fun_induction unifyLineEnds cs with
  | case1 => rfl
  | case2 => simp at h
  | case3 => simp at h
  | case4 c rest _ _ ih =>
    simp only [List.mem_cons, not_or] at h
    rw [ih h.2]

end StaticSite.Markdown
