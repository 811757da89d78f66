/-
Reading the blocks of a document, line by line.

A line first goes through the open containers, as far as its beginning continues them.  Then it
continues the open block, or it closes that block and the containers it does not continue, opens
containers of its own and begins a block.  A paragraph may be continued by a line that does not
continue its containers.
-/
import StaticSite.Markdown.Block
import StaticSite.Markdown.BlockStart
import StaticSite.Markdown.HeadingAttributes

namespace StaticSite.Markdown

/-- The open block; its lines are kept with the last one first. -/
inductive Leaf where
  | none
  | paragraph (lines : List (List Char))
  | fenced (fence : Fence) (indent : Nat) (lines : List (List Char))
  | indented (lines : List (List Char))
  | html (ending : HtmlEnding) (pieces : List (Nat × List Char))
  | table (alignments : List Alignment) (head : List (List Char)) (rows : List (List (List Char)))
  deriving Repr, DecidableEq

/-- The state between two lines. -/
structure ReaderState where
  nest : Nest
  leaf : Leaf
  /-- Was the last line blank, where this makes a list loose? -/
  afterBlank : Bool
  /-- The task that the next paragraph shows. -/
  task : Option Bool
  definitions : List Definition

namespace ReaderState

/-- The state before the first line. -/
def initial : ReaderState := ⟨.empty, .none, false, none, []⟩

/-! ## Containers -/

/-- The place after what continues a container, if the line continues it. -/
def continueContainer (c : Cursor) : Container → Option Cursor
  | .quote =>
    let (_, inner) := c.takeColumns 3
    match inner.rest with
    | '>' :: _ => some ((inner.advance 1).takeColumns 1).2
    | _ => none
  | .list _ _ _ => some c
  | .item indent _ => continueIndent c indent
  | .footnote _ => continueIndent c 4
where
  /-- The place after an indentation, which a blank line may lack. -/
  continueIndent (c : Cursor) (indent : Nat) : Option Cursor :=
    let (taken, inner) := c.takeColumns indent
    if taken = indent ∨ inner.rest.isEmpty then some inner else none

/-- How many containers, the outermost one first, a line continues, and the place after them. -/
def continueContainers (c : Cursor) : List Container → Nat × Cursor
  | [] => (0, c)
  | container :: inner =>
    match continueContainer c container with
    | some next =>
      let (count, last) := continueContainers next inner
      (count + 1, last)
    | none => (0, c)

/-- The containers that are open, the outermost one first. -/
def containers (s : ReaderState) : List Container := (s.nest.frames.map (·.container)).reverse

/-- The place of a line after all containers, if it continues them all. -/
def continueAll? (s : ReaderState) (line : Line) : Option Cursor :=
  let (count, c) := continueContainers (.start line.text) s.containers
  if count = s.nest.frames.length then some c else none

/-- The list that holds the innermost item is loose. -/
def loosenList (n : Nest) : Nest :=
  match n.frames with
  | item :: f :: frames =>
    match f.container with
    | .list mark first _ =>
      { n with frames := item :: { f with container := .list mark first false } :: frames }
    | _ => n
  | _ => n

/-- Make ready for a block: a list whose items have ended is closed, and a blank line before a
further block of an item makes its list loose. -/
def finishList (s : ReaderState) : ReaderState :=
  let nest := match s.nest.innermost? with
    | some (.list _ _ _) => s.nest.leave
    | _ => s.nest
  { s with nest := if s.afterBlank then loosenList nest else nest, afterBlank := false }

/-- Make ready for an item: it continues the list of its mark, or begins a new one. -/
def continueList (s : ReaderState) (marker : Marker) : ReaderState :=
  let begin (s : ReaderState) : ReaderState :=
    { s with nest := s.nest.enter (.list marker.mark marker.number true), afterBlank := false }
  match s.nest.frames with
  | f :: frames =>
    match f.container with
    | .list mark first tight =>
      if mark = marker.mark then
        let f := { f with container := .list mark first (tight && !s.afterBlank) }
        { s with nest := { s.nest with frames := f :: frames }, afterBlank := false }
      else begin s.finishList
    | _ => begin s.finishList
  | [] => begin s

/-! ## Closing blocks -/

/-- The text of lines that are kept with the last one first. -/
def textOf (lines : List (List Char)) : List Char := ['\n'].intercalate lines.reverse

/-- The text of a paragraph after the definitions at its front. -/
def properText (lines : List (List Char)) : List Char := (readDefinitions (textOf lines)).2

/-- Take the definitions at the front of a paragraph. -/
def takeDefinitions (s : ReaderState) (lines : List (List Char)) : ReaderState × List Char :=
  let (found, text) := readDefinitions (textOf lines)
  ({ s with definitions := s.definitions ++ found, leaf := .none }, text)

/-- Put a finished block at the end. -/
def addBlock (s : ReaderState) (b : Block) : ReaderState := { s with nest := s.nest.add b }

/-- Close the open block. -/
def closeLeaf (s : ReaderState) : ReaderState :=
  let rest := { s with leaf := .none }
  match s.leaf with
  | .none => s
  | .paragraph lines =>
    let (s, text) := s.takeDefinitions lines
    if text.isEmpty then s else { s.addBlock (.paragraph s.task text) with task := none }
  | .fenced fence _ lines => rest.addBlock (.code (some fence.info) lines.reverse.flatten)
  | .indented lines =>
    let lines := lines.dropWhile fun line => line.all isTagBlank
    rest.addBlock (.code none lines.reverse.flatten)
  | .html _ pieces => rest.addBlock (.html pieces.reverse)
  | .table alignments head rows => rest.addBlock (.table alignments head rows.reverse)

/-- Close the paragraph as a heading. -/
def closeAsHeading (s : ReaderState) (lines : List (List Char)) (level : Nat) : ReaderState :=
  let (s, text) := s.takeDefinitions lines
  let (h, text) := Heading.ofText level text
  s.addBlock (.heading h (withoutFinalSpaces text))

/-! ## Continuing a block -/

/-- Does a table begin with a line and the one below it? -/
def startsTable? (s : ReaderState) (head : List Char) (below : Option Line) :
    Option (List Alignment) :=
  below.bind fun line => (s.continueAll? line).bind (tableStart? head)

/-- Does a line, from a place on, interrupt a paragraph or the rows of a table?  An item always does
so if the line does not continue the containers. -/
def interrupts (c : Cursor) (anyItem : Bool) : Bool :=
  isRule c.rest || (headingLevel? c.rest).isSome || (fence? c.rest).isSome ||
    c.rest.head? == some '>' ||
    (if anyItem then (itemStart? c).isSome else interruptsAsItem c) ||
    (interruptingEnding? c.rest).isSome || (footnoteStart? c.rest).isSome

/-- Continue a paragraph with a line, if the line does. -/
def continueParagraph (s : ReaderState) (lines : List (List Char)) (all : Bool) (c : Cursor)
    (next : Option Line) : Option ReaderState :=
  let more : ReaderState := { s with leaf := .paragraph (afterLineBlanks c.rest :: lines) }
  let (indent, inner) := c.takeColumns 4
  let proper := properText lines
  let table :=
    if all && !proper.isEmpty && !proper.contains '\n' then tableStart? proper c else none
  match table with
  | some alignments =>
    let (s, text) := s.takeDefinitions lines
    some { s with leaf := .table alignments (rowOfWidth alignments.length text) [] }
  | none =>
    if c.isBlank then none
    else if indent = 4 then some more
    else
      match underlineLevel? inner.rest with
      | some level =>
        if all && !proper.isEmpty then some (s.closeAsHeading lines level)
        else if interrupts inner (!all) then none
        else some more
      | none =>
        if interrupts inner (!all) then none
        else if inner.rest.head? == some '|' && (s.startsTable? inner.rest next).isSome then none
        else some more

/-- The pieces in which a line of markup is kept, the last one first: behind a carriage return the
line feed is a piece of its own. -/
def markupPieces (line : Line) (spaces : Nat) (rest : List Char) : List (Nat × List Char) :=
  if line.returned then [(0, ['\n']), (spaces, rest)] else [(spaces, rest ++ line.ending)]

/-- Continue the open block with a line, if the line does. -/
def continueLeaf (s : ReaderState) (line : Line) (all : Bool) (c : Cursor) (next : Option Line) :
    Option ReaderState :=
  match s.leaf with
  | .none => none
  | .paragraph lines => s.continueParagraph lines all c next
  | .fenced fence indent lines =>
    if all then
      let (taken, inner) := c.takeColumns indent
      let (further, last) := inner.takeColumns (4 - taken)
      if taken + further < 4 && fence.isEndedBy last.rest then some s.closeLeaf
      else some { s with leaf := .fenced fence indent ((inner.text ++ line.ending) :: lines) }
    else none
  | .indented lines =>
    let (taken, inner) := c.takeColumns 4
    if all && (taken = 4 || inner.rest.isEmpty) then
      some { s with leaf := .indented ((inner.text ++ line.ending) :: lines) }
    else none
  | .html ending pieces =>
    let more : ReaderState :=
      { s with leaf := .html ending (markupPieces line c.pending c.rest ++ pieces) }
    if !all then none
    else
      match ending with
      | .blankLine => if c.isBlank then none else some more
      | .containing text => some (if Text.containsText text c.rest then more.closeLeaf else more)
  | .table alignments head rows =>
    let (_, inner) := c.takeColumns line.text.length
    if all && !c.isBlank && !interrupts inner true then
      some { s with leaf := .table alignments head (rowOfWidth alignments.length c.rest :: rows) }
    else none

/-! ## Beginning blocks -/

/-- Open the containers that begin at a place, at most as many as the bound.  The place after them
is given, unless the line ends with the marker of an item. -/
def openContainers : Nat → ReaderState → Cursor → ReaderState × Option Cursor
  | 0, s, c => (s, some c)
  | bound + 1, s, c =>
    let (indent, inner) := c.takeColumns 4
    if indent = 4 then (s, some c)
    else
      match footnoteStart? inner.rest with
      | some (label, after) =>
        let s := s.finishList
        let nest := match s.nest.innermost? with
          | some (.footnote _) => s.nest.leave
          | _ => s.nest
        openContainers bound { s with nest := nest.enter (.footnote label) } (.start after)
      | none =>
        match itemStart? inner with
        | some (marker, width, content) =>
          let s := s.continueList marker
          let s := { s with nest := s.nest.enter (.item (indent + width) content.isBlank) }
          if content.isBlank then (s, none)
          else
            match task? content with
            | some (checked, after) =>
              if after.isBlank then (s.addBlock (.task checked), none)
              else openContainers bound { s with task := some checked } after
            | none => openContainers bound s content
        | none =>
          match inner.rest with
          | '>' :: _ =>
            let s := s.finishList
            openContainers bound { s with nest := s.nest.enter .quote }
              ((inner.advance 1).takeColumns 1).2
          | _ => (s, some c)

/-- Take note of a blank line that stands in no block. -/
def passBlank (s : ReaderState) : ReaderState :=
  match s.nest.frames with
  | f :: _ =>
    match f.container with
    | .quote => s
    | .item _ true =>
      if f.blocks.isEmpty then { s with nest := s.nest.leave, afterBlank := true }
      else { s with afterBlank := true }
    | _ => { s with afterBlank := true }
  | [] => { s with afterBlank := true }

/-- Begin a block at a place that is not blank. -/
def startLeaf (s : ReaderState) (line : Line) (c : Cursor) : ReaderState :=
  let s := s.finishList
  let (indent, inner) := c.takeColumns 4
  if indent = 4 then { s with leaf := .indented [inner.text ++ line.ending] }
  else
    match blockEnding? inner.rest with
    | some ending =>
      let s := { s with leaf := .html ending (markupPieces line indent inner.rest) }
      match ending with
      | .containing text => if Text.containsText text inner.rest then s.closeLeaf else s
      | .blankLine => s
    | none =>
      if isRule inner.rest then s.addBlock .rule
      else
        match headingLevel? inner.rest with
        | some level =>
          let (h, text) := Heading.ofText level (afterLineBlanks (inner.rest.drop level))
          s.addBlock (.heading h (withoutClosingSigns text))
        | none =>
          match fence? inner.rest with
          | some fence => { s with leaf := .fenced fence indent [] }
          | none => { s with leaf := .paragraph [inner.rest] }

/-- Read a line; the line after it is known. -/
def readLine (s : ReaderState) (line : Line) (next : Option Line) : ReaderState :=
  let (count, c) := continueContainers (.start line.text) s.containers
  let all := count = s.nest.frames.length
  match s.continueLeaf line all c next with
  | some s => s
  | none =>
    let s := s.closeLeaf
    let s := { s with nest := s.nest.leaveTo count }
    match openContainers (line.text.length + 1) s c with
    | (s, some c) => if c.isBlank then s.passBlank else s.startLeaf line c
    | (s, none) => s

/-- Read lines. -/
def readLines (s : ReaderState) : List Line → ReaderState
  | [] => s.closeLeaf
  | line :: rest => (s.readLine line rest.head?).readLines rest

end ReaderState

/-- What is known of a document when its blocks have been read. -/
structure Outline where
  blocks : List Block
  definitions : List Definition

/-- The outline of a text. -/
def Outline.ofText (cs : List Char) : Outline :=
  let s := ReaderState.initial.readLines (linesOf cs)
  ⟨s.nest.blocks, s.definitions⟩

end StaticSite.Markdown
