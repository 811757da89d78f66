/-
Events of a whole document.

The blocks of a text are read first, because a definition or a footnote counts wherever it stands;
then the text in them becomes events.  In a tight list the paragraphs of items are bare text.
-/
import StaticSite.Markdown.BlockReader
import StaticSite.Markdown.Escape
import StaticSite.Markdown.InlineReader

namespace StaticSite.Markdown

mutual

/-- The labels of the footnotes of a block. -/
def Block.footnoteLabels : Block → List (List Char)
  | .quote inner => footnoteLabelsOf inner
  | .list _ _ items => footnoteLabelsOf items
  | .item inner => footnoteLabelsOf inner
  | .footnote label inner => label :: footnoteLabelsOf inner
  | _ => []

/-- The labels of the footnotes of blocks. -/
def footnoteLabelsOf : List Block → List (List Char)
  | [] => []
  | b :: rest => b.footnoteLabels ++ footnoteLabelsOf rest

end

/-- What the labels of a document stand for. -/
def Outline.labels (o : Outline) : Labels := ⟨o.definitions, footnoteLabelsOf o.blocks⟩

/-- The events of a text. -/
def textEvents (labels : Labels) (cs : List Char) : List Event :=
  eventsOfParts (readInlines labels cs)

/-- The events of code; empty code has none inside. -/
def codeEvents (cs : List Char) : List Event :=
  if cs.isEmpty then [] else [.text (String.ofList cs)]

/-- The events of a piece of markup, after the spaces in front of it. -/
def markupEvents (piece : Nat × List Char) : List Event :=
  let spaces :=
    if piece.1 = 0 then [] else [Event.text (String.ofList (List.replicate piece.1 ' '))]
  spaces ++ [.html (String.ofList piece.2)]

/-- The events of the cells of a row. -/
def cellEvents (labels : Labels) (cells : List (List Char)) : List Event :=
  cells.flatMap fun cell => Event.within .tableCell (textEvents labels cell)

mutual

/-- The events of a block.  The flag says whether it stands in an item of a tight list. -/
def Block.events (labels : Labels) (tight : Bool) : Block → List Event
  | .paragraph task text =>
    let inner := (task.map Event.taskMarker).toList ++ textEvents labels text
    if tight then inner else Event.within .paragraph inner
  | .task checked => [.taskMarker checked]
  | .heading h text => Event.within (.heading h) (textEvents labels text)
  | .rule => [.rule]
  | .code info text =>
    Event.within (.code (info.map fun cs => String.ofList (unescape cs))) (codeEvents text)
  | .html pieces => Event.within .htmlBlock (pieces.flatMap markupEvents)
  | .table alignments head rows =>
    Event.within (.table alignments)
      (Event.within .tableHead (cellEvents labels head) ++
        rows.flatMap fun row => Event.within .tableRow (cellEvents labels row))
  | .quote inner => Event.within .quote (eventsOfBlocks labels false inner)
  | .list first listTight items =>
    Event.within (.list first) (eventsOfBlocks labels listTight items)
  | .item inner => Event.within .item (eventsOfBlocks labels tight inner)
  | .footnote label inner =>
    Event.within (.footnote (String.ofList label)) (eventsOfBlocks labels false inner)

/-- The events of blocks. -/
def eventsOfBlocks (labels : Labels) (tight : Bool) : List Block → List Event
  | [] => []
  | b :: rest => b.events labels tight ++ eventsOfBlocks labels tight rest

end

/-- The events of a document. -/
def Outline.events (o : Outline) : List Event := eventsOfBlocks o.labels false o.blocks

/-- The events of a text. -/
def eventsOf (text : String) : List Event := (Outline.ofText text.toList).events

end StaticSite.Markdown
