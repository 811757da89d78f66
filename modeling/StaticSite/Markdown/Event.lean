/-
Events: a document as a sequence of starts, ends and leaves.

The reader gives a document as events, and everything that is done with a document (heading ids,
plain text, markup) is a function of its events.
-/

namespace StaticSite.Markdown

/-- How the text of a table column is aligned. -/
inductive Alignment where
  | none
  | left
  | center
  | right
  deriving Repr, DecidableEq

/-- A heading with what its attribute block says. -/
structure Heading where
  level : Nat
  id : Option String
  classes : List String
  attributes : List (String × Option String)
  deriving Repr, DecidableEq

/-- Where a link leads. -/
structure Target where
  url : String
  title : String
  /-- Is the address one of electronic mail? -/
  mail : Bool
  deriving Repr, DecidableEq

/-- The beginning of something that holds events. -/
inductive Start where
  | paragraph
  | heading (h : Heading)
  | quote
  /-- Code with the info text of its fence, if it is fenced. -/
  | code (info : Option String)
  | htmlBlock
  /-- A list; an ordered one has a first number. -/
  | list (first : Option Nat)
  | item
  | footnote (label : String)
  | table (alignments : List Alignment)
  | tableHead
  | tableRow
  | tableCell
  | emphasis
  | strong
  | strikethrough
  | link (target : Target)
  | image (target : Target)
  deriving Repr, DecidableEq

/-- The end of something that holds events. -/
inductive Stop where
  | paragraph
  | heading (level : Nat)
  | quote
  | code
  | htmlBlock
  | list (ordered : Bool)
  | item
  | footnote
  | table
  | tableHead
  | tableRow
  | tableCell
  | emphasis
  | strong
  | strikethrough
  | link
  | image
  deriving Repr, DecidableEq

/-- The end that belongs to a beginning. -/
def Start.stop : Start → Stop
  | .paragraph => .paragraph
  | .heading h => .heading h.level
  | .quote => .quote
  | .code _ => .code
  | .htmlBlock => .htmlBlock
  | .list first => .list first.isSome
  | .item => .item
  | .footnote _ => .footnote
  | .table _ => .table
  | .tableHead => .tableHead
  | .tableRow => .tableRow
  | .tableCell => .tableCell
  | .emphasis => .emphasis
  | .strong => .strong
  | .strikethrough => .strikethrough
  | .link _ => .link
  | .image _ => .image

/-- One event of a document. -/
inductive Event where
  | start (s : Start)
  | stop (s : Stop)
  | text (s : String)
  | code (s : String)
  /-- A piece of a block of markup. -/
  | html (s : String)
  /-- Markup inside of text. -/
  | inlineHtml (s : String)
  | footnoteReference (label : String)
  | softBreak
  | hardBreak
  | rule
  | taskMarker (checked : Bool)
  deriving Repr, DecidableEq

/-- Events between a beginning and its end. -/
def Event.within (s : Start) (inner : List Event) : List Event :=
  .start s :: inner ++ [.stop s.stop]

end StaticSite.Markdown
