/-
Attributes at the end of a heading.

A heading may end in a block such as `{#id .class key=value}`, which is not a part of its text.
-/
import StaticSite.Markdown.Event
import StaticSite.Markdown.Line
import StaticSite.Text.Blank

namespace StaticSite.Markdown

/-- The pieces of a text between white space of ASCII. -/
def asciiWords (cs : List Char) : List (List Char) :=
  let rec go (word : List Char) : List Char → List (List Char)
    | [] => [word.reverse]
    | c :: rest => if Text.isAsciiBlank c then word.reverse :: go [] rest else go (c :: word) rest
  (go [] cs).filter (!·.isEmpty)

/-- The heading with one more item of its block; an item of one byte says nothing. -/
def Heading.withItem (h : Heading) (item : List Char) : Heading :=
  match item with
  | '#' :: c :: id => { h with id := some (String.ofList (c :: id)) }
  | '.' :: c :: name => { h with classes := h.classes ++ [String.ofList (c :: name)] }
  | _ =>
    if (String.ofList item).utf8ByteSize ≤ 1 then h
    else
      let entry := match Text.splitFirst '=' item with
        | some (key, value) => (String.ofList key, some (String.ofList value))
        | none => (String.ofList item, none)
      { h with attributes := h.attributes ++ [entry] }

/-- The text before the block of attributes at its end, and what is in the block. -/
def splitAttributeBlock (cs : List Char) : Option (List Char × List Char) :=
  match (Text.dropEndWhile (fun c => c == '\n' || c == ' ' || c == '\t') cs).reverse with
  | '\x7d' :: rest =>
    let isInside (c : Char) : Bool := !("\x7b\x7d<>\\\n".toList.contains c)
    match rest.dropWhile isInside with
    | '\x7b' :: before => some (before.reverse, (rest.takeWhile isInside).reverse)
    | _ => none
  | _ => none

/-- A heading of a level with the attributes of its text, and the text before them. -/
def Heading.ofText (level : Nat) (cs : List Char) : Heading × List Char :=
  let plain : Heading := ⟨level, none, [], []⟩
  match splitAttributeBlock cs with
  | some (before, inner) => ((asciiWords inner).foldl Heading.withItem plain, before)
  | none => (plain, cs)

/-- The text of a heading without the spaces at its end. -/
def withoutFinalSpaces (cs : List Char) : List Char :=
  Text.dropEndWhile (fun c => c == '\n' || c == ' ') cs

/-- The text of a heading without the number signs that close it.  They stand alone or after a
space. -/
def withoutClosingSigns (cs : List Char) : List Char :=
  let cs := withoutFinalSpaces cs
  let before := Text.dropEndWhile (· == '#') cs
  if before.isEmpty then []
  else if before.getLast? = some ' ' then withoutFinalSpaces before
  else cs

end StaticSite.Markdown
