/-
Writing and stripping markup.

`escape` makes a text safe between tags and inside a quoted attribute value, `stripTags` removes
everything between angle brackets, and an `Element` is written by `open` and `wrap`.  Since `escape`
never writes a quotation mark or an angle bracket, an attribute value cannot end its attribute.
-/
import StaticSite.Text.Split

namespace StaticSite.Html

/-- The text that stands for a character in markup. -/
def escapeChar (c : Char) : List Char :=
  if c = '&' then "&amp;".toList
  else if c = '<' then "&lt;".toList
  else if c = '>' then "&gt;".toList
  else if c = '"' then "&quot;".toList
  else if c = '\'' then "&#39;".toList
  else [c]

/-- The text with the five special characters written as entities. -/
def escape (s : String) : String := String.ofList (s.toList.flatMap escapeChar)

/-- Drop tags from a text that begins inside a tag or outside of one. -/
def stripFrom : Bool → List Char → List Char
  | _, [] => []
  | inTag, c :: rest =>
    if c = '<' then stripFrom true rest
    else if c = '>' then stripFrom false rest
    else if inTag then stripFrom true rest
    else c :: stripFrom false rest

/-- The text without its tags. -/
def stripTags (s : String) : String := String.ofList (stripFrom false s.toList)

/-- An element with its attributes in order; an attribute without a value is a flag. -/
structure Element where
  name : String
  attributes : List (String × Option String)
  deriving Repr, DecidableEq

namespace Element

/-- An element without attributes. -/
def named (name : String) : Element := ⟨name, []⟩

/-- Add an attribute with a value. -/
def attr (e : Element) (key value : String) : Element :=
  { e with attributes := e.attributes ++ [(key, some value)] }

/-- Add an attribute if there is a value. -/
def attr? (e : Element) (key : String) (value : Option String) : Element :=
  match value with
  | some v => e.attr key v
  | none => e

/-- Add an attribute without a value. -/
def flag (e : Element) (key : String) : Element :=
  { e with attributes := e.attributes ++ [(key, none)] }

/-- One attribute as it stands in the opening tag, with the blank before it. -/
def attributeText : String × Option String → String
  | (key, none) => " " ++ key
  | (key, some value) => " " ++ key ++ "=\"" ++ escape value ++ "\""

/-- The opening tag. -/
def openTag (e : Element) : String :=
  "<" ++ e.name ++ String.join (e.attributes.map attributeText) ++ ">"

/-- The element around a content that is already markup. -/
def wrap (e : Element) (inner : String) : String :=
  e.openTag ++ inner ++ "</" ++ e.name ++ ">"

end Element

end StaticSite.Html
