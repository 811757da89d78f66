/-
Ids of headings.

A heading without an id gets the slug of its text, if that is not empty and no other heading begins
before its end.  Nothing else changes: the events keep their number and order, and a heading with an
id keeps it.
-/
import StaticSite.Content.Slug
import StaticSite.Markdown.Event

namespace StaticSite.Markdown

/-- The text of an event that counts for the id of its heading. -/
def Event.headingText : Event → List Char
  | .text s => s.toList
  | .code s => s.toList
  | _ => []

/-- The text up to the end of the heading that has begun, if the heading ends before another one
begins. -/
def textOfHeading : List Event → Option (List Char)
  | [] => none
  | .start (.heading _) :: _ => none
  | .stop (.heading _) :: _ => some []
  | e :: rest => (textOfHeading rest).map fun text => e.headingText ++ text

/-- The id that a text gives to a heading, if it gives one. -/
def idOfText (text : List Char) : Option String :=
  let slug := Content.slugChars (Text.trim text)
  if slug.isEmpty then none else some (String.ofList slug)

/-- The heading with the id that the following events give to it, unless it has one. -/
def Heading.withId (h : Heading) (rest : List Event) : Heading :=
  { h with id := h.id <|> (textOfHeading rest).bind idOfText }

/-- The events with ids for all headings that can have one. -/
def identifyHeadings : List Event → List Event
  | [] => []
  | .start (.heading h) :: rest => .start (.heading (h.withId rest)) :: identifyHeadings rest
  | e :: rest => e :: identifyHeadings rest

end StaticSite.Markdown
