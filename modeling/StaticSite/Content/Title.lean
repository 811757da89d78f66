/-
Titles and excerpts.

A title is written with a capital at the start of every word, except that the stop words stay small
unless they come first.  An excerpt is the first line that is not blank, cut at a fixed length.
-/
import StaticSite.Text.Blank
import StaticSite.Text.Case
import StaticSite.Text.Split

namespace StaticSite.Content

/-- Words that a title keeps small after its first word. -/
def smallWords : List String := ["of", "the", "and"]

/-- The word with its first letter as a capital. -/
def capitalize : List Char → List Char
  | [] => []
  | c :: rest => Text.upper c ++ rest

/-- A word of a title that is not its first. -/
def laterTitleWord (word : List Char) : List Char :=
  if smallWords.contains (String.ofList word) then word else capitalize word

/-- The title of a list of words. -/
def titleWords : List (List Char) → List (List Char)
  | [] => []
  | first :: rest => capitalize first :: rest.map laterTitleWord

/-- The text in title case; words are what stands between single spaces. -/
def titleCase (s : String) : String :=
  String.ofList (Text.joinWith [' '] (titleWords (Text.splitOn ' ' (Text.lowercase s.toList))))

/-- The title that a slug suggests. -/
def titleOfSlug (slug : String) : String :=
  titleCase (String.ofList (Text.replaceChar '-' [' '] slug.toList))

/-- The number of characters after which an excerpt is cut. -/
def excerptLength : Nat := 200

/-- The mark of a cut excerpt. -/
def ellipsis : String := "&hellip;"

/-- The first line that is not blank, trimmed; the empty text if there is none. -/
def firstLine (cs : List Char) : List Char :=
  (((Text.lines cs).map Text.trim).find? fun line => !line.isEmpty).getD []

/-- The excerpt of a plain text: its first line that is not blank, cut after 200 characters. -/
def excerptOf (plain : String) : String :=
  let line := firstLine plain.toList
  if line.length ≤ excerptLength then String.ofList line
  else String.ofList (line.take excerptLength) ++ ellipsis

end StaticSite.Content
