/-
Slugs: texts of small ASCII letters, digits and single hyphens.

A slug is made character by character: letters are made small, separators become hyphens, what is
not allowed is dropped, and runs of hyphens are squeezed into one.
-/
import StaticSite.Text.Blank
import StaticSite.Text.Case

namespace StaticSite.Content

/-- May the character stand in a slug? -/
def isSlugChar (c : Char) : Bool := c.isLower || c.isDigit || c == '-'

/-- Does the character separate words, so that a slug has a hyphen in its place? -/
def isSlugSeparator (c : Char) : Bool := Text.isBlank c || c == '_' || c == '.' || c == '/'

/-- Remove every hyphen that follows a hyphen. -/
def squeezeHyphens : List Char → List Char
  | [] => []
  | [c] => [c]
  | c :: d :: rest =>
    if c = '-' ∧ d = '-' then squeezeHyphens (d :: rest) else c :: squeezeHyphens (d :: rest)

/-- The slug of a character list. -/
def slugChars (cs : List Char) : List Char :=
  squeezeHyphens
    (((cs.flatMap Text.lower).map fun c => if isSlugSeparator c then '-' else c).filter isSlugChar)

/-- The slug of a text. -/
def slug (s : String) : String := String.ofList (slugChars s.toList)

end StaticSite.Content
