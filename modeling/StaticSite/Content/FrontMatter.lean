/-
Front matter: the `key: value` lines at the head of a document.

A line that holds four hyphens ends the front matter.  What precedes it gives the metadata, what
follows is the body; a document without such a line is all body.  The cut loses only the delimiter
line, so head, delimiter and rest are the document.
-/
import StaticSite.OrderedMap
import StaticSite.Text.Blank
import StaticSite.Text.Split

namespace StaticSite.Content

/-- Metadata of a document: texts under text keys, in the order of the document. -/
abbrev Metadata := OrderedMap String String

/-- The line that ends the front matter. -/
def delimiter : List Char := ['-', '-', '-', '-']

/-- Is the line, without the blanks at its end, the delimiter? -/
def isDelimiter (line : List Char) : Bool := Text.trimEnd line == delimiter

/-- The lines before the first delimiter line and those after it. -/
def splitAtDelimiter : List (List Char) → Option (List (List Char) × List (List Char))
  | [] => none
  | line :: rest =>
    if isDelimiter line then some ([], rest)
    else (splitAtDelimiter rest).map fun (head, tail) => (line :: head, tail)

/-- The head and the rest of a document that has a delimiter line. -/
def splitFrontMatter (source : List Char) : Option (List Char × List Char) :=
  (splitAtDelimiter (Text.linesInclusive source)).map fun (head, rest) =>
    (head.flatten, rest.flatten)

/-- The key and the value of a metadata line, if it has both. -/
def metadataLine (line : List Char) : Option (String × String) :=
  match Text.splitFirst ':' line with
  | none => none
  | some (before, after) =>
    let key := Text.trim before
    let value := Text.trim after
    if key.isEmpty || value.isEmpty then none
    else some (String.ofList key, String.ofList value)

/-- The metadata of a head; other lines are skipped and the last value of a key counts. -/
def readMetadata (head : List Char) : Metadata :=
  OrderedMap.ofList ((Text.lines head).filterMap metadataLine)

/-- A document cut into metadata and body. -/
structure FrontMatter where
  metadata : Metadata
  body : String
  deriving Repr, DecidableEq

/-- Read a document. -/
def FrontMatter.read (source : String) : FrontMatter :=
  match splitFrontMatter source.toList with
  | some (head, rest) => ⟨readMetadata head, String.ofList (Text.trim rest)⟩
  | none => ⟨∅, String.ofList (Text.trim source.toList)⟩

end StaticSite.Content
