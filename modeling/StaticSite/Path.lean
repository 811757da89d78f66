/-
Paths as text, read as lists of components.

Doubled slashes, final slashes and single dots do not count, except that a leading dot stays a
component; two dots are a component of their own and are not resolved here.  `join` and `relativeTo`
are inverse to each other on paths without such parts.
-/
import StaticSite.Text.Split

namespace StaticSite.Path

/-- One part of a path. -/
inductive Component where
  /-- The slash that begins an absolute path. -/
  | root
  /-- A single dot at the beginning. -/
  | current
  /-- Two dots. -/
  | parent
  /-- The name of a file or folder. -/
  | name (text : String)
  deriving Repr, DecidableEq

/-- The component as it is written. -/
def Component.text : Component → String
  | .root => "/"
  | .current => "."
  | .parent => ".."
  | .name text => text

/-- The component that a piece between slashes stands for, unless it is empty or a dot. -/
def componentOf (piece : List Char) : Option Component :=
  if piece.isEmpty || piece == ['.'] then none
  else if piece == ['.', '.'] then some .parent
  else some (.name (String.ofList piece))

/-- The parts of a path. -/
def components (path : String) : List Component :=
  let pieces := Text.splitOn '/' path.toList
  let rest := pieces.filterMap componentOf
  match path.toList, pieces with
  | '/' :: _, _ => .root :: rest
  | _, ['.'] :: _ => .current :: rest
  | _, _ => rest

/-- Does the path begin at the root? -/
def isAbsolute (path : String) : Bool := path.toList.head? == some '/'

/-- A path below another one; an absolute second path stands for itself. -/
def join (base path : String) : String :=
  if isAbsolute path then path
  else if base.isEmpty || base.toList.getLast? == some '/' then base ++ path
  else base ++ "/" ++ path

/-- The name of the file or folder that the path ends in. -/
def fileName? (path : String) : Option String :=
  match (components path).getLast? with
  | some (.name text) => some text
  | _ => none

/-- A file name cut at its last dot; a dot that begins the name does not count. -/
def cutExtension (name : String) : String × Option String :=
  match Text.splitLast '.' name.toList with
  | some (c :: before, after) => (String.ofList (c :: before), some (String.ofList after))
  | _ => (name, none)

/-- The file name without its extension. -/
def stem? (path : String) : Option String := (fileName? path).map fun name => (cutExtension name).1

/-- The extension of the file name. -/
def extension? (path : String) : Option String := (fileName? path).bind fun name =>
  (cutExtension name).2

/-- Does the path lie at or below the other one? -/
def startsWith (path base : String) : Bool := (components base).isPrefixOf (components path)

/-- Components written with slashes between them. -/
def render (parts : List Component) : String := "/".intercalate (parts.map Component.text)

/-- The path as seen from a folder above it; any other path stays as it is, in plain form. -/
def relativeTo (base path : String) : String :=
  let parts := components path
  render ((List.isPrefixOf? (components base) parts).getD parts)

/-- The folder of a path; the root and the empty path have none. -/
def parent? (parts : List Component) : Option (List Component) :=
  match parts.getLast? with
  | none => none
  | some .root => none
  | some _ => some parts.dropLast

end StaticSite.Path
