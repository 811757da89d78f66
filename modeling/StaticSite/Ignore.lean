/-
Names and paths that are left out of a site.

`IgnoreRules.ignores` judges a path by its last part, `IgnoreRules.ignoresWithin` by every part: a
file below an ignored folder is ignored.  The templates folder is ignored as content, but changes in
it count.
-/
import StaticSite.Config
import StaticSite.Glob

namespace StaticSite

/-- Is the name hidden by convention? -/
def isHidden (name : String) : Bool :=
  match name.toList with
  | [] => false
  | first :: rest =>
    first == '.' || first == '_' || first == '~' || (first :: rest).getLast? == some '~'

/-- Is the name that of a minified file? -/
def isMinified (name : String) : Bool :=
  match Text.splitLast '.' name.toList with
  | some (stem, _) => (Text.beforeSuffix? ".min".toList stem).isSome
  | none => false

/-- What is left out of a site. -/
structure IgnoreRules where
  /-- Patterns of names. -/
  names : Globs
  /-- Patterns of paths below the source folder. -/
  paths : Globs
  /-- The templates folder, without slashes at its ends. -/
  templatesDir : String
  deriving Repr, DecidableEq

namespace IgnoreRules

/-- The rules of a configuration. -/
def ofConfig (c : Config) : Except GlobError IgnoreRules := do
  let names ← Globs.compile c.build.ignore
  let paths ← Globs.compile c.build.exclude
  .ok ⟨names, paths, String.ofList (Text.trimChar '/' c.build.templatesDir.toList)⟩

/-- Is the path, without slashes at its ends, left out by its last part or as a whole? -/
def ignoresTrimmed (rules : IgnoreRules) (path : List Char) : Bool :=
  if path.isEmpty then false
  else
    let name := String.ofList (Text.lastPiece '/' path)
    let path := String.ofList path
    isHidden name || path == rules.templatesDir || rules.names.covers name ||
      rules.paths.covers path

/-- Is the path left out, its folders apart? -/
def ignores (rules : IgnoreRules) (path : String) : Bool :=
  rules.ignoresTrimmed (Text.trimChar '/' path.toList)

/-- The beginnings of a path that end before a slash or at its end, given what precedes it. -/
def beginnings (before : List Char) : List (List Char) → List (List Char)
  | [] => []
  | piece :: pieces => (before ++ piece) :: beginnings (before ++ piece ++ ['/']) pieces

/-- Is the path or one of its folders left out? -/
def ignoresWithin (rules : IgnoreRules) (path : String) : Bool :=
  (beginnings [] (Text.splitOn '/' (Text.trimChar '/' path.toList))).any fun start =>
    rules.ignoresTrimmed (Text.trimChar '/' start)

/-- Does the path lie in the templates folder? -/
def isWithinTemplates (rules : IgnoreRules) (path : String) : Bool :=
  match Text.afterPrefix? rules.templatesDir.toList (Text.trimChar '/' path.toList) with
  | some [] => true
  | some (c :: _) => c == '/'
  | none => false

end IgnoreRules

end StaticSite
