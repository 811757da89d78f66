/-
What a change of a file makes necessary.

`Change.scope?` names the part of the site that a changed path belongs to: the content, or the
sources of the compiler for stylesheets or scripts.  Hidden and ignored files, compiler output and
source maps belong to none; templates are content although they are ignored as documents.
-/
import StaticSite.Ignore
import StaticSite.Path

namespace StaticSite.Watch

/-- What happened to a path. -/
inductive ChangeKind where
  | created
  | modified
  | removed
  | renamed
  | other
  deriving Repr, DecidableEq

/-- A change of a path. -/
structure Change where
  kind : ChangeKind
  path : String
  deriving Repr, DecidableEq

/-- A part of the site that is rebuilt on its own. -/
inductive Scope where
  /-- Documents, templates and copied assets. -/
  | content
  /-- The sources of a compiler. -/
  | compiler (name : String)
  deriving Repr, DecidableEq

/-- The scope of a file with an extension in small letters. -/
def scopeOfExtension (ext : String) : Scope :=
  if ["css", "scss", "sass", "less"].contains ext then .compiler "css"
  else if ["js", "mjs", "ts"].contains ext then .compiler "js"
  else .content

/-- The extension of a name in small letters; it is empty when there is none. -/
def extensionOf (name : List Char) : String :=
  match Text.splitLast '.' name with
  | some (_, ext) => Text.asciiLowercase (String.ofList ext)
  | none => ""

/-- The scope of a changed path below the source folder. -/
def scopeOfPath? (rules : IgnoreRules) (path : String) : Option Scope :=
  let name := Text.lastPiece '/' path.toList
  let shown := String.ofList name
  if path.isEmpty || isHidden shown then none
  else if rules.isWithinTemplates path then some .content
  else if rules.ignoresWithin path || isMinified shown ||
      (Text.beforeSuffix? ".map".toList name).isSome then none
  else some (scopeOfExtension (extensionOf name))

/-- The scope that a change invalidates, if it lies below the source folder. -/
def Change.scope? (change : Change) (rules : IgnoreRules) (root : String) : Option Scope :=
  if change.kind = .other || !Path.startsWith change.path root then none
  else scopeOfPath? rules (Path.relativeTo root change.path)

end StaticSite.Watch
