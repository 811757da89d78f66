/-
The kinds of tags and their names.

A template is read with a `TagRegistry`, which says what names stand for; `TagRegistry.standard` has
every kind under its own name.
-/
import StaticSite.OrderedMap
import StaticSite.Text.Case

namespace StaticSite.Template

/-- What a tag does. -/
inductive TagKind where
  /-- The body of the document. -/
  | content
  /-- One rendering for each match of a query. -/
  | loop
  /-- A reference to a stylesheet, script, font or image. -/
  | asset
  /-- A single variable. -/
  | echo
  /-- An element of markup. -/
  | element
  /-- Another template. -/
  | template
  /-- A link. -/
  | link
  /-- A stylesheet. -/
  | css
  /-- A script. -/
  | js
  deriving Repr, DecidableEq

namespace TagKind

/-- All kinds, in the order of their names. -/
def all : List TagKind := [asset, content, css, echo, js, link, loop, element, template]

/-- The name of a kind in templates. -/
def name : TagKind → String
  | content => "content"
  | loop => "loop"
  | asset => "asset"
  | echo => "echo"
  | element => "tag"
  | template => "template"
  | link => "link"
  | css => "css"
  | js => "js"

/-- The kind with a name; the case of its letters does not matter. -/
def ofName? (name : String) : Option TagKind :=
  all.find? fun kind => kind.name == Text.asciiLowercase name

theorem mem_all (kind : TagKind) : kind ∈ all := by cases kind <;> decide

/-- The name of a kind stands for the kind. -/
theorem ofName?_name (kind : TagKind) : ofName? kind.name = some kind := by cases kind <;> decide

end TagKind

/-- What the names of tags stand for. -/
structure TagRegistry where
  kinds : OrderedMap String TagKind
  deriving Repr, DecidableEq

namespace TagRegistry

/-- The kind under a name; the case of its letters does not matter. -/
def lookup? (registry : TagRegistry) (name : String) : Option TagKind :=
  registry.kinds.get? (Text.asciiLowercase name)

/-- Every kind under its own name. -/
def standard : TagRegistry := ⟨.ofList (TagKind.all.map fun kind => (kind.name, kind))⟩

/-- The name of a kind stands for the kind. -/
theorem lookup?_standard_name (kind : TagKind) : standard.lookup? kind.name = some kind := by
  cases kind <;> decide

end TagRegistry

end StaticSite.Template
