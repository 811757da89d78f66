/-
What templates are rendered against.

A `Context` is fixed for a pass.  A `Scope` adds the document that is being rendered and `descend`,
which renders nodes one level deeper; a tag that holds other nodes reaches them only through it.
-/
import StaticSite.Artifact
import StaticSite.Template.Node
import StaticSite.Template.Store
import StaticSite.Template.Variable

namespace StaticSite.Render

open StaticSite.Content StaticSite.Template

/-- The fixed state of a pass. -/
structure Context where
  config : Config
  collection : Collection
  templates : TemplateStore
  index : ArtifactIndex
  renderer : Renderer
  /-- The start of the pass in milliseconds. -/
  started : Int

/-- What asset references are resolved against; assets referred to by path have the version of the
pass. -/
def Context.resolver (ctx : Context) : Resolver :=
  ⟨ctx.config, ctx.index, ctx.collection, versionOf ctx.started⟩

/-- The state in which a tag is rendered. -/
structure Scope where
  context : Context
  /-- The document that variables refer to. -/
  document : Document
  /-- Render the nodes of a file for a document, one level deeper. -/
  descend : (file : String) → Document → Except RenderError (List Node) → Except RenderError String

namespace Scope

/-- The text with values in the place of its variables. -/
def interpolate (s : Scope) (text : String) : String :=
  VariableContext.interpolate ⟨s.document, s.context.config, s.context.started⟩ text

/-- The value of an attribute, with its variables filled in. -/
def attribute? (s : Scope) (tag : Tag) (key : String) : Option String :=
  (tag.attributes.get? key).map s.interpolate

/-- The template that a tag names. -/
def template (s : Scope) (tag : Tag) (name : String) : Except RenderError NamedTemplate :=
  match s.context.templates.get? name with
  | some t => .ok t
  | none => .error (tag.unresolved .template name)

/-- Render a template for a document, one level deeper. -/
def descendInto (s : Scope) (t : NamedTemplate) (d : Document) : Except RenderError String :=
  s.descend t.file d (parse t.source t.file)

end Scope

end StaticSite.Render
