/-
Rendering of nodes and pages.

`renderNodes` takes the number of levels that are left: nodes below a tag are rendered with one
level less, and when none is left they are an error.  So rendering ends whatever the templates
include.
-/
import StaticSite.Render.Asset
import StaticSite.Render.Element
import StaticSite.Render.Loop

namespace StaticSite.Render

open StaticSite.Content StaticSite.Template

/-- Render the body of the document, or a template in its place. -/
def renderContent (s : Scope) (tag : Tag) : Except RenderError String := do
  let markup ← match tag.attributes.get? "template" with
    | some name => do s.descendInto (← s.template tag name) s.document
    | none =>
      let file := s.document.sourcePath
      s.descend file s.document (parse s.document.body file)
  if tag.attributes.isGiven "raw" then .ok markup else .ok (s.context.renderer.render markup)

/-- Render another template for the document. -/
def renderInclusion (s : Scope) (tag : Tag) : Except RenderError String :=
  match tag.attributes.get? "name" <|> tag.attributes.firstText? ["optional"] with
  | none => .error (tag.fault .inclusionWithoutName)
  | some name =>
    match s.context.templates.get? name with
    | some t => s.descendInto t s.document
    | none =>
      if tag.attributes.isGiven "optional" then .ok ""
      else .error (tag.unresolved .template name)

/-- Render a tag; a tag that closes itself has no nodes. -/
def renderTag (s : Scope) (tag : Tag) (children : Option (List Node)) : Except RenderError String :=
  match tag.kind with
  | .content => renderContent s tag
  | .loop => renderLoop s tag children
  | .asset => renderAsset s tag
  | .echo => renderEcho s tag
  | .element => renderElement s tag children
  | .template => renderInclusion s tag
  | .link => renderLink s tag children
  | .css => renderShortcut s tag .css
  | .js => renderShortcut s tag .js

/-- Render a node. -/
def renderNode (s : Scope) : Node → Except RenderError String
  | .text content => .ok (s.interpolate content)
  | .single tag => renderTag s tag none
  | .paired tag _ children => renderTag s tag (some children)

/-- Render nodes one after the other, up to the first error. -/
def renderList (s : Scope) : List Node → Except RenderError String
  | [] => .ok ""
  | node :: rest => do
    let first ← renderNode s node
    let others ← renderList s rest
    .ok (first ++ others)

/-- Render nodes for a document with a number of levels left below them. -/
def renderNodes (ctx : Context) : Nat → Document → List Node → Except RenderError String
  | 0, d, nodes => renderList ⟨ctx, d, fun file _ _ => .error (.tooDeep file)⟩ nodes
  | levels + 1, d, nodes =>
    renderList ⟨ctx, d, fun _ d nodes => do renderNodes ctx levels d (← nodes)⟩ nodes

/-- Render the text of a file for a document. -/
def renderText (ctx : Context) (d : Document) (source file : String) :
    Except RenderError String := do
  renderNodes ctx depthLimit d (← parse source file)

/-- Render a template for a document. -/
def renderTemplate (ctx : Context) (t : NamedTemplate) (d : Document) : Except RenderError String :=
  renderText ctx d t.source t.file

/-- Render a document through the template for its type, or else through the default one. -/
def renderPage (ctx : Context) (d : Document) : Except RenderError String :=
  match ctx.templates.templateFor? d.type ctx.config.build.defaultTemplate with
  | some t => renderTemplate ctx t d
  | none => .error (.unresolved d.sourcePath ⟨0, 0, 0⟩ .template d.type)

end StaticSite.Render
