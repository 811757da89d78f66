/-
Elements, links and single variables.
-/
import StaticSite.Render.Context

namespace StaticSite.Render

open StaticSite.Template StaticSite.Html

/-- Elements that have no closing tag when they are empty. -/
def voidElements : List String :=
  ["area", "base", "br", "col", "embed", "hr", "img", "input", "link", "meta", "source", "track",
    "wbr"]

/-- Is the text the name of an element? -/
def canNameElement (name : String) : Bool :=
  match name.toList with
  | [] => false
  | first :: rest => first.isAlpha && rest.all fun c => c.isAlphanum || c == '-'

/-- Put the named attributes of a tag on an element, the reserved ones apart. -/
def withAttributes (s : Scope) (tag : Tag) (reserved : List String) (e : Element) : Element :=
  (tag.attributes.named.entries.filter fun (key, _) => !reserved.contains key).foldl
    (fun e (key, value) => e.attr key (s.interpolate value)) e

/-- The content of a tag: its nodes, or else the value of an attribute. -/
def innerMarkup (s : Scope) (tag : Tag) (children : Option (List Node)) (key : String) :
    Except RenderError (Option String) :=
  match children with
  | some nodes => (s.descend tag.file s.document (.ok nodes)).map some
  | none => .ok (s.attribute? tag key)

/-- Render an element; its name is the first positional word, the other ones are flags. -/
def renderElement (s : Scope) (tag : Tag) (children : Option (List Node)) :
    Except RenderError String :=
  match tag.attributes.positional with
  | [] => .error (tag.fault .elementWithoutName)
  | name :: flags =>
    if canNameElement name then do
      let name := Text.asciiLowercase name
      let element := flags.foldl Element.flag (withAttributes s tag ["text"] (Element.named name))
      match ← innerMarkup s tag children "text" with
      | some inner => .ok (element.wrap inner)
      | none =>
        if voidElements.contains name then .ok element.openTag else .ok (element.wrap "")
    else .error (tag.fault (.invalidElementName name))

/-- The address of a link: an address from the root of the site is placed under its root address. -/
def linkTarget (s : Scope) (tag : Tag) : String :=
  match s.attribute? tag "url" with
  | none => s.document.url
  | some url =>
    match url.toList with
    | '/' :: '/' :: _ => url
    | '/' :: _ => s.context.config.rootedUrl url
    | _ => url

/-- Render a link to an address or to the document itself. -/
def renderLink (s : Scope) (tag : Tag) (children : Option (List Node)) :
    Except RenderError String := do
  let label ← innerMarkup s tag children "label"
  let anchor := (Element.named "a").attr "href" (linkTarget s tag)
  .ok ((withAttributes s tag ["url", "label"] anchor).wrap (label.getD s.document.title))

/-- The variable that an echo names: the first scope with an attribute counts. -/
def echoVariable? (tag : Tag) : Option (VariableScope × String) :=
  VariableScope.all.findSome? fun scope =>
    (tag.attributes.get? scope.name).map fun name => (scope, name)

/-- The modifiers of an echo: its fallback first, then its positional words. -/
def echoModifiers (tag : Tag) : Except RenderError (List Modifier) := do
  let fallback := (tag.attributes.get? Modifier.fallbackWord).map Modifier.fallback
  let words ← tag.attributes.positional.mapM fun word =>
    match Modifier.ofName? word none with
    | some m => Except.ok m
    | none => Except.error (tag.fault (.unknownModifier word))
  .ok (fallback.toList ++ words)

/-- Render a single variable. -/
def renderEcho (s : Scope) (tag : Tag) : Except RenderError String :=
  match echoVariable? tag with
  | none => .error (tag.fault .echoWithoutVariable)
  | some (scope, name) => do
    let modifiers ← echoModifiers tag
    .ok (VariableContext.resolve ⟨s.document, s.context.config, s.context.started⟩
      ⟨scope, name, modifiers⟩)

end StaticSite.Render
