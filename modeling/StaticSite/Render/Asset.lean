/-
References to stylesheets, scripts, fonts and images.

`{@asset type=css name=main /}` names an asset by kind and name, `{@css main /}` and `{@js app /}`
are short forms.  An asset that is not found is an error, unless the tag says `optional`.
-/
import StaticSite.Render.Context

namespace StaticSite.Render

open StaticSite.Template StaticSite.Html

/-- The attributes of an image reference that are not put on its figure. -/
def imageAttributes : List String :=
  ["type", "name", "path", "version", "alt", "title", "width", "height", "caption"]

/-- The words of a short form that do not name an asset. -/
def shortcutWords : List String := ["optional", "defer", "async", "module"]

/-- Add a flag of the tag to an element. -/
def keepFlag (tag : Tag) (e : Element) (flag : String) : Element :=
  if tag.attributes.isGiven flag then e.flag flag else e

/-- The element that loads a stylesheet. -/
def stylesheet (s : Scope) (tag : Tag) (asset : ResolvedAsset) : String :=
  ((((Element.named "link").attr "rel" "stylesheet").attr "id" (Content.slug asset.path)).attr "href"
    asset.url |>.attr? "media" (s.attribute? tag "media")).openTag

/-- The element that loads a script. -/
def script (tag : Tag) (asset : ResolvedAsset) : String :=
  let base := ((Element.named "script").attr "id" (Content.slug asset.path)).attr "src" asset.url
  let typed := if tag.attributes.isGiven "module" then base.attr "type" "module" else base
  (keepFlag tag (keepFlag tag typed "defer") "async").wrap ""

/-- The element that loads a font early. -/
def fontPreload (asset : ResolvedAsset) : String :=
  let ext := match Text.splitLast '.' asset.path.toList with
    | some (_, ext) => String.ofList ext
    | none => "woff2"
  (((((Element.named "link").attr "rel" "preload").attr "href" asset.url).attr "as" "font").attr
    "type" ("font/" ++ ext) |>.flag "crossorigin").openTag

/-- The figure of an image, with its caption. -/
def figure (s : Scope) (tag : Tag) (asset : ResolvedAsset) : String :=
  let image := ((Element.named "img").attr "src" asset.url).attr "alt"
    ((s.attribute? tag "alt").getD "")
  let image := (((image.attr? "title" (s.attribute? tag "title")).attr? "width"
    (s.attribute? tag "width")).attr? "height" (s.attribute? tag "height")).openTag
  let own := tag.attributes.named.entries.filter fun (key, _) => !imageAttributes.contains key
  let frame := own.foldl (fun e (key, value) => e.attr key (s.interpolate value))
    (Element.named "figure")
  let caption := ((s.attribute? tag "caption").map (Element.named "figcaption").wrap).getD ""
  frame.wrap (image ++ caption)

/-- The markup of a reference. -/
def assetMarkup (s : Scope) (tag : Tag) (kind : AssetKind) (asset : ResolvedAsset) : String :=
  match kind with
  | .css => stylesheet s tag asset
  | .js => script tag asset
  | .font => fontPreload asset
  | .image => figure s tag asset

/-- The asset with the version that the tag asks for. -/
def versioned (tag : Tag) (asset : ResolvedAsset) : ResolvedAsset :=
  match tag.attributes.get? "version" with
  | some version => { asset with version := version }
  | none => asset

/-- The markup of a reference by name. -/
def namedAsset (s : Scope) (tag : Tag) (kind : AssetKind) (name : String) :
    Except RenderError String :=
  match s.context.resolver.resolve kind name with
  | some asset => .ok (assetMarkup s tag kind (versioned tag asset))
  | none =>
    if tag.attributes.isGiven "optional" then .ok ""
    else .error (tag.unresolved (.asset kind) name)

/-- Render a reference to an asset of the kind that the tag states. -/
def renderAsset (s : Scope) (tag : Tag) : Except RenderError String := do
  let type ← tag.required "type"
  match AssetKind.ofName? type with
  | none => .error (tag.fault (.unsupportedAsset type))
  | some kind =>
    match s.attribute? tag "name", s.attribute? tag "path" with
    | some name, _ => namedAsset s tag kind name
    | none, some path =>
      .ok (assetMarkup s tag kind (versioned tag (s.context.resolver.direct path)))
    | none, none => .error (tag.fault .assetWithoutName)

/-- Render the short form of a reference. -/
def renderShortcut (s : Scope) (tag : Tag) (kind : AssetKind) : Except RenderError String :=
  match tag.attributes.get? "name" <|> tag.attributes.firstText? shortcutWords with
  | some name => namedAsset s tag kind (s.interpolate name)
  | none => .error (tag.fault (.shortcutWithoutName tag.name))

end StaticSite.Render
