/-
Artifacts: stylesheets, scripts and fonts that were made outside of the site, and how they are
named.

An index holds one artifact for each kind and logical name, the first in the order of the records.
`Resolver.resolve` finds an asset by a logical name, a file name or a path; images come from the
collection.
-/
import StaticSite.Config
import StaticSite.Content.Collection

namespace StaticSite

/-- The kinds of assets that templates refer to. -/
inductive AssetKind where
  | css
  | js
  | font
  | image
  deriving Repr, DecidableEq

namespace AssetKind

/-- The name of a kind in templates. -/
def name : AssetKind → String
  | css => "css"
  | js => "js"
  | font => "font"
  | image => "image"

/-- The kind with a name; images have a short name too. -/
def ofName? : String → Option AssetKind
  | "css" => some css
  | "js" => some js
  | "font" => some font
  | "image" => some image
  | "img" => some image
  | _ => none

/-- The text of the error for an unknown kind. -/
def unsupported (name : String) : String := "unsupported asset type \x60" ++ name ++ "\x60"

end AssetKind

/-- A file made outside of the site. -/
structure Artifact where
  /-- The name that templates use. -/
  logicalName : String
  kind : AssetKind
  /-- The path below the output folder. -/
  path : String
  /-- The path of the file. -/
  destPath : String
  /-- The time of modification in milliseconds. -/
  modified : Int
  deriving Repr, DecidableEq

namespace Artifact

/-- The short form of the time of modification. -/
def version (a : Artifact) : String := Content.versionOf a.modified

/-- The extensions of font files. -/
def fontEndings : List String := ["woff", "woff2", "ttf", "otf"]

/-- The kind and the logical name of a file name: a minified stylesheet or script, or a font. -/
def classify (fileName : String) : Option (AssetKind × String) :=
  let cs := fileName.toList
  match Text.beforeSuffix? ".min.css".toList cs, Text.beforeSuffix? ".min.js".toList cs with
  | some stem, _ => some (.css, String.ofList stem)
  | none, some stem => some (.js, String.ofList stem)
  | none, none =>
    match Text.splitLast '.' cs with
    | some (stem, ext) =>
      if fontEndings.contains (Text.asciiLowercase (String.ofList ext)) then
        some (.font, String.ofList stem)
      else none
    | none => none

end Artifact

/-- The artifacts of a pass, one for each kind and logical name. -/
structure ArtifactIndex where
  artifacts : List Artifact
  deriving Repr, DecidableEq

namespace ArtifactIndex

/-- The artifact of a kind with a logical name. -/
def get? (index : ArtifactIndex) (kind : AssetKind) (name : String) : Option Artifact :=
  index.artifacts.find? fun a => a.kind == kind && a.logicalName == name

/-- Add an artifact unless its name is taken. -/
def add (index : ArtifactIndex) (a : Artifact) : ArtifactIndex :=
  if (index.get? a.kind a.logicalName).isSome then index else ⟨index.artifacts ++ [a]⟩

/-- The index of a list of records; of two with one name the first counts. -/
def ofRecords (records : List Artifact) : ArtifactIndex := records.foldl add ⟨[]⟩

end ArtifactIndex

/-- An asset that a reference has been resolved to. -/
structure ResolvedAsset where
  /-- The address without its version. -/
  href : String
  /-- The short text that changes with the asset. -/
  version : String
  /-- The path of the asset. -/
  path : String
  deriving Repr, DecidableEq

/-- The address with the version as a parameter, so that a changed asset has a new address. -/
def ResolvedAsset.url (r : ResolvedAsset) : String :=
  r.href ++ (if r.href.toList.contains '?' then "&v=" else "?v=") ++ r.version

/-- What asset references are resolved against. -/
structure Resolver where
  config : Config
  index : ArtifactIndex
  collection : Content.Collection
  /-- The version of assets that are referred to by path. -/
  passVersion : String
  deriving Repr, DecidableEq

namespace Resolver

/-- The logical name that a requested name stands for: its last part without the ending of its
kind. -/
def logicalName (kind : AssetKind) (name : String) : String :=
  let file := Text.lastPiece '/' name.toList
  let ending (ext : String) : Option (List Char) :=
    Text.beforeSuffix? (".min." ++ ext).toList file <|> Text.beforeSuffix? ("." ++ ext).toList file
  let stem := match kind with
    | .css => (ending "css").getD file
    | .js => (ending "js").getD file
    | _ => ((Text.splitLast '.' file).map (·.1)).getD file
  String.ofList stem

/-- The image that a name stands for. -/
def resolveImage (r : Resolver) (name : String) : Option ResolvedAsset :=
  (r.collection.asset? name).map fun a => ⟨a.url, a.version, a.path⟩

/-- The artifact that a name stands for: by logical name, or else by file name or path. -/
def resolveArtifact (r : Resolver) (kind : AssetKind) (name : String) : Option ResolvedAsset :=
  (r.index.get? kind name <|> r.index.get? kind (logicalName kind name)).map fun a =>
    ⟨r.config.rootedUrl a.path, a.version, a.path⟩

/-- The asset of a kind that a name stands for. -/
def resolve (r : Resolver) (kind : AssetKind) (name : String) : Option ResolvedAsset :=
  match kind with
  | .image => r.resolveImage name
  | _ => r.resolveArtifact kind name

/-- The asset at a path, with the version of the pass. -/
def direct (r : Resolver) (path : String) : ResolvedAsset :=
  ⟨r.config.rootedUrl path, r.passVersion, String.ofList (path.toList.dropWhile (· == '/'))⟩

end Resolver

end StaticSite
