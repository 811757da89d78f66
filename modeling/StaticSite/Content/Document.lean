/-
Documents and assets: the two kinds of files in a source tree.

A document is read from its text with `Document.read`; what its front matter does not say is derived
from its path, its body and its time of modification.  `Document.field` is the view that templates
and queries have of a document: fields first, metadata after them.
-/
import StaticSite.Content.FrontMatter
import StaticSite.Content.Renderer
import StaticSite.Content.Slug
import StaticSite.Content.Title
import StaticSite.Path
import StaticSite.Text.Numeral
import StaticSite.Time.Timestamp

namespace StaticSite.Content

/-- Where a file of the source tree is and where its output goes. -/
structure Location where
  /-- The path below the source folder. -/
  path : String
  /-- The path of the file. -/
  sourcePath : String
  /-- The path of the output file. -/
  destPath : String
  /-- The address of the output. -/
  url : String
  /-- The time of modification in milliseconds. -/
  modified : Int
  deriving Repr, DecidableEq

/-- A document of the source tree. -/
structure Document where
  path : String
  sourcePath : String
  destPath : String
  url : String
  /-- The content type, which chooses the template. -/
  type : String
  metadata : Metadata
  body : String
  slug : String
  title : String
  tags : List String
  excerpt : String
  /-- The date of the document in milliseconds. -/
  timestamp : Int
  /-- The output, once it has been rendered. -/
  rendered : Option String
  deriving Repr, DecidableEq

/-- A file of the source tree that is no document. -/
structure Asset where
  path : String
  sourcePath : String
  fileName : String
  destPath : String
  url : String
  /-- A short form of the time of modification, which changes with it. -/
  version : String
  timestamp : Int
  /-- Is the file copied to the output? -/
  copied : Bool
  deriving Repr, DecidableEq

/-- The type of documents that state none. -/
def defaultType : String := "page"

/-- The type of assets. -/
def assetType : String := "asset"

/-- Add a tag at the end unless it is empty or present. -/
def addTag (tags : List String) (tag : String) : List String :=
  if tag.isEmpty || tags.contains tag then tags else tags ++ [tag]

/-- The tags of a list with commas, trimmed, without empty and repeated ones. -/
def splitTags (value : String) : List String :=
  ((Text.splitOn ',' value.toList).map fun piece => String.ofList (Text.trim piece)).foldl addTag []

/-- Tags with commas between them. -/
def joinTags (tags : List String) : String := ", ".intercalate tags

/-- The slug of the file name without its extension. -/
def slugOfPath (path : String) : String := slug ((Path.stem? path).getD "")

/-- The short form of a time of modification; a time before 1970 counts as zero. -/
def versionOf (modified : Int) : String := Text.base36 modified.toNat

namespace Document

/-- Read a document from its text. -/
def read (source : String) (location : Location) (renderer : Renderer) : Document :=
  let front := FrontMatter.read source
  let slug := slugOfPath location.path
  let date := (front.metadata.get? "datetime") <|> (front.metadata.get? "date")
  { path := location.path
    sourcePath := location.sourcePath
    destPath := location.destPath
    url := location.url
    type := (front.metadata.get? "type").getD defaultType
    metadata := front.metadata
    body := front.body
    slug := slug
    title := (front.metadata.get? "title").getD (titleOfSlug slug)
    tags := ((front.metadata.get? "tags").map splitTags).getD []
    excerpt := (front.metadata.get? "excerpt").getD (excerptOf (renderer.plainText front.body))
    timestamp := (date.bind Time.timestampOf?).getD location.modified
    rendered := none }

/-- The field with a name, or else the metadata under that name. -/
def field (d : Document) (name : String) : Option String :=
  match name with
  | "path" => some d.path
  | "source_path" => some d.sourcePath
  | "dest_path" => some d.destPath
  | "url" => some d.url
  | "type" => some d.type
  | "body" => some d.body
  | "slug" => some d.slug
  | "title" => some d.title
  | "tags" => some (joinTags d.tags)
  | "excerpt" => some d.excerpt
  | "timestamp" => some (String.ofList (Text.decimalInt d.timestamp))
  | _ => d.metadata.get? name

/-- Attach the output, unless there is one. -/
def attach (d : Document) (html : String) : Document :=
  { d with rendered := d.rendered <|> some html }

end Document

namespace Asset

/-- The asset at a location. -/
def ofLocation (location : Location) (copied : Bool) : Asset :=
  { path := location.path
    sourcePath := location.sourcePath
    fileName := String.ofList (Text.lastPiece '/' location.path.toList)
    destPath := location.destPath
    url := location.url
    version := versionOf location.modified
    timestamp := location.modified
    copied := copied }

/-- The field with a name. -/
def field (a : Asset) (name : String) : Option String :=
  match name with
  | "path" => some a.path
  | "filename" => some a.fileName
  | "title" => some a.fileName
  | "url" => some a.url
  | "version" => some a.version
  | "timestamp" => some (String.ofList (Text.decimalInt a.timestamp))
  | "type" => some assetType
  | _ => none

/-- The asset as a document without a body, so that templates can list it. -/
def toDocument (a : Asset) : Document :=
  let slug := slugOfPath a.fileName
  { path := a.path
    sourcePath := a.sourcePath
    destPath := a.destPath
    url := a.url
    type := assetType
    metadata := OrderedMap.ofList [("filename", a.fileName), ("version", a.version)]
    body := ""
    slug := slug
    title := titleOfSlug slug
    tags := []
    excerpt := ""
    timestamp := a.timestamp
    rendered := none }

end Asset

end StaticSite.Content
