/-
The configuration of a site.

Every setting has a default, so a configuration is a value that is always complete.  `rootedUrl`
places a path under the root address of the site with exactly one slash between them.
-/
import StaticSite.OrderedMap
import StaticSite.Path
import StaticSite.Text.Blank
import StaticSite.Text.Case

namespace StaticSite

/-- Settings of the site as a whole. -/
structure SiteSettings where
  title : String := ""
  /-- The address that every link is placed under. -/
  rootUrl : String := ""
  /-- The locale of long dates. -/
  locale : String := "en-US"
  deriving Repr, DecidableEq

/-- Settings of a build. -/
structure BuildSettings where
  /-- The folder of documents, templates and assets. -/
  sourceDir : String := "source"
  /-- The folder that the site is written to. -/
  outputDir : String := "public"
  /-- The folder of templates below the source folder. -/
  templatesDir : String := "templates"
  /-- The template of documents whose type has none. -/
  defaultTemplate : String := "default"
  /-- The file extensions of documents. -/
  contentExtensions : List String := ["md", "markdown"]
  /-- The file extensions of assets that are copied. -/
  copyExtensions : List String := ["ico", "gif", "jpg", "jpeg", "webp", "png", "svg"]
  /-- Patterns of names that are skipped. -/
  ignore : List String := []
  /-- Patterns of paths below the source folder that are skipped. -/
  exclude : List String := []
  /-- The output pattern of copied assets. -/
  assetPattern : String := "[path]/[name].[ext]"
  /-- Write a document to `name.html` and not to `name/index.html`. -/
  useFileNames : Bool := false
  deriving Repr, DecidableEq

/-- The configuration of a site. -/
structure Config where
  site : SiteSettings := {}
  build : BuildSettings := {}
  /-- Values that templates read by name. -/
  globals : OrderedMap String String := ∅
  deriving Repr, DecidableEq

/-- Why there is no configuration. -/
inductive ConfigError where
  /-- There is no file at the path. -/
  | notFound (path : String)
  /-- The file cannot be read as text. -/
  | unreadable (cause : String)
  /-- The file is no configuration. -/
  | malformed (path : String)
  /-- The settings of file and environment together are no configuration. -/
  | illTyped
  /-- The source folder has no name. -/
  | emptySourceDir
  /-- No file would be a document. -/
  | noContentExtensions
  deriving Repr, DecidableEq

/-- The text of a configuration error. -/
def ConfigError.message : ConfigError → String
  | .notFound path => "Configuration error: Configuration file not found: " ++ path
  | .unreadable cause => "IO error: " ++ cause
  | .malformed path => "Configuration error: Failed to parse config file: " ++ path
  | .illTyped => "Config crate error"
  | .emptySourceDir => "Configuration error: build.source_dir cannot be empty"
  | .noContentExtensions =>
    "Configuration error: build.content_extensions needs at least one extension"

namespace Config

/-- Refuse a configuration that no build can work with. -/
def validate (c : Config) : Except ConfigError Config :=
  if c.build.sourceDir.isEmpty then .error .emptySourceDir
  else if c.build.contentExtensions.isEmpty then .error .noContentExtensions
  else .ok c

/-- The address of a path under the root of the site. -/
def rootedUrl (c : Config) (path : String) : String :=
  String.ofList (Text.dropEndWhile (· == '/') c.site.rootUrl.toList) ++
    String.ofList ('/' :: path.toList.dropWhile (· == '/'))

/-- The folder of the templates. -/
def templatesFolder (c : Config) : String := Path.join c.build.sourceDir c.build.templatesDir

/-- Is a file with this extension a document? -/
def isDocumentExtension (c : Config) (ext : String) : Bool :=
  c.build.contentExtensions.any fun e => Text.equalIgnoringAsciiCase e ext

/-- Is a file with this extension copied to the output? -/
def isCopiedExtension (c : Config) (ext : String) : Bool :=
  c.build.copyExtensions.any fun e => Text.equalIgnoringAsciiCase e ext

end Config

end StaticSite
