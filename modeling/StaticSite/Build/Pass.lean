/-
A build pass.

`prepare` reads all that a pass depends on, `renderDocuments` renders every document against it,
`check` counts what came out and `build` also writes it.  A document that cannot be rendered is
reported and nothing is written for it; the others are not affected.
-/
import StaticSite.Build.Collect
import StaticSite.Build.Scan
import StaticSite.Markdown.Renderer
import StaticSite.Render.Page

namespace StaticSite.Build

open StaticSite.Content StaticSite.Template StaticSite.Render

/-- Why a pass ends without a result. -/
inductive BuildError where
  | file (cause : FileError)
  | collect (e : CollectError)
  | templates (e : RenderError)
  deriving Repr, DecidableEq

/-- The text of a build error. -/
def BuildError.message : BuildError → String
  | .file cause => "IO error: " ++ cause.message
  | .collect e => "collector error: " ++ e.message
  | .templates e => "template error: " ++ e.message

/-- Why a document or an asset has no output. -/
inductive PageError where
  | render (e : RenderError)
  | write (path : String) (cause : FileError)
  | copy (source target : String) (cause : FileError)
  deriving Repr, DecidableEq

/-- The text of a page error. -/
def PageError.message : PageError → String
  | .render e => e.message
  | .write path cause => "failed to write " ++ path ++ ": " ++ cause.message
  | .copy source target cause =>
    "failed to copy " ++ source ++ " to " ++ target ++ ": " ++ cause.message

/-- A document or asset without an output. -/
structure Failure where
  /-- The path below the source folder. -/
  path : String
  error : PageError
  deriving Repr, DecidableEq

/-- What a pass has done. -/
structure Report where
  /-- The number of documents that have been rendered, and written where a pass writes. -/
  pages : Nat
  /-- The number of assets that have been copied. -/
  assets : Nat
  /-- Documents in the order of the collection, then assets. -/
  failures : List Failure
  deriving Repr, DecidableEq

/-- The number of documents and assets without an output. -/
def Report.failed (r : Report) : Nat := r.failures.length

/-- Has everything an output? -/
def Report.isSuccess (r : Report) : Bool := r.failures.isEmpty

/-- What builds a site. -/
structure Builder where
  config : Config
  renderer : Renderer
  /-- The artifacts, unless they are those in the output folder. -/
  artifacts : Option (List Artifact)

/-- The builder of a configuration: documents are Markdown, and artifacts lie in the output
folder. -/
def Builder.ofConfig (c : Config) : Builder := ⟨c, Markdown.renderer, none⟩

/-- A rendered document, with its output attached, or why it could not be rendered. -/
structure Outcome where
  document : Document
  result : Except RenderError Unit

/-- The markup of a document that has been rendered. -/
def Outcome.markup? (o : Outcome) : Option String :=
  match o.result with
  | .ok _ => o.document.rendered
  | .error _ => none

/-- What lists the artifacts of a pass.  It may fail in a way of its own; errors of the other steps
are told as errors of that kind. -/
structure ArtifactSource (ε : Type) where
  list : FileSystem → Except ε (List Artifact)
  ofBuild : BuildError → ε

namespace Builder

/-- The artifacts of a pass. -/
def artifactsIn (b : Builder) (fs : FileSystem) : List Artifact :=
  b.artifacts.getD (scanArtifacts fs b.config.build.outputDir)

/-- The artifacts of the builder itself, which can always be listed. -/
def source (b : Builder) : ArtifactSource BuildError := ⟨fun fs => .ok (b.artifactsIn fs), id⟩

/-- Read all that a pass depends on, which starts at a time, with artifacts from a source. -/
def prepareFrom {ε : Type} (b : Builder) (source : ArtifactSource ε) (fs : FileSystem)
    (started : Int) : Except ε Context := do
  let collection ← (collect fs b.config b.renderer).mapError fun e => source.ofBuild (.collect e)
  let templates ← (loadTemplates fs b.config.templatesFolder).mapError fun e =>
    source.ofBuild (.templates e)
  let artifacts ← source.list fs
  .ok
    { config := b.config
      collection := collection
      templates := templates
      index := .ofRecords artifacts
      renderer := b.renderer
      started := started }

/-- Read all that a pass depends on, which starts at a time. -/
def prepare (b : Builder) (fs : FileSystem) (started : Int) : Except BuildError Context :=
  b.prepareFrom b.source fs started

end Builder

/-- Render a document and attach its output. -/
def renderDocument (ctx : Context) (d : Document) : Outcome :=
  match renderPage ctx d with
  | .ok markup => ⟨d.attach markup, .ok ()⟩
  | .error e => ⟨d, .error e⟩

/-- Render all documents of a pass. -/
def renderDocuments (ctx : Context) : List Outcome :=
  ctx.collection.documents.map (renderDocument ctx)

/-! ## Checking -/

/-- The failure of a document that could not be rendered. -/
def Outcome.failure? (o : Outcome) : Option Failure :=
  match o.result with
  | .ok _ => none
  | .error e => some ⟨o.document.path, .render e⟩

/-- The report on rendered documents of which none is written. -/
def reportOf (outcomes : List Outcome) : Report :=
  { pages := outcomes.countP fun o => o.failure?.isNone
    assets := 0
    failures := outcomes.filterMap Outcome.failure? }

/-- Render every document and write nothing, with artifacts from a source. -/
def Builder.checkFrom {ε : Type} (b : Builder) (source : ArtifactSource ε) (fs : FileSystem)
    (started : Int) : Except ε Report := do
  let ctx ← b.prepareFrom source fs started
  .ok (reportOf (renderDocuments ctx))

/-- Render every document and write nothing. -/
def Builder.check (b : Builder) (fs : FileSystem) (started : Int) : Except BuildError Report :=
  b.checkFrom b.source fs started

/-! ## Writing -/

/-- Work that changes files and may fail for a document or asset. -/
abbrev Work := FileSystem × Option Failure

/-- Write a text to a path, whose folders are made if they are missing. -/
def writeAt (fs : FileSystem) (path text : String) (now : Int) : FileSystem × Option FileError :=
  match fs.createParents path with
  | .error e => (fs, some e)
  | .ok fs =>
    match fs.write path text.toUTF8 now with
    | .error e => (fs, some e)
    | .ok fs => (fs, none)

/-- Write the output of a document that has been rendered. -/
def writePage (now : Int) (fs : FileSystem) (o : Outcome) : Work :=
  match o.failure? with
  | some failure => (fs, some failure)
  | none =>
    let (fs, e) := writeAt fs o.document.destPath (o.markup?.getD "") now
    (fs, e.map fun cause => ⟨o.document.path, .write o.document.destPath cause⟩)

/-- Copy an asset to a path, whose folders are made if they are missing. -/
def copyAt (fs : FileSystem) (source target : String) (now : Int) : FileSystem × Option FileError :=
  match fs.createParents target with
  | .error e => (fs, some e)
  | .ok fs =>
    match fs.copy source target now with
    | .error e => (fs, some e)
    | .ok fs => (fs, none)

/-- Copy an asset to its output. -/
def copyAsset (now : Int) (fs : FileSystem) (a : Asset) : Work :=
  let (fs, e) := copyAt fs a.sourcePath a.destPath now
  (fs, e.map fun cause => ⟨a.path, .copy a.sourcePath a.destPath cause⟩)

/-- Do work for one thing after the other: the files after it, and what failed. -/
def forEach {α : Type} (work : FileSystem → α → Work) (fs : FileSystem) :
    List α → FileSystem × List Failure
  | [] => (fs, [])
  | x :: rest =>
    let (fs, failure) := work fs x
    let (fs, failures) := forEach work fs rest
    (fs, failure.toList ++ failures)

/-- The assets of a collection that are copied. -/
def copiedAssets (c : Collection) : List Asset := c.assets.filter (·.copied)

/-- Write the outputs of rendered documents, then copy assets. -/
def writeAll (fs : FileSystem) (outcomes : List Outcome) (assets : List Asset) (now : Int) :
    FileSystem × Report :=
  let (fs, pageFailures) := forEach (writePage now) fs outcomes
  let (fs, copyFailures) := forEach (copyAsset now) fs assets
  (fs,
    { pages := outcomes.length - pageFailures.length
      assets := assets.length - copyFailures.length
      failures := pageFailures ++ copyFailures })

/-- Render every document, write the outputs and copy assets, with artifacts from a source.  Files
are written at the time at which the pass starts. -/
def Builder.buildFrom {ε : Type} (b : Builder) (source : ArtifactSource ε) (fs : FileSystem)
    (started : Int) : FileSystem × Except ε Report :=
  match b.prepareFrom source fs started with
  | .error e => (fs, .error e)
  | .ok ctx =>
    match fs.createFolders b.config.build.outputDir with
    | .error cause => (fs, .error (source.ofBuild (.file cause)))
    | .ok made =>
      let (after, report) :=
        writeAll made (renderDocuments ctx) (copiedAssets ctx.collection) started
      (after, .ok report)

/-- Render every document, write the outputs and copy assets. -/
def Builder.build (b : Builder) (fs : FileSystem) (started : Int) :
    FileSystem × Except BuildError Report :=
  b.buildFrom b.source fs started

end StaticSite.Build
