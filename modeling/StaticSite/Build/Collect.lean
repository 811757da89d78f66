/-
Collecting the files of a source tree.

`collect` gives every file below the source folder that is not left out, in the order of the names
on the way to it.  A folder that is left out hides everything below it.
-/
import StaticSite.Content.Collection
import StaticSite.FileSystem
import StaticSite.Ignore
import StaticSite.Output

namespace StaticSite.Build

open StaticSite.Content

/-- Why a source tree cannot be collected. -/
inductive CollectError where
  | missingSource (path : String)
  | badPattern (e : GlobError)
  | unreadable (path : String) (cause : FileError)
  deriving Repr, DecidableEq

/-- The text of a collection error. -/
def CollectError.message : CollectError → String
  | .missingSource path => "source directory not found: " ++ path
  | .badPattern e => "invalid ignore pattern: " ++ e.message
  | .unreadable path cause => "Could not read file " ++ path ++ ": " ++ cause.message

/-- The path of names. -/
def pathOf (names : Place) : String := "/".intercalate names

/-- The files below a folder that belong to the site: those that are not left out and are not
minified. -/
def sourceFiles (fs : FileSystem) (folder : String) (rules : IgnoreRules) : List FileSystem.Found :=
  (fs.filesBelow folder fun names => !rules.ignores (pathOf names)).filter fun f =>
    !isMinified f.name

/-- A path cut at its last slash. -/
def splitFolder (path : String) : String × String :=
  match Text.splitLast '/' path.toList with
  | some (folder, file) => (String.ofList folder, String.ofList file)
  | none => ("", path)

/-- A file name cut at its last dot. -/
def splitEnding (file : String) : String × String :=
  match Text.splitLast '.' file.toList with
  | some (name, ending) => (String.ofList name, String.ofList ending)
  | none => (file, "")

/-- Is a file with this name a document? -/
def isDocument (c : Config) (f : FileSystem.Found) : Bool :=
  (Path.extension? f.path).any c.isDocumentExtension

/-- The output path of a file, below the output folder. -/
def outputOf (c : Config) (f : FileSystem.Found) : String :=
  let (folder, file) := splitFolder f.path
  let (name, ending) := splitEnding file
  let pattern := if isDocument c f then Output.documentPattern c name else c.build.assetPattern
  Output.apply pattern folder name ending

/-- Where a file is and where its output goes; a time before 1970 counts as zero. -/
def locationOf (c : Config) (f : FileSystem.Found) : Location :=
  let output := outputOf c f
  { path := f.path
    sourcePath := Path.join c.build.sourceDir f.path
    destPath := Path.join c.build.outputDir output
    url := Output.urlOf c output
    modified := max f.modified 0 }

/-- Read a document at a location. -/
def readDocument (fs : FileSystem) (renderer : Renderer) (location : Location) :
    Except CollectError Document :=
  match fs.readText location.sourcePath with
  | .ok source => .ok (.read source location renderer)
  | .error cause => .error (.unreadable location.sourcePath cause)

/-- The entry that a file is. -/
def entryOf (fs : FileSystem) (c : Config) (renderer : Renderer) (f : FileSystem.Found) :
    Except CollectError Entry :=
  let location := locationOf c f
  if isDocument c f then (readDocument fs renderer location).map .document
  else .ok (.asset (.ofLocation location ((Path.extension? f.path).any c.isCopiedExtension)))

/-- The rules for what a source tree leaves out. -/
def rulesOf (c : Config) : Except CollectError IgnoreRules :=
  (IgnoreRules.ofConfig c).mapError .badPattern

/-- Collect the documents and assets of a source tree. -/
def collect (fs : FileSystem) (c : Config) (renderer : Renderer) :
    Except CollectError Collection := do
  let rules ← rulesOf c
  if !fs.isFolder c.build.sourceDir then .error (.missingSource c.build.sourceDir)
  let entries ← (sourceFiles fs c.build.sourceDir rules).mapM (entryOf fs c renderer)
  .ok ⟨entries⟩

end StaticSite.Build
