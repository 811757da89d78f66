/-
Templates and artifacts found in folders.

A folder that is not there has none.  Files come in the order of the names on the way to them, so of
two templates with one name the later one counts, and of two artifacts the earlier one.
-/
import StaticSite.Artifact
import StaticSite.FileSystem
import StaticSite.Template.Error
import StaticSite.Template.Store

namespace StaticSite.Build

open StaticSite.Template

/-- The files below a folder, if it is one. -/
def filesOf (fs : FileSystem) (folder : String) : List FileSystem.Found :=
  if fs.isFolder folder then fs.filesBelow folder fun _ => true else []

/-- Is the file a template? -/
def isTemplateFile (f : FileSystem.Found) : Bool := Path.extension? f.path == some "html"

/-- Read the template in a file. -/
def readTemplate (fs : FileSystem) (folder : String) (f : FileSystem.Found) :
    Except RenderError NamedTemplate :=
  let path := Path.join folder f.path
  match fs.readText path with
  | .ok source => .ok ⟨templateName f.path, path, source⟩
  | .error cause => .error (.unreadable path cause.message)

/-- The templates below a folder. -/
def loadTemplates (fs : FileSystem) (folder : String) : Except RenderError TemplateStore := do
  let templates ← ((filesOf fs folder).filter isTemplateFile).mapM (readTemplate fs folder)
  .ok (templates.foldl TemplateStore.add .empty)

/-- The artifact that a file below a folder is. -/
def artifactOf? (folder : String) (f : FileSystem.Found) : Option Artifact :=
  (Artifact.classify f.name).map fun (kind, name) =>
    { logicalName := name
      kind := kind
      path := f.path
      destPath := Path.join folder f.path
      modified := max f.modified 0 }

/-- The artifacts below a folder. -/
def scanArtifacts (fs : FileSystem) (folder : String) : List Artifact :=
  (filesOf fs folder).filterMap (artifactOf? folder)

end StaticSite.Build
