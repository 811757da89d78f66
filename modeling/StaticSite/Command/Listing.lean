/-
Listings of files, by which the program learns what is there.

A listing is a text of lines whose fields are separated by tabs: the time, the working folder,
environment variables, files with their times of modification, folders, links, and what has gone.
The contents of files are not part of it; whoever reads the listing adds them.
-/
import StaticSite.Command.Run

namespace StaticSite.Command

/-- One line of a listing. -/
inductive Record where
  | now (time : Int)
  | workingFolder (path : String)
  | setting (name value : String)
  | file (path : String) (modified : Int)
  | folder (path : String)
  | link (path target : String)
  /-- What was at the path is there no longer. -/
  | gone (path : String)
  deriving Repr, DecidableEq

namespace Record

/-- The record that the fields of a line give. -/
def ofFields? : List String → Option Record
  | ["now", time] => (Text.readInt64 time.toList).map .now
  | ["in", path] => some (.workingFolder path)
  | ["env", name, value] => some (.setting name value)
  | ["file", modified, path] => (Text.readInt64 modified.toList).map (.file path)
  | ["folder", path] => some (.folder path)
  | ["link", target, path] => some (.link path target)
  | ["gone", path] => some (.gone path)
  | _ => none

/-- The record that a line gives. -/
def ofLine? (line : String) : Option Record :=
  ofFields? ((Text.splitOn '\t' (Text.dropLineEnd line.toList)).map String.ofList)

/-- The file whose content belongs to the record. -/
def contentPath? : Record → Option String
  | .file path _ => some path
  | _ => none

end Record

/-- The names of a path. -/
def namesOf (path : String) : Place :=
  (Path.components path).filterMap fun
    | .name n => some n
    | _ => none

/-- The folders at and above a place, the outermost first. -/
def foldersTo (fs : FileSystem) (place : Place) : FileSystem :=
  (FileSystem.beginnings place).foldl (fun fs p => fs.setEntry p .folder) fs

/-- The files after a change, or as they were if the change fails. -/
def orUnchanged (fs : FileSystem) (r : Except FileError FileSystem) : FileSystem :=
  match r with
  | .ok after => after
  | .error _ => fs

/-- The files after a record, whose file has a content. -/
def Record.applyTo (content : ByteArray) (fs : FileSystem) : Record → FileSystem
  | .now _ | .setting _ _ => fs
  | .workingFolder path =>
    let place := namesOf path
    { foldersTo fs place with workingFolder := place }
  | .file path modified =>
    let fs := orUnchanged fs (fs.createParents path)
    orUnchanged fs (fs.write path content modified)
  | .folder path => orUnchanged fs (fs.createFolders path)
  | .link path target =>
    let fs := orUnchanged fs (fs.createParents path)
    orUnchanged fs (fs.link path target)
  | .gone path => orUnchanged fs (fs.remove path)

/-- The world in which nothing is known yet. -/
def World.empty : World := ⟨.empty, [], 0⟩

/-- The world after a record, whose file has a content. -/
def World.apply (w : World) (r : Record) (content : ByteArray) : World :=
  let files := r.applyTo content w.files
  match r with
  | .now time => { w with now := time }
  | .setting name value =>
    { w with files := files, environment := w.environment ++ [(name, value)] }
  | _ => { w with files := files }

/-- The path from the root that a path means. -/
def rootedPath (fs : FileSystem) (path : String) : String :=
  Path.join (absolutePath fs.workingFolder) path

/-- The change that a record tells of; links count as created. -/
def Record.change? (before : FileSystem) : Record → Option Watch.Change
  | .file path _ =>
    some ⟨if before.isPresent path then .modified else .created, rootedPath before path⟩
  | .folder path => some ⟨.created, rootedPath before path⟩
  | .link path _ => some ⟨.created, rootedPath before path⟩
  | .gone path => some ⟨.removed, rootedPath before path⟩
  | _ => none

/-- The files that are new or have another content or time than before, with their contents. -/
def written (before after : FileSystem) : List (Place × ByteArray) :=
  after.entries.entries.filterMap fun (place, e) =>
    match e with
    | .file content _ => if before.get? place = some e then none else some (place, content)
    | _ => none

/-- The folders that are new. -/
def madeFolders (before after : FileSystem) : List Place :=
  after.entries.entries.filterMap fun (place, e) =>
    if e = .folder ∧ before.get? place ≠ some .folder then some place else none

end StaticSite.Command
