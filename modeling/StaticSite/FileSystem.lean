/-
A tree of files, folders and symbolic links.

Everything is kept under its location, the list of names from the root.  A path is first resolved to
a location, from the working folder on and through symbolic links; what an operation changes is the
entry at that location and no other.
-/
import StaticSite.OrderedMap
import StaticSite.Path

namespace StaticSite

/-- The names from the root to a file or folder. -/
abbrev Place := List String

/-- Why a file operation fails. -/
inductive FileError where
  | notFound
  | notFolder
  | isFolder
  | exists
  | tooManyLinks
  /-- The content is not the encoding of a text. -/
  | notText
  deriving Repr, DecidableEq

/-- The text of a file error. -/
def FileError.message : FileError → String
  | .notFound => "No such file or directory (os error 2)"
  | .notFolder => "Not a directory (os error 20)"
  | .isFolder => "Is a directory (os error 21)"
  | .exists => "File exists (os error 17)"
  | .tooManyLinks => "Too many levels of symbolic links (os error 40)"
  | .notText => "stream did not contain valid UTF-8"

/-- The equality test of byte arrays, whatever other test is known where this is read. -/
instance (priority := high) decEqByteArray : DecidableEq ByteArray := ByteArray.instDecidableEq

/-- What stands at a place. -/
inductive FileEntry where
  /-- A file with its content and its time of modification in milliseconds. -/
  | file (content : ByteArray) (modified : Int)
  | folder
  | link (target : String)
  deriving DecidableEq

/-- A tree of files with a working folder. -/
structure FileSystem where
  entries : OrderedMap Place FileEntry
  workingFolder : Place

namespace FileSystem

/-! ## Places -/

/-- The tree with nothing but the root, in which one works. -/
def empty : FileSystem := ⟨∅, []⟩

/-- What stands at a place; the root is always there. -/
def get? (fs : FileSystem) (place : Place) : Option FileEntry :=
  if place.isEmpty then some .folder else fs.entries.get? place

/-- Put an entry at a place. -/
def setEntry (fs : FileSystem) (place : Place) (e : FileEntry) : FileSystem :=
  { fs with entries := fs.entries.insert place e }

/-- The largest number of links that are followed for one path. -/
def maxLinks : Nat := 40

/-- The place that components lead to from a folder.  What they end in need not be there, but
everything before has to be a folder.  The number is that of links that may still be followed. -/
def walkTo (fs : FileSystem) (links : Nat) (here : Place) (parts : List Path.Component) :
    Except FileError Place :=
  match parts with
  | [] => .ok here
  | .root :: rest => walkTo fs links [] rest
  | .current :: rest => walkTo fs links here rest
  | .parent :: rest => walkTo fs links here.dropLast rest
  | .name n :: rest =>
    let next := here ++ [n]
    match fs.get? next with
    | some .folder => walkTo fs links next rest
    | some (.link target) =>
      match links with
      | 0 => .error .tooManyLinks
      | l + 1 => walkTo fs l here (Path.components target ++ rest)
    | some (.file _ _) => if rest.isEmpty then .ok next else .error .notFolder
    | none => if rest.isEmpty then .ok next else .error .notFound
termination_by (links, parts.length)

/-- The place that components lead to from the working folder. -/
def locateParts (fs : FileSystem) (parts : List Path.Component) : Except FileError Place :=
  if parts.isEmpty then .error .notFound else fs.walkTo maxLinks fs.workingFolder parts

/-- The place that a path leads to. -/
def locate (fs : FileSystem) (path : String) : Except FileError Place :=
  fs.locateParts (Path.components path)

/-- What stands where components lead to. -/
def entryAt (fs : FileSystem) (parts : List Path.Component) : Except FileError FileEntry := do
  match fs.get? (← fs.locateParts parts) with
  | some e => .ok e
  | none => .error .notFound

/-- Do components lead to a folder? -/
def isFolderAt (fs : FileSystem) (parts : List Path.Component) : Bool :=
  match fs.entryAt parts with
  | .ok .folder => true
  | _ => false

/-! ## Reading -/

/-- Does the path lead to anything? -/
def isPresent (fs : FileSystem) (path : String) : Bool := (fs.entryAt (Path.components path)).isOk

/-- Does the path lead to a folder? -/
def isFolder (fs : FileSystem) (path : String) : Bool := fs.isFolderAt (Path.components path)

/-- Does the path lead to a file? -/
def isFile (fs : FileSystem) (path : String) : Bool :=
  match fs.entryAt (Path.components path) with
  | .ok (.file _ _) => true
  | _ => false

/-- The content of a file. -/
def read (fs : FileSystem) (path : String) : Except FileError ByteArray := do
  match ← fs.entryAt (Path.components path) with
  | .file content _ => .ok content
  | _ => .error .isFolder

/-- The content of a file as text. -/
def readText (fs : FileSystem) (path : String) : Except FileError String := do
  match String.fromUTF8? (← fs.read path) with
  | some text => .ok text
  | none => .error .notText

/-- A file below a folder. -/
structure Found where
  /-- The names from the folder to the file. -/
  names : Place
  modified : Int
  deriving Repr, DecidableEq

/-- The names with slashes between them. -/
def Found.path (f : Found) : String := "/".intercalate f.names

/-- The name of the file. -/
def Found.name (f : Found) : String := f.names.getLast?.getD ""

/-- The file that an entry is, as seen from a folder above it. -/
def foundBelow? (folder : Place) : Place × FileEntry → Option Found
  | (place, .file _ modified) =>
    match List.isPrefixOf? folder place with
    | some (name :: names) => some ⟨name :: names, modified⟩
    | _ => none
  | _ => none

/-- The beginnings of a list that are not empty. -/
def beginnings (names : Place) : List Place :=
  (List.range names.length).map fun n => names.take (n + 1)

/-- Is the first place before the second one, name by name, or the same? -/
def inOrder (a b : Place) : Bool := !List.lex b a fun s t => s < t

/-- The files below a folder in the order of their names, name by name.  A file is left out if it or
a folder on the way to it is not kept; links are not followed. -/
def filesBelow (fs : FileSystem) (path : String) (keep : Place → Bool) : List Found :=
  match fs.locate path with
  | .error _ => []
  | .ok folder =>
    let found := fs.entries.entries.filterMap (foundBelow? folder)
    (found.filter fun f => (beginnings f.names).all keep).mergeSort
      fun a b => inOrder a.names b.names

/-! ## Writing -/

/-- Make a folder whose parent is there. -/
def createFolder (fs : FileSystem) (parts : List Path.Component) : Except FileError FileSystem :=
  match parts.getLast? with
  | some (.name n) => do
    let parent ←
      if parts.dropLast.isEmpty then .ok fs.workingFolder else fs.locateParts parts.dropLast
    match fs.get? parent with
    | some .folder =>
      if (fs.get? (parent ++ [n])).isSome then .error .exists
      else .ok (fs.setEntry (parent ++ [n]) .folder)
    | some _ => .error .notFolder
    | none => .error .notFound
  | _ => do
    let _ ← fs.entryAt parts
    .error .exists

/-- Make a folder and those above it, as far as they are missing.  The components are given with the
last one first. -/
def createFoldersTo (fs : FileSystem) : List Path.Component → Except FileError FileSystem
  | [] => .ok fs
  | last :: above =>
    let parts := (last :: above).reverse
    let accept (fs : FileSystem) (e : FileError) : Except FileError FileSystem :=
      if fs.isFolderAt parts then .ok fs else .error e
    match fs.createFolder parts with
    | .ok fs => .ok fs
    | .error .notFound => do
      let fs ← createFoldersTo fs above
      match fs.createFolder parts with
      | .ok fs => .ok fs
      | .error e => accept fs e
    | .error e => accept fs e

/-- Make the folder at a path and those above it, as far as they are missing. -/
def createFolders (fs : FileSystem) (path : String) : Except FileError FileSystem :=
  fs.createFoldersTo (Path.components path).reverse

/-- Make the folder that a path lies in and those above it, as far as they are missing. -/
def createParents (fs : FileSystem) (path : String) : Except FileError FileSystem :=
  match Path.parent? (Path.components path) with
  | some parts => fs.createFoldersTo parts.reverse
  | none => .ok fs

/-- Write a file at a time; it may be there already, but its folder has to be. -/
def write (fs : FileSystem) (path : String) (content : ByteArray) (now : Int) :
    Except FileError FileSystem := do
  let place ← fs.locate path
  match fs.get? place with
  | some .folder => .error .isFolder
  | _ => .ok (fs.setEntry place (.file content now))

/-- Copy a file at a time.  The target is emptied before the source is read, so that a file copied
onto itself is empty. -/
def copy (fs : FileSystem) (source target : String) (now : Int) : Except FileError FileSystem := do
  let _ ← fs.read source
  let emptied ← fs.write target ByteArray.empty now
  emptied.write target (← emptied.read source) now

/-- Put a symbolic link at a path whose folder is there, in the place of what is there. -/
def link (fs : FileSystem) (path target : String) : Except FileError FileSystem := do
  let parts := Path.components path
  let parent ←
    if parts.dropLast.isEmpty then .ok fs.workingFolder else fs.locateParts parts.dropLast
  match parts.getLast? with
  | some (.name n) => .ok (fs.setEntry (parent ++ [n]) (.link target))
  | _ => .error .exists

/-- Remove what is at a path, with everything below it; a link is removed itself. -/
def remove (fs : FileSystem) (path : String) : Except FileError FileSystem := do
  let parts := Path.components path
  let parent ←
    if parts.dropLast.isEmpty then .ok fs.workingFolder else fs.locateParts parts.dropLast
  match parts.getLast? with
  | some (.name n) =>
    let place := parent ++ [n]
    if (fs.get? place).isSome then
      .ok { fs with entries := fs.entries.filter fun other _ => !place.isPrefixOf other }
    else .error .notFound
  | _ => .error .notFound

/-! ## Small lemmas -/

theorem get?_setEntry_self (fs : FileSystem) {place : Place} (h : place ≠ []) (e : FileEntry) :
    (fs.setEntry place e).get? place = some e := by
  cases place with
  | nil => exact absurd rfl h
  | cons name names => exact OrderedMap.get?_insert_self fs.entries (name :: names) e

theorem get?_setEntry_of_ne (fs : FileSystem) {place other : Place} (h : other ≠ place)
    (e : FileEntry) : (fs.setEntry place e).get? other = fs.get? other := by
  unfold get? setEntry
  split
  · rfl
  · exact OrderedMap.get?_insert_of_ne fs.entries h e

end FileSystem

end StaticSite
