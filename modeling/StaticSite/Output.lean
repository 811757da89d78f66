/-
Output paths and the addresses of outputs.

A pattern has the placeholders `[path]`, `[name]`, `[ext]`, `[path:N]` for the folder at a place
from zero, and `[path:last]` for the last folder.  The folder placeholders with a number or `last`
are filled in first, then the path, the name and the extension, one after the other.
-/
import StaticSite.Config
import StaticSite.Text.Numeral
import StaticSite.Text.Property

namespace StaticSite.Output

open StaticSite.Text

/-- The pattern of a document that has a folder of its own. -/
def folderPattern : String := "[path]/[name]/index.html"

/-- The pattern of a document that is a file among others. -/
def filePattern : String := "[path]/[name].html"

/-- The pattern of a document with a name. -/
def documentPattern (c : Config) (name : String) : String :=
  if c.build.useFileNames || name == "index" then filePattern else folderPattern

/-- The folders of a path; empty parts and dots do not count. -/
def folders (dir : String) : List (List Char) :=
  (splitOn '/' dir.toList).filter fun piece =>
    !piece.isEmpty && piece != ['.'] && piece != ['.', '.']

/-- The folder that a placeholder asks for. -/
inductive FolderIndex where
  | last
  | at (digits : List Char)
  deriving Repr, DecidableEq

/-- The folder placeholder at the front of a text, with what follows. -/
def readFolderIndex (cs : List Char) : Option (FolderIndex × List Char) :=
  match afterPrefix? "[path:".toList cs with
  | none => none
  | some rest =>
    match afterPrefix? "last]".toList rest with
    | some after => some (.last, after)
    | none =>
      let digits := rest.takeWhile isDecimalDigit
      match rest.dropWhile isDecimalDigit with
      | c :: after => if c = ']' ∧ digits ≠ [] then some (.at digits, after) else none
      | [] => none

/-- The folder at an index; it is empty when there is none. -/
def folderAt (dirs : List (List Char)) : FolderIndex → List Char
  | .last => dirs.getLast?.getD []
  | .at digits => ((readNat64 digits).bind fun n => dirs[n]?).getD []

/-- Replace every occurrence of a text by another one. -/
def replaceAll (part image cs : List Char) : List Char :=
  match cs with
  | [] => []
  | c :: rest =>
    match part, afterPrefix? part cs with
    | _ :: _, some _ => image ++ replaceAll part image (rest.drop (part.length - 1))
    | _, _ => c :: replaceAll part image rest
termination_by cs.length
decreasing_by
  · simp only [List.length_drop, List.length_cons]; omega
  · simp

theorem readFolderIndex_length {cs after : List Char} {index : FolderIndex}
    (h : readFolderIndex cs = some (index, after)) : after.length < cs.length := by
  unfold readFolderIndex at h
  split at h
  · cases h
  · rename_i rest hrest
    have h1 := congrArg List.length (eq_append_of_afterPrefix? hrest)
    have h0 : "[path:".toList.length = 6 := by decide
    simp only [List.length_append, h0] at h1
    split at h
    · rename_i tail htail
      cases h
      have h2 := congrArg List.length (eq_append_of_afterPrefix? htail)
      simp only [List.length_append] at h2
      omega
    · dsimp only at h
      have hd := (List.dropWhile_sublist (l := rest) isDecimalDigit).length_le
      split at h
      · rename_i heq
        rw [heq] at hd
        simp only [List.length_cons] at hd
        split at h
        · cases h; omega
        · cases h
      · cases h

/-- Fill in the folder placeholders. -/
def fillFolders (dirs : List (List Char)) (cs : List Char) : List Char :=
  match cs with
  | [] => []
  | c :: rest =>
    match _h : readFolderIndex (c :: rest) with
    | some (index, after) => folderAt dirs index ++ fillFolders dirs after
    | none => c :: fillFolders dirs rest
termination_by cs.length
decreasing_by
  · exact readFolderIndex_length ‹_›
  · simp

/-- Drop empty parts of a path. -/
def tidy (cs : List Char) : List Char :=
  joinWith ['/'] ((splitOn '/' cs).filter fun piece => !piece.isEmpty)

/-- The output path of a file in a folder, with a name and an extension. -/
def apply (pattern dir name ext : String) : String :=
  let dirs := folders dir
  let filled := fillFolders dirs pattern.toList
  let filled := replaceAll "[path]".toList (joinWith ['/'] dirs) filled
  let filled := replaceAll "[name]".toList name.toList filled
  let filled := replaceAll "[ext]".toList ext.toList filled
  String.ofList (tidy filled)

/-- The address of an output path; a final `index.html` is not part of it. -/
def urlOf (c : Config) (path : String) : String :=
  match beforeSuffix? "index.html".toList path.toList with
  | none => c.rootedUrl path
  | some before =>
    if before = [] ∨ before.getLast? = some '/' then c.rootedUrl (String.ofList before)
    else c.rootedUrl path

end StaticSite.Output
