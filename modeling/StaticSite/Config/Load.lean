/-
Configurations read from a file and from the environment.

`load` takes a file as it is.  `loadWithEnvironment` needs no file, converts scalars, and lets
environment variables such as `BODYKIT__SITE__TITLE` override the settings of the file.
-/
import StaticSite.Config.Settings
import StaticSite.FileSystem
import StaticSite.Text.Utf8
import StaticSite.Toml.Document

namespace StaticSite.Config

open StaticSite.Toml

/-- The configuration in a file. -/
def load (fs : FileSystem) (path : String) : Except ConfigError Config := do
  if !fs.isPresent path then .error (.notFound path)
  match fs.readText path with
  | .error e => .error (.unreadable e.message)
  | .ok text =>
    match (parse text).bind (ofEntries strict) with
    | some c => c.validate
    | none => .error (.malformed path)

/-! ## The environment -/

/-- Environment variables with their values. -/
abbrev Environment := List (String × String)

/-- The beginning of the names of variables that are settings, in small letters. -/
def variableStart : List Char := "bodykit__".toList

/-- The text with a point for every two underscores. -/
def pointed : List Char → List Char
  | '_' :: '_' :: rest => '.' :: pointed rest
  | c :: rest => c :: pointed rest
  | [] => []

/-- The path of keys that a name with points stands for; a name that is no path is a key itself. -/
def pathOf (name : List Char) : List String :=
  let parts := Text.splitOn '.' name
  let isPart (part : List Char) : Bool :=
    !part.isEmpty && part.all fun c => c.isAlphanum || c == '_' || c == '-'
  if parts.all isPart then parts.map String.ofList else [String.ofList name]

/-- The path of keys that a variable sets, if it is a setting. -/
def settingOf (name : String) : Option (List String) :=
  (Text.afterPrefix? variableStart (Text.lowercase name.toList)).map fun rest =>
    pathOf (pointed rest)

/-- The entries with the settings of an environment. -/
def overridden (env : Environment) (entries : List (String × Value)) : List (String × Value) :=
  env.foldl
    (fun entries (name, value) =>
      match settingOf name with
      | some path => Value.putAt (.text value) path entries
      | none => entries)
    entries

/-! ## Files that need not be there -/

/-- The ending of configuration files. -/
def fileEnding : String := "toml"

/-- The file that a path means: the one at the path if it has the right ending, or else one whose
name has the ending added. -/
def settingsFile? (fs : FileSystem) (path : String) : Option String :=
  if fs.isFile path then if Path.extension? path = some fileEnding then some path else none
  else
    let other := path ++ "." ++ fileEnding
    if fs.isFile other then some other else none

/-- The text of a settings file, without a mark of its byte order. -/
def settingsText (content : ByteArray) : String :=
  String.ofList
    (Text.Utf8.decode
      (match content.toList with
      | 0xef :: 0xbb :: 0xbf :: rest => rest
      | bytes => bytes))

/-- The entries of the settings file that a path means; without one there are none. -/
def settingsOf (fs : FileSystem) (path : String) : Except ConfigError (List (String × Value)) :=
  match settingsFile? fs path with
  | none => .ok []
  | some file =>
    match fs.read file with
    | .error _ => .ok []
    | .ok content =>
      match parse (settingsText content) with
      | some entries => .ok entries
      | none => .error .illTyped

/-- The configuration in a file, if there is one, and an environment. -/
def loadWithEnvironment (fs : FileSystem) (env : Environment) (path : String) :
    Except ConfigError Config := do
  let entries ← settingsOf fs path
  match ofEntries lenient (overridden env entries) with
  | some c => c.validate
  | none => .error .illTyped

end StaticSite.Config
