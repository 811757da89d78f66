/-
Settings read as a configuration.

A configuration file gives three tables: `site`, `build` and `globals`.  What is missing has its
default and what is unknown is skipped.  How strictly the types of values are taken is a parameter:
`strict` takes them as they are, `lenient` converts scalars to what is asked for.
-/
import StaticSite.Config
import StaticSite.Text.Numeral
import StaticSite.Toml.Value

namespace StaticSite.Config

open StaticSite.Toml

/-- How scalars are read. -/
structure Reading where
  text : Value → Option String
  flag : Value → Option Bool

/-- A text is a text, and a truth value is a truth value. -/
def strict : Reading where
  text
    | .text s => some s
    | _ => none
  flag
    | .boolean b => some b
    | _ => none

/-- The truth value that a word stands for. -/
def flagOfWord (word : String) : Option Bool :=
  let word := String.ofList (Text.lowercase word.toList)
  if ["1", "true", "on", "yes"].contains word then some true
  else if ["0", "false", "off", "no"].contains word then some false
  else none

/-- Every scalar is a text; numbers and some words are truth values. -/
def lenient : Reading where
  text
    | .text s => some s
    | .integer n => some (String.ofList (Text.decimalInt n))
    | .real shown => some shown
    | .boolean b => some (if b then "true" else "false")
    | .moment written => some written
    | _ => none
  flag
    | .boolean b => some b
    | .integer n => some (n != 0)
    | .real shown => some (shown != "0" && shown != "-0")
    | .text s => flagOfWord s
    | .moment written => flagOfWord written
    | _ => none

/-- Entries of a table with the way in which they are read. -/
structure Section where
  reading : Reading
  entries : List (String × Value)

namespace Section

/-- The value of a key, read in a way; a missing one has its default. -/
def get {α : Type} (s : Section) (read : Value → Option α) (key : String) (dflt : α) : Option α :=
  match Value.find? key s.entries with
  | some value => read value
  | none => some dflt

/-- The text of a key. -/
def text (s : Section) (key dflt : String) : Option String := s.get s.reading.text key dflt

/-- The truth value of a key. -/
def flag (s : Section) (key : String) (dflt : Bool) : Option Bool := s.get s.reading.flag key dflt

/-- The texts of a key. -/
def texts (s : Section) (key : String) (dflt : List String) : Option (List String) :=
  s.get (fun
    | .array items => items.mapM s.reading.text
    | _ => none) key dflt

/-- The settings in a value: a table, or the values of the first of the named settings in order. -/
def entriesOf (names : List String) : Value → Option (List (String × Value))
  | .table entries => some entries
  | .array items => if names.isEmpty then none else some (names.zip items)
  | _ => none

/-- The section of a key, whose settings have names; without names it has to be a table. -/
def inner (s : Section) (key : String) (names : List String) : Option Section :=
  (s.get (entriesOf names) key []).map fun entries => ⟨s.reading, entries⟩

end Section

/-- The settings of a site by name. -/
def siteNames : List String := ["title", "root_url", "locale"]

/-- The settings of a build by name. -/
def buildNames : List String :=
  ["source_dir", "output_dir", "templates_dir", "default_template", "content_extensions",
    "copy_extensions", "ignore", "exclude", "filename", "use_filenames"]

/-- The settings of a site. -/
def siteOf (s : Section) : Option SiteSettings := do
  let dflt : SiteSettings := {}
  some
    { title := ← s.text "title" dflt.title
      rootUrl := ← s.text "root_url" dflt.rootUrl
      locale := ← s.text "locale" dflt.locale }

/-- The settings of a build. -/
def buildOf (s : Section) : Option BuildSettings := do
  let dflt : BuildSettings := {}
  some
    { sourceDir := ← s.text "source_dir" dflt.sourceDir
      outputDir := ← s.text "output_dir" dflt.outputDir
      templatesDir := ← s.text "templates_dir" dflt.templatesDir
      defaultTemplate := ← s.text "default_template" dflt.defaultTemplate
      contentExtensions := ← s.texts "content_extensions" dflt.contentExtensions
      copyExtensions := ← s.texts "copy_extensions" dflt.copyExtensions
      ignore := ← s.texts "ignore" dflt.ignore
      exclude := ← s.texts "exclude" dflt.exclude
      assetPattern := ← s.text "filename" dflt.assetPattern
      useFileNames := ← s.flag "use_filenames" dflt.useFileNames }

/-- The values for templates. -/
def globalsOf (s : Section) : Option (OrderedMap String String) := do
  let pairs ← s.entries.mapM fun (key, value) => (s.reading.text value).map (key, ·)
  some (OrderedMap.ofList pairs)

/-- The configuration that a table gives. -/
def ofEntries (reading : Reading) (entries : List (String × Value)) : Option Config := do
  let s : Section := ⟨reading, entries⟩
  let site ← siteOf (← s.inner "site" siteNames)
  let build ← buildOf (← s.inner "build" buildNames)
  let globals ← globalsOf (← s.inner "globals" [])
  some ⟨site, build, globals⟩

end StaticSite.Config
