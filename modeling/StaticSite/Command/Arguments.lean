/-
The command line: options of the program, a command, and options of the command.

Words are read from left to right and the first one that ends the reading decides how it ends: a
request for help or for the version, or a misuse.  An option that takes a value from the next word
is not set before something else is read, so `awaited` keeps it apart from what is set.
-/
import StaticSite.OrderedMap
import StaticSite.Text.Split

namespace StaticSite.Command

/-- The options of the program and of its commands. -/
inductive Flag where
  | config
  | verbose
  | output
  | rootUrl
  | strict
  | help
  | version
  deriving Repr, DecidableEq

/-- The long name of an option. -/
def Flag.name : Flag → String
  | config => "config"
  | verbose => "verbose"
  | output => "output"
  | rootUrl => "root-url"
  | strict => "strict"
  | help => "help"
  | version => "version"

/-- The letter of an option. -/
def Flag.letter? : Flag → Option Char
  | config => some 'c'
  | verbose => some 'v'
  | output => some 'o'
  | help => some 'h'
  | version => some 'V'
  | rootUrl | strict => none

/-- Does the option have a value? -/
def Flag.takesValue : Flag → Bool
  | config | output | rootUrl => true
  | verbose | strict | help | version => false

/-- Is the value of the option a path?  A path is never empty. -/
def Flag.isPath : Flag → Bool
  | config | output => true
  | _ => false

/-- The names of the commands. -/
inductive CommandName where
  | build
  | check
  | watch
  deriving Repr, DecidableEq

/-- The commands in the order of the help text. -/
def CommandName.all : List CommandName := [build, check, watch]

/-- The word for a command. -/
def CommandName.word : CommandName → String
  | build => "build"
  | check => "check"
  | watch => "watch"

/-- The command that a word stands for. -/
def CommandName.ofWord? (word : String) : Option CommandName := all.find? fun c => c.word == word

/-- The options that may stand behind a command, or before any command. -/
def flagsOf : Option CommandName → List Flag
  | none => [.config, .verbose, .help, .version]
  | some .build => [.output, .rootUrl, .help]
  | some .check => [.strict, .help]
  | some .watch => [.help]

/-- What one can ask help about. -/
inductive Topic where
  | program
  | command (c : CommandName)
  /-- The word that asks for help. -/
  | help
  deriving Repr, DecidableEq

/-- Why a command line is none. -/
inductive Misuse where
  | noCommand
  | unknown (word : String)
  | repeated (flag : Flag)
  | missingValue (flag : Flag)
  | emptyValue (flag : Flag)
  | unneededValue (flag : Flag)
  deriving Repr, DecidableEq

/-- How the reading of a command line ends without a command to run. -/
inductive Stop where
  | help (topic : Topic)
  | version
  | misuse (m : Misuse)
  deriving Repr, DecidableEq

/-! ## Options -/

/-- The option whose value comes last, with its value as far as it has been read. -/
structure Awaited where
  flag : Flag
  value? : Option String
  deriving Repr, DecidableEq

/-- Options read from a command line. -/
structure Given where
  /-- The options that are set, with their values. -/
  set : OrderedMap Flag String := ∅
  /-- How often details have been asked for. -/
  verbosity : Nat := 0
  awaited : Option Awaited := none
  deriving Repr, DecidableEq

namespace Given

/-- Set an option, which may not be set yet. -/
def put (g : Given) (flag : Flag) (value : String) : Except Stop Given :=
  if g.set.contains flag then .error (.misuse (.repeated flag))
  else if flag.isPath && value.isEmpty then .error (.misuse (.emptyValue flag))
  else .ok { g with set := g.set.insert flag value }

/-- Set the option whose value has been read last. -/
def settle (g : Given) : Except Stop Given :=
  match g.awaited with
  | none => .ok g
  | some ⟨flag, none⟩ => .error (.misuse (.missingValue flag))
  | some ⟨flag, some value⟩ => Given.put { g with awaited := none } flag value

/-- An option with the value in the same word. -/
def attach (g : Given) (flag : Flag) (value : List Char) : Except Stop Given := do
  (← g.settle).put flag (String.ofList value)

/-- An option with the value in the next word. -/
def await (g : Given) (flag : Flag) : Except Stop Given := do
  .ok { ← g.settle with awaited := some ⟨flag, none⟩ }

/-- An option without a value; `topic` is what help is about. -/
def raise (g : Given) (topic : Topic) (flag : Flag) : Except Stop Given := do
  let g ← g.settle
  match flag with
  | .help => .error (.help topic)
  | .version => .error .version
  | .verbose => .ok { g with verbosity := g.verbosity + 1 }
  | flag => g.put flag ""

end Given

/-- What help is about behind a command, or before any command. -/
def topicOf : Option CommandName → Topic
  | none => .program
  | some c => .command c

/-! ## Words -/

/-- Read a word after its two hyphens: the name of an option, perhaps with a value. -/
def readLong (command : Option CommandName) (g : Given) (word : List Char) : Except Stop Given :=
  let (name, value?) : List Char × Option (List Char) :=
    match Text.splitFirst '=' word with
    | some (name, value) => (name, some value)
    | none => (word, none)
  match (flagsOf command).find? fun flag => flag.name.toList == name with
  | none => .error (.misuse (.unknown (String.ofList ('-' :: '-' :: name))))
  | some flag =>
    match flag.takesValue, value? with
    | true, some value => g.attach flag value
    | true, none => g.await flag
    | false, some _ => .error (.misuse (.unneededValue flag))
    | false, none => g.raise (topicOf command) flag

/-- Read a word after its hyphen: letters of options, and after one that takes a value this
value. -/
def readLetters (command : Option CommandName) (g : Given) : List Char → Except Stop Given
  | [] => .ok g
  | c :: rest =>
    match (flagsOf command).find? fun flag => flag.letter? == some c with
    | none => .error (.misuse (.unknown (String.ofList ['-', c])))
    | some flag =>
      if flag.takesValue then
        match rest with
        | [] => g.await flag
        | '=' :: value => g.attach flag value
        | value => g.attach flag value
      else do readLetters command (← g.raise (topicOf command) flag) rest

/-- Read options up to the first word that is none: what they set, and that word with those after
it.  Two hyphens alone end the options; nothing may come after them. -/
def readOptions (command : Option CommandName) (g : Given) :
    List String → Except Stop (Given × List String)
  | [] => .ok (g, [])
  | word :: rest =>
    match word.toList with
    | ['-', '-'] =>
      match rest with
      | [] => .ok (g, [])
      | other :: _ => .error (.misuse (.unknown other))
    | '-' :: '-' :: cs => do readOptions command (← readLong command g cs) rest
    | '-' :: c :: cs => do readOptions command (← readLetters command g (c :: cs)) rest
    | _ =>
      match g.awaited with
      | some ⟨flag, none⟩ => readOptions command { g with awaited := some ⟨flag, some word⟩ } rest
      | _ => .ok (g, word :: rest)

/-! ## Commands -/

/-- A command with its options. -/
inductive Action where
  | build (output rootUrl : Option String)
  | check (strict : Bool)
  | watch
  deriving Repr, DecidableEq

/-- A command line that has been read. -/
structure Arguments where
  /-- The path of the configuration. -/
  config : String
  verbosity : Nat
  action : Action
  deriving Repr, DecidableEq

/-- The path of the configuration unless one is given. -/
def defaultConfig : String := "bodykit.toml"

/-- The command that a name with options stands for. -/
def actionOf (g : Given) : CommandName → Action
  | .build => .build (g.set.get? .output) (g.set.get? .rootUrl)
  | .check => .check (g.set.contains .strict)
  | .watch => .watch

/-- What words behind a request for help ask about. -/
def topicOfWords : List String → Except Stop Topic
  | [] => .ok .program
  | ["help"] => .ok .help
  | word :: rest =>
    match CommandName.ofWord? word, rest with
    | some c, [] => .ok (.command c)
    | some _, other :: _ => .error (.misuse (.unknown other))
    | none, _ => .error (.misuse (.unknown word))

/-- Read the options of a command, after which nothing may come. -/
def readCommand (name : CommandName) (words : List String) : Except Stop Action := do
  let (g, rest) ← readOptions (some name) {} words
  match rest with
  | [] => .ok (actionOf (← g.settle) name)
  | word :: _ => .error (.misuse (.unknown word))

/-- Read a command line.  A last option before the command is set after the command has been
read. -/
def readArguments (words : List String) : Except Stop Arguments := do
  let (g, rest) ← readOptions none {} words
  match rest with
  | [] => .error (.misuse .noCommand)
  | "help" :: words => .error (.help (← topicOfWords words))
  | word :: rest =>
    match CommandName.ofWord? word with
    | none => .error (.misuse (.unknown word))
    | some name =>
      let action ← readCommand name rest
      let g ← g.settle
      .ok ⟨(g.set.get? .config).getD defaultConfig, g.verbosity, action⟩

/-- The word for a command stands for the command. -/
theorem CommandName.ofWord?_word (c : CommandName) : ofWord? c.word = some c := by
  cases c <;> decide

/-- Where nothing is awaited, settling changes nothing. -/
theorem Given.settle_of_awaited_eq_none {g : Given} (h : g.awaited = none) : g.settle = .ok g := by
  simp [settle, h]

/-- A value of an option is set. -/
theorem Given.get?_set_of_put {g after : Given} {flag : Flag} {value : String}
    (h : g.put flag value = .ok after) : after.set.get? flag = some value := by
  unfold put at h
  split at h
  · cases h
  · split at h
    · cases h
    · cases h
      exact OrderedMap.get?_insert_self g.set flag value

end StaticSite.Command
