/-
The commands.

A command reads the configuration, does its work on the files and prints a summary.  What it leaves
is a `Result`: the files, the printed lines, and the error that it ends with, if it ends with one.
An error is told as a chain of messages, from what was attempted to the cause.
-/
import StaticSite.Build.Pass
import StaticSite.Command.Help
import StaticSite.Config.Load
import StaticSite.Watch.Session

namespace StaticSite.Command

open StaticSite.Build

/-- What a build pass is run for. -/
inductive Purpose where
  | build
  | check
  /-- The first build of a watched site. -/
  | firstBuild
  deriving Repr, DecidableEq

/-- The message that such a pass has failed. -/
def Purpose.failure : Purpose → String
  | build => "Build failed"
  | check => "Check failed"
  | firstBuild => "Initial build failed"

/-- Why a command fails. -/
inductive CommandError where
  | config (path : String) (e : ConfigError)
  | pass (purpose : Purpose) (e : BuildError)
  /-- Documents or assets have no output. -/
  | failures (count : Nat)
  /-- Documents could not be rendered where all have to be. -/
  | strictFailures (count : Nat)
  | badPattern (e : GlobError)
  | missingSource (path : String) (cause : FileError)
  deriving Repr, DecidableEq

/-- The messages of a collection error and its causes. -/
def collectChain (e : CollectError) : List String :=
  match e with
  | .missingSource _ => [e.message]
  | .badPattern cause => [e.message, cause.message]
  | .unreadable _ cause => [e.message, cause.message]

/-- The messages of a build error and its causes. -/
def buildChain (e : BuildError) : List String :=
  match e with
  | .file cause => [e.message, cause.message]
  | .collect cause => e.message :: collectChain cause
  | .templates cause => [e.message, cause.message]

/-- A count in digits. -/
def countText (count : Nat) : String := String.ofList (Text.decimal count)

/-- The messages of an error, from what was attempted to the cause. -/
def CommandError.chain : CommandError → List String
  | .config path e => ["Failed to load configuration from " ++ path, e.message]
  | .pass purpose e => purpose.failure :: buildChain e
  | .failures count => [countText count ++ " document(s) or asset(s) failed"]
  | .strictFailures count =>
    ["Check failed with " ++ countText count ++ " document error(s) (strict mode)"]
  | .badPattern e => ["Invalid ignore pattern", e.message]
  | .missingSource path cause => ["Source directory not found: " ++ path, cause.message]

/-- Lines that are printed, given the milliseconds that have been taken. -/
abbrev Printed := Nat → List String

/-- What a command leaves. -/
structure Result where
  files : FileSystem
  printed : Printed
  error? : Option CommandError

/-- Where and when a command runs. -/
structure World where
  files : FileSystem
  environment : Config.Environment
  /-- The time in milliseconds. -/
  now : Int

/-- The command fails before it has done anything. -/
def World.fail (w : World) (e : CommandError) : Result := ⟨w.files, fun _ => [], some e⟩

/-- The configuration at a path, with what the environment overrides. -/
def World.config (w : World) (path : String) : Except CommandError Config :=
  (Config.loadWithEnvironment w.files w.environment path).mapError (.config path)

/-- A count behind its label. -/
def countLine (label : String) (count : Nat) : String := label ++ countText count

/-- The line on a failure. -/
def failureLine (f : Failure) : String := "  ✗ " ++ f.path ++ ": " ++ f.error.message

/-- The lines on what has failed; there are none if nothing has. -/
def failureLines (r : Report) : List String :=
  if r.isSuccess then [] else "" :: "  Failures:" :: r.failures.map failureLine

/-! ## Build -/

/-- The configuration with what the command line overrides. -/
def overridden (output rootUrl : Option String) (c : Config) : Config :=
  { c with
    build := { c.build with outputDir := output.getD c.build.outputDir }
    site :=
      { c.site with
        rootUrl :=
          match rootUrl with
          | some url => String.ofList (Text.dropEndWhile (· == '/') url.toList)
          | none => c.site.rootUrl } }

/-- Milliseconds shown as seconds with two places, the last one rounded. -/
def secondsText (elapsed : Nat) : String :=
  let hundredths := (elapsed + 5) / 10
  countText (hundredths / 100) ++ "." ++
    String.ofList (Text.zeroPadded 2 (Text.decimal (hundredths % 100))) ++ "s"

/-- The summary of a build. -/
def buildLines (outputDir : String) (r : Report) (elapsed : Nat) : List String :=
  ["",
    countLine "  Pages:    " r.pages,
    countLine "  Failed:   " r.failed,
    countLine "  Assets:   " r.assets,
    "",
    "  Duration: " ++ secondsText elapsed,
    "  Output:   " ++ outputDir] ++ failureLines r ++ [""]

/-- Build the site. -/
def runBuild (w : World) (path : String) (output rootUrl : Option String) : Result :=
  match w.config path with
  | .error e => w.fail e
  | .ok c =>
    let c := overridden output rootUrl c
    match (Builder.ofConfig c).build w.files w.now with
    | (files, .error e) => ⟨files, fun _ => [], some (.pass .build e)⟩
    | (files, .ok r) =>
      ⟨files, buildLines c.build.outputDir r,
        if r.isSuccess then none else some (.failures r.failed)⟩

/-! ## Check -/

/-- The summary of a check. -/
def checkLines (r : Report) : List String :=
  ["", "Summary:", countLine "  Rendered: " r.pages, countLine "  Failed:   " r.failed] ++
    failureLines r

/-- Render every document and write nothing. -/
def runCheck (w : World) (path : String) (strict : Bool) : Result :=
  match w.config path with
  | .error e => w.fail e
  | .ok c =>
    match (Builder.ofConfig c).check w.files w.now with
    | .error e => w.fail (.pass .check e)
    | .ok r =>
      if r.isSuccess then
        ⟨w.files, fun _ => checkLines r ++ ["", "✓ All documents rendered"], none⟩
      else if strict then ⟨w.files, fun _ => checkLines r, some (.strictFailures r.failed)⟩
      else ⟨w.files, fun _ => checkLines r ++ [""], none⟩

/-! ## Watch -/

/-- The lines on the first build of a watched site. -/
def firstBuildLines (r : Report) (elapsed : Nat) : List String :=
  ["", "  ✓ Built " ++ countText r.pages ++ " pages (" ++ countText r.failed ++ " failed) in " ++
    countText elapsed ++ "ms"] ++ failureLines r

/-- The lines after which changes are awaited. -/
def watchLines (root : String) : List String :=
  ["", "  Watching " ++ root, "  Press Ctrl+C to stop", ""]

/-- A path from the root to a place. -/
def absolutePath (place : Place) : String := "/" ++ "/".intercalate place

/-- The place of the source folder, which has to be there. -/
def sourcePlace (files : FileSystem) (folder : String) : Except FileError Place := do
  let _ ← files.entryAt (Path.components folder)
  files.locate folder

/-- Build the site for the first time and begin to watch it. -/
def startWatch (w : World) (path : String) : Result × Option Watch.Session :=
  let start : Except CommandError (Config × IgnoreRules × Place) := do
    let c ← w.config path
    let rules ← (IgnoreRules.ofConfig c).mapError .badPattern
    let place ← (sourcePlace w.files c.build.sourceDir).mapError
      (.missingSource c.build.sourceDir)
    .ok (c, rules, place)
  match start with
  | .error e => (w.fail e, none)
  | .ok (c, rules, place) =>
    let builder := Builder.ofConfig c
    match builder.build w.files w.now with
    | (files, .error e) => (⟨files, fun _ => [], some (.pass .firstBuild e)⟩, none)
    | (files, .ok r) =>
      let root := absolutePath place
      (⟨files, fun elapsed => firstBuildLines r elapsed ++ watchLines root, none⟩,
        some ⟨builder, rules, root, .empty⟩)

/-! ## Whole command lines -/

/-- What a run of the program leaves. -/
structure Exit where
  code : Nat
  files : FileSystem
  /-- The lines of the output. -/
  printed : Printed
  /-- The lines on what went wrong. -/
  complaints : List String
  /-- The site that is watched from now on. -/
  session? : Option Watch.Session

/-- The end of a run whose command line leads to no command. -/
def Stop.exit (w : World) : Stop → Exit
  | .help topic => ⟨0, w.files, fun _ => topic.lines, [], none⟩
  | .version => ⟨0, w.files, fun _ => [versionText], [], none⟩
  | .misuse m => ⟨2, w.files, fun _ => [], [m.message], none⟩

/-- The end of a run of a command. -/
def Result.exit (r : Result) (session? : Option Watch.Session) : Exit :=
  match r.error? with
  | none => ⟨0, r.files, r.printed, [], session?⟩
  | some e => ⟨1, r.files, r.printed, e.chain, none⟩

/-- Run a command line. -/
def run (w : World) (words : List String) : Exit :=
  match readArguments words with
  | .error stop => stop.exit w
  | .ok a =>
    match a.action with
    | .build output rootUrl => (runBuild w a.config output rootUrl).exit none
    | .check strict => (runCheck w a.config strict).exit none
    | .watch =>
      let (r, session?) := startWatch w a.config
      r.exit session?

end StaticSite.Command
