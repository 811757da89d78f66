/-
What the program says about itself and about a command line that it cannot read.
-/
import StaticSite.Command.Arguments

namespace StaticSite.Command

/-- The name and version of the program. -/
def versionText : String := "bodykit 0.1.0"

/-- What help is about, in one line. -/
def Topic.summary : Topic → String
  | .program => "Static site content pipeline and template engine"
  | .command .build => "Build the site"
  | .command .check => "Render every document without writing output"
  | .command .watch => "Rebuild on source changes"
  | .help => "Print this message or the help of the given subcommand(s)"

/-- How the words of a command line stand. -/
def Topic.usage : Topic → String
  | .program => "Usage: bodykit [OPTIONS] <COMMAND>"
  | .command .build => "Usage: bodykit build [OPTIONS]"
  | .command .check => "Usage: bodykit check [OPTIONS]"
  | .command .watch => "Usage: bodykit watch"
  | .help => "Usage: bodykit help [COMMAND]..."

/-- The options and commands that a topic lists. -/
def Topic.details : Topic → List String
  | .program =>
    ["Commands:",
      "  build  Build the site",
      "  check  Render every document without writing output",
      "  watch  Rebuild on source changes",
      "  help   Print this message or the help of the given subcommand(s)",
      "",
      "Options:",
      "  -c, --config <CONFIG>  Path to configuration file [default: bodykit.toml]",
      "  -v, --verbose...       Increase verbosity (-v, -vv, -vvv)",
      "  -h, --help             Print help",
      "  -V, --version          Print version"]
  | .command .build =>
    ["Options:",
      "  -o, --output <OUTPUT>      Output directory (overrides the configuration)",
      "      --root-url <ROOT_URL>  Override the site root URL (e.g., https://example.com/blog)",
      "  -h, --help                 Print help"]
  | .command .check =>
    ["Options:",
      "      --strict  Fail when any document fails to render",
      "  -h, --help    Print help"]
  | .command .watch =>
    ["Options:",
      "  -h, --help  Print help"]
  | .help =>
    ["Arguments:",
      "  [COMMAND]...  Print help for the subcommand(s)"]

/-- The lines of the help on a topic. -/
def Topic.lines (topic : Topic) : List String :=
  [topic.summary, "", topic.usage, ""] ++ topic.details

/-- The text of a misuse. -/
def Misuse.message : Misuse → String
  | .noCommand => "error: a subcommand is required"
  | .unknown word => "error: unexpected argument: " ++ word
  | .repeated flag => "error: the argument cannot be used multiple times: --" ++ flag.name
  | .missingValue flag => "error: a value is required for --" ++ flag.name
  | .emptyValue flag => "error: a value is required for --" ++ flag.name
  | .unneededValue flag => "error: no value is allowed for --" ++ flag.name

end StaticSite.Command
