import Folio.Command.Run

/-!
# The command line

The whole program as a function of the files and the arguments: what it does, what it says about itself
and what it says to arguments that it does not understand.
-/

namespace Folio.Command

def ofLines (lines : List String) : Text := lines.flatMap fun line => line.toList ++ ['\n']

def versionLine : String := "tabula 0.1.0"

def programHelp : List String :=
  ["content parser and template markup engine for flat-file sites",
    "",
    "Usage: tabula [OPTIONS] <COMMAND>",
    "",
    "Commands:",
    "  parse     Parse a content file and print its fields as JSON",
    "  render    Render a template with the site data and an optional page",
    "  sanitize  Turn a string into a safe file or directory name",
    "  help      Print this message or the help of the given subcommand(s)",
    "",
    "Options:",
    "  -r, --root <ROOT>      Root directory path",
    "  -C, --config <CONFIG>  Config file name (default: tabula.toml) [default: tabula.toml]",
    "  -v, --verbose          Print debug messages (matched tools, includes, skipped placeholders)",
    "  -h, --help             Print help",
    "  -V, --version          Print version"]

def parseHelp : List String :=
  ["Parse a content file and print its fields as JSON",
    "",
    "Usage: tabula parse [OPTIONS] <FILE>",
    "",
    "Arguments:",
    "  <FILE>  Content file, relative to `root`",
    "",
    "Options:",
    "      --raw   Skip markdown rendering of multi-line fields",
    "  -h, --help  Print help"]

def renderHelp : List String :=
  ["Render a template with the site data and an optional page",
    "",
    "Usage: tabula render [OPTIONS] <TEMPLATE>",
    "",
    "Arguments:",
    "  <TEMPLATE>  Template file, relative to `root`",
    "",
    "Options:",
    "  -p, --page <PAGE>  Content file providing the page variables",
    "  -i, --inject       Insert the collected header assets before `</head>`",
    "  -h, --help         Print help"]

def sanitizeHelp : List String :=
  ["Turn a string into a safe file or directory name",
    "",
    "Usage: tabula sanitize [OPTIONS] <TEXT>",
    "",
    "Arguments:",
    "  <TEXT>  Text to sanitize",
    "",
    "Options:",
    "  -d, --remove-dots  Replace dots as well",
    "  -h, --help         Print help"]

def helpHelp : List String :=
  ["Print this message or the help of the given subcommand(s)",
    "",
    "Usage: tabula help [COMMAND]...",
    "",
    "Arguments:",
    "  [COMMAND]...  Print help for the subcommand(s)"]

def helpOn : Option String → List String
  | some "parse" => parseHelp
  | some "render" => renderHelp
  | some "sanitize" => sanitizeHelp
  | some "help" => helpHelp
  | _ => programHelp

def UsageError.message : UsageError → String
  | .unknownArgument => "unexpected argument found"
  | .missingRequiredArgument => "a required argument was not provided"
  | .invalidSubcommand => "unrecognized subcommand"
  | .missingSubcommand => "a subcommand is required but was not provided"
  | .invalidValue => "a value is required but none was supplied"
  | .tooManyValues => "unexpected value for a flag"
  | .argumentConflict => "an argument cannot be used multiple times"
  | .nothingGiven => "nothing to do"

def Outcome.output : Outcome → Output
  | .version => { code := 0, stdout := ofLines [versionLine] }
  | .help topic => { code := 0, stdout := ofLines (helpOn topic) }
  | .usage .nothingGiven => { code := 2, stderr := ofLines programHelp }
  | .usage error =>
    { code := 2
      stderr := ofLines
        ["error: " ++ error.message, "", "For more information, try '--help'."] }

def run (files : FileTree) (args : List Text) : Output :=
  match ofArguments args with
  | .ok invocation => invocation.run files
  | .error outcome => outcome.output

end Folio.Command
