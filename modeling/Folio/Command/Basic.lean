import Folio.Command.Arguments
import Folio.Text.Quoted

/-!
# Commands

What the program is asked to do: to show the fields of a content file, to render a template, or to give
the safe name of a text. The settings that all commands share stand in front of the command.
-/

namespace Folio

inductive Command where
  | parse (file : Path) (raw : Bool)
  | render (template : Path) (page : Option Path) (inject : Bool)
  | sanitize (text : Text) (removeDots : Bool)
deriving DecidableEq, Inhabited

namespace Command

def defaultConfig : Path := "tabula.toml".toList

structure Invocation where
  root : Option Path := none
  config : Path := defaultConfig
  verbose : Bool := false
  command : Command
deriving DecidableEq, Inhabited

def boolText (b : Bool) : Text := (if b then "true" else "false").toList

def describe : Command → Text
  | .parse file raw =>
    "Parse ".toList ++ "\x7b file: ".toList ++ Text.quotedPath file ++ ", raw: ".toList ++
      boolText raw ++ " \x7d".toList
  | .render template page inject =>
    let shownPage := match page with
      | some page => "Some(".toList ++ Text.quotedPath page ++ [')']
      | none => "None".toList
    "Render ".toList ++ "\x7b template: ".toList ++ Text.quotedPath template ++
      ", page: ".toList ++ shownPage ++ ", inject: ".toList ++ boolText inject ++ " \x7d".toList
  | .sanitize text removeDots =>
    "Sanitize ".toList ++ "\x7b text: ".toList ++ Text.quoted text ++ ", remove_dots: ".toList ++
      boolText removeDots ++ " \x7d".toList

def sharedSpec : Spec where
  named :=
    [⟨"root", some 'r', "root", true⟩, ⟨"config", some 'C', "config", true⟩,
      ⟨"verbose", some 'v', "verbose", false⟩]
  subcommands := ["parse", "render", "sanitize", "help"]
  hasVersion := true

def parseSpec : Spec where
  named := [⟨"raw", none, "raw", false⟩]
  plain := [("file", false)]
  topic := some "parse"

def renderSpec : Spec where
  named := [⟨"page", some 'p', "page", true⟩, ⟨"inject", some 'i', "inject", false⟩]
  plain := [("template", false)]
  topic := some "render"

def sanitizeSpec : Spec where
  named := [⟨"remove_dots", some 'd', "remove-dots", false⟩]
  plain := [("text", true)]
  topic := some "sanitize"

def readSubcommand (spec : Spec) (plain : String) (args : List Text) :
    Except Outcome (Matches × Text) := do
  let (found, _) ← readArguments spec {} false args
  let found ← found.resolve spec
  match found.get? plain with
  | some value => return (found, value)
  | none => throw (.usage .missingRequiredArgument)

def readTopic : List Text → Outcome
  | [] => .help none
  | [topic] =>
    if String.ofList topic ∈ sharedSpec.subcommands then .help (some (String.ofList topic))
    else .usage .invalidSubcommand
  | _ => .usage .invalidSubcommand

def readCommand (name : String) (args : List Text) : Except Outcome Command := do
  if name = "parse" then
    let (found, file) ← readSubcommand parseSpec "file" args
    return .parse file (found.has "raw")
  else if name = "render" then
    let (found, template) ← readSubcommand renderSpec "template" args
    return .render template (found.get? "page") (found.has "inject")
  else if name = "sanitize" then
    let (found, text) ← readSubcommand sanitizeSpec "text" args
    return .sanitize text (found.has "remove_dots")
  else throw (readTopic args)

def ofArguments (args : List Text) : Except Outcome Invocation := do
  let (found, subcommand) ← readArguments sharedSpec {} false args
  match subcommand with
  | some (name, rest) =>
    let command ← readCommand name rest
    let found ← found.resolve sharedSpec
    return {
      root := found.get? "root"
      config := (found.get? "config").getD defaultConfig
      verbose := found.has "verbose"
      command }
  | none =>
    let found ← found.resolve sharedSpec
    throw (.usage (if found.values = [] then .nothingGiven else .missingSubcommand))

end Command

end Folio
