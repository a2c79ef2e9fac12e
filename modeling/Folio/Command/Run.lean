import Folio.Config.CommandLine
import Folio.Config.Decode
import Folio.Config.Validation
import Folio.FileName
import Folio.Render.Engine
import Folio.Render.Journal
import Folio.SafeName
import Folio.Site

/-!
# Running commands

A command reads files, writes its result to the output and its messages to the log. Only a command that
succeeds has output; one that fails reports its error after the messages that came before it.
-/

namespace Folio.Command

structure Failure where
  message : Text
  causes : List Text := []
deriving DecidableEq, Inhabited

/-- A text of several lines in which the lines after the first one are indented. -/
def indent (width : Nat) (t : Text) : Text :=
  Text.join ('\n' :: List.replicate width ' ') (Text.lines t)

def numberedCauses (number : Nat) : List Text → Text
  | [] => []
  | cause :: causes =>
    let digits := Text.ofNat number
    '\n' :: List.replicate (5 - digits.length) ' ' ++ digits ++ [':', ' '] ++ indent 7 cause ++
      numberedCauses (number + 1) causes

def Failure.report (failure : Failure) : Text :=
  "Error: ".toList ++ failure.message ++
    (match failure.causes with
      | [] => []
      | [cause] => "\n\nCaused by:\n    ".toList ++ indent 4 cause
      | causes => "\n\nCaused by:".toList ++ numberedCauses 0 causes) ++ ['\n']

def ofConfigError (error : Config.LoadError) : Failure where
  message := error.message
  causes := match error with
    | .unreadable _ cause => [cause.message.toList]
    | .malformed _ _ _ => []

def ofContentError (error : Content.LoadError) : Failure where
  message := error.message
  causes := match error with
    | .unreadable _ cause => [cause.message.toList]
    | .malformed _ => []

def ofRenderError (error : Render.RenderError) : Failure where
  message := error.message
  causes := match error with
    | .unreadable _ cause => [cause.message.toList]
    | _ => []

def Failure.context (message : Text) (failure : Failure) : Failure :=
  ⟨message, failure.message :: failure.causes⟩

structure Result where
  outcome : Except Failure Text
  log : List Log.Entry := []

/-- The configuration for a command, before the settings of the command line. A missing file leaves the
defaults. -/
def loadConfig (files : FileTree) (invocation : Invocation) : Except Failure Config := do
  let path := Path.join (invocation.root.getD "./".toList) invocation.config
  let config ←
    if files.exists? path then
      match Config.load files path with
      | .ok config => pure config
      | .error error => throw (ofConfigError error)
    else pure {}
  let config := config.apply files invocation
  match config.validate with
  | .ok () => return config
  | .error invalid => throw ⟨invalid.message, []⟩

def configEntries (files : FileTree) (invocation : Invocation) (config : Config) : List Log.Entry :=
  if files.exists? config.path then []
  else [⟨"config", "no ".toList ++ invocation.config ++ ", using defaults".toList, true⟩]

def runParse (files : FileTree) (config : Config) (file : Path) (raw : Bool) : Result :=
  let path := Path.join config.rootPath file
  let loaded :=
    if raw then Content.loadRaw files config.content path
    else Content.load files config.content path
  match loaded with
  | .error error => { outcome := .error (ofContentError error) }
  | .ok fields =>
    let tags := Content.tags config.content.listSeparator fields
    let tagEntries : List Log.Entry :=
      if tags = [] then []
      else [⟨"parse", "tags: ".toList ++ Text.join [',', ' '] tags, false⟩]
    let fileEntries : List Log.Entry := fields.toList.filterMap fun field =>
      if FileName.isFileName config field.2 then
        some ⟨"parse", '`' :: field.1 ++ "` names a file".toList, true⟩
      else none
    { outcome := .ok (Json.prettyStrings fields.toList ++ ['\n'])
      log := tagEntries ++ fileEntries }

def loadPage (files : FileTree) (config : Config) (page : Option Path) : Except Failure Page :=
  match page with
  | none => .ok ⟨.empty, config.rootPath⟩
  | some path =>
    match Page.load files config.content (Path.join config.rootPath path) with
    | .ok page => .ok page
    | .error error =>
      .error ((ofContentError error).context ("Failed to load page ".toList ++ path))

/-- Renders a template. No tools and extensions are registered. -/
def runRender (files : FileTree) (config : Config) (template : Path) (page : Option Path)
    (inject : Bool) : Result :=
  match Site.load files config with
  | .error error =>
    { outcome := .error ((ofContentError error).context "Failed to load site settings".toList) }
  | .ok site =>
    let siteEntries := Site.entries files config
    match loadPage files config page with
    | .error failure => { outcome := .error failure, log := siteEntries }
    | .ok page =>
      let engine : Render.Engine Unit :=
        { markup := config.markup, maxIncludeDepth := config.render.maxIncludeDepth, files }
      let (result, run) := engine.renderFile ⟨site, page.fields⟩
        (Path.join config.rootPath template) ()
      let log := siteEntries ++ run.events.map Render.Event.entry
      match result with
      | .error error => { outcome := .error (ofRenderError error), log }
      | .ok rendered =>
        if inject then
          { outcome := .ok (rendered.assets.injectIntoHead rendered.output ++ ['\n']), log }
        else
          { outcome := .ok (rendered.output ++ ['\n'])
            log := log ++ rendered.assets.urls.map fun url => ⟨"assets", url, false⟩ }

structure Output where
  code : Nat
  stdout : Text := []
  stderr : Text := []
deriving DecidableEq, Inhabited

def Result.output (verbose : Bool) (result : Result) : Output :=
  let log := (Log.shown verbose result.log).flatMap (· ++ ['\n'])
  match result.outcome with
  | .ok stdout => { code := 0, stdout, stderr := log }
  | .error failure => { code := 1, stderr := log ++ failure.report }

def runWith (files : FileTree) (invocation : Invocation) (run : Config → Result) : Output :=
  match loadConfig files invocation with
  | .error failure => { code := 1, stderr := failure.report }
  | .ok config =>
    let result := run config
    Result.output config.render.debug
      { result with log := configEntries files invocation config ++ result.log }

def Invocation.run (files : FileTree) (invocation : Invocation) : Output :=
  match invocation.command with
  | .sanitize text removeDots => { code := 0, stdout := SafeName.ofText removeDots text ++ ['\n'] }
  | .parse file raw => runWith files invocation fun config => runParse files config file raw
  | .render template page inject =>
    runWith files invocation fun config => runRender files config template page inject

end Folio.Command
