import Folio.Render.Basic

/-!
# Rendering

Each buffer, the template and every included file, goes through three passes. The first one collects
the head assets of the extensions that the buffer calls. The second one replaces calls by their output.
The third one replaces fields by their values and includes by the rendered content of files. What a
placeholder is replaced by in one pass is not scanned again in that pass; a field value is never scanned.
Includes nest at most as deep as the engine allows, and rendering recurses on the levels that are left.
-/

namespace Folio.Render

open Markup

structure Engine (σ : Type) where
  markup : Markup.Syntax := {}
  registry : Registry σ := .empty
  maxIncludeDepth : Nat := 16
  files : FileTree

namespace Engine

variable {σ : Type}

def fieldText (fields : Fields) (scope : Scope) (name : Text) : Text :=
  (fields.get? scope name).getD []

def fieldString (fields : Fields) (scope : Scope) (name : Text) : Text :=
  Options.quoted (fieldText fields scope name)

def resolvePayload (engine : Engine σ) (fields : Fields) (payload : Text) : Text :=
  Id.run <| substitute engine.markup (fun token =>
    match token with
    | .field scope name => pure (some (fieldString fields scope name))
    | _ => pure none) payload

def decodeCall (engine : Engine σ) (fields : Fields) (payload : Option Text) :
    Except Options.Rejection Options :=
  match payload with
  | some payload => Options.decode (engine.resolvePayload fields payload)
  | none => .ok []

def callOptions (engine : Engine σ) (fields : Fields) (payload : Option Text) : Options :=
  match engine.decodeCall fields payload with
  | .ok options => options
  | .error _ => []

/-! ## The first pass -/

def segmentAssets (engine : Engine σ) : Segment → List Text
  | .placeholder (.call .extension name _) _ =>
    match engine.registry.extension? name with
    | some extension => extension.headAssets
    | none => []
  | _ => []

def bufferAssets (engine : Engine σ) (buffer : Text) : List Text :=
  (scan engine.markup buffer).flatMap engine.segmentAssets

def collectAssets (engine : Engine σ) (buffer : Text) : StateM (Run σ) Unit :=
  modify fun run => { run with assets := run.assets.insertAll (engine.bufferAssets buffer) }

/-! ## The second pass -/

def callable? (engine : Engine σ) (callee : Callee) (name : Text) :
    Option (Options → σ → Text × σ) :=
  match callee with
  | .tool => (engine.registry.tool? name).map Tool.invoke
  | .extension => (engine.registry.extension? name).map Extension.invoke

/-- Runs what is called under a name. An unknown name gives the empty text. -/
def invoke (engine : Engine σ) (callee : Callee) (name : Text) (options : Options) :
    StateM (Run σ) Text := do
  match engine.callable? callee name with
  | some call =>
    record (.called callee name options)
    modifyGet fun run =>
      let (output, state) := call options run.state
      (output, { run with state })
  | none =>
    record (.unknownName callee name)
    return []

def readOptions (engine : Engine σ) (fields : Fields) (payload : Option Text) :
    StateM (Run σ) Options := do
  match engine.decodeCall fields payload with
  | .ok options => return options
  | .error rejection =>
    record (.optionsRejected rejection)
    return []

def resolveCalls (engine : Engine σ) (fields : Fields) (buffer : Text) : StateM (Run σ) Text :=
  substitute engine.markup (fun token =>
    match token with
    | .call callee name payload => do
      let options ← engine.readOptions fields payload
      return some (← engine.invoke callee name options)
    | _ => return none) buffer

/-! ## The third pass -/

/-- Replaces the fields of a buffer by their values and its includes by what `expand` gives for the file
at a path. Absolute paths are not included. -/
def resolveFields (engine : Engine σ) (fields : Fields) (base : Path) (expand : Path → RunM σ Text)
    (buffer : Text) : RunM σ Text :=
  substitute engine.markup (fun token =>
    match token with
    | .field scope name => return some (fieldText fields scope name)
    | .inclusion path =>
      if Path.isAbsolute path then do
        record (.absoluteSkipped path)
        return some []
      else return some (← expand (Path.join base path))
    | .call _ _ _ => return none) buffer

/-- Renders a buffer in which includes may nest `levels` deep. `stack` holds the files that are being
rendered, outermost first; paths are relative to `base`. -/
def renderBuffer (engine : Engine σ) (fields : Fields) (levels : Nat) (stack : List Path) (base : Path)
    (buffer : Text) : RunM σ Text := do
  engine.collectAssets buffer
  let called ← engine.resolveCalls fields buffer
  engine.resolveFields fields base (fun file => do
    if engine.files.isFile file then
      let path := engine.files.canonical file
      -- a cycle is reported as one even where no level is left
      if path ∈ stack then throw (.circular path stack)
      else
        match levels with
        | 0 => throw (.tooDeep path engine.maxIncludeDepth)
        | levels + 1 =>
          match engine.files.read file with
          | .error cause =>
            record (.unreadableSkipped file cause)
            return []
          | .ok content =>
            record (.included file stack)
            renderBuffer engine fields levels (stack ++ [path]) (Path.directory file) content
    else
      record (.missingSkipped file)
      return []) called

structure Rendered where
  output : Text
  assets : HeadAssets
deriving DecidableEq

def start (state : σ) (steps : RunM σ Text) : Except RenderError Rendered × Run σ :=
  let (result, run) := steps.run.run { state }
  (result.map fun output => ⟨output, run.assets⟩, run)

def render (engine : Engine σ) (fields : Fields) (base : Path) (template : Text) (state : σ) :
    Except RenderError Rendered × Run σ :=
  start state (engine.renderBuffer fields engine.maxIncludeDepth [] base template)

def renderFile (engine : Engine σ) (fields : Fields) (path : Path) (state : σ) :
    Except RenderError Rendered × Run σ :=
  match engine.files.read path with
  | .error cause => (.error (.unreadable path cause), { state })
  | .ok template =>
    start state (engine.renderBuffer fields engine.maxIncludeDepth [engine.files.canonical path]
      (Path.directory path) template)

end Engine

end Folio.Render
