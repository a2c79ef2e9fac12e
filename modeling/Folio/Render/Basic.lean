import Folio.FieldMap
import Folio.Files.FileTree
import Folio.HeadAssets
import Folio.Markup.Substitute
import Folio.Registry

/-!
# Runs

What a template is rendered with, what happens while it is rendered and how that can fail. A run hands
on the state of the tools and extensions, collects head assets and keeps a journal of events.
-/

namespace Folio.Render

open Markup

/-- Why rendering stops. Broken placeholders never stop it. -/
inductive RenderError where
  | unreadable (path : Path) (cause : FileError)
  /-- A file includes itself, by way of the files of `stack`. -/
  | circular (path : Path) (stack : List Path)
  | tooDeep (path : Path) (depth : Nat)
deriving DecidableEq, Inhabited

def RenderError.message : RenderError → Text
  | .unreadable path _ => "IO error when reading template `".toList ++ path ++ ['`']
  | .circular path stack =>
    "circular include of `".toList ++ path ++ "` (via ".toList ++
      Text.join " -> ".toList (stack.map fun file => '`' :: file ++ ['`']) ++ [')']
  | .tooDeep path depth =>
    "include of `".toList ++ path ++ "` exceeds the maximum depth of ".toList ++ Text.ofNat depth

structure Fields where
  site : FieldMap := .empty
  page : FieldMap := .empty
deriving Inhabited

def Fields.get? (fields : Fields) (scope : Scope) (name : Text) : Option Text :=
  match scope with
  | .site => fields.site.get? name
  | .page => fields.page.get? name

inductive Event where
  | called (callee : Callee) (name : Text) (options : Options)
  | unknownName (callee : Callee) (name : Text)
  | optionsRejected (rejection : Options.Rejection)
  | absoluteSkipped (path : Path)
  | missingSkipped (path : Path)
  | unreadableSkipped (path : Path) (cause : FileError)
  /-- A file is included; `stack` holds the files that are being rendered around it. -/
  | included (path : Path) (stack : List Path)

structure Run (σ : Type) where
  state : σ
  assets : HeadAssets := .empty
  events : List Event := []

/-- A step of a run that may stop it. What happened until then is kept. -/
abbrev RunM (σ : Type) : Type → Type := ExceptT RenderError (StateM (Run σ))

def record {σ : Type} {m : Type → Type} [MonadState (Run σ) m] (event : Event) : m Unit :=
  modify fun run => { run with events := run.events ++ [event] }

structure Invocation where
  callee : Callee
  name : Text
  options : Options

def invocations (events : List Event) : List Invocation :=
  events.filterMap fun event =>
    match event with
    | .called callee name options => some ⟨callee, name, options⟩
    | _ => none

end Folio.Render
