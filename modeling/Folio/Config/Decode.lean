import Folio.Config.Basic
import Folio.Files.FileTree
import Folio.Text.Quoted
import Folio.Toml.Document

/-!
# Reading configurations

A configuration is a document with a table for each section. What is missing has its default; what is
unknown or of the wrong type is an error with its line. A section may also be an array that gives its
fields in order.
-/

namespace Folio.Config

open Toml (Place Value Entries)

inductive Mismatch where
  | unknownField (name : Text) (known : List String)
  | wrongType (found : Text) (expected : String)
  | wrongValue (found : Text) (expected : String)
deriving DecidableEq, Inhabited

def expectedNames (names : List String) : Text :=
  let quoted := names.map fun name => '`' :: name.toList ++ ['`']
  match quoted with
  | [] => "there are no fields".toList
  | [a] => "expected ".toList ++ a
  | [a, b] => "expected ".toList ++ a ++ " or ".toList ++ b
  | all => "expected one of ".toList ++ Text.join ", ".toList all

def Mismatch.message : Mismatch → Text
  | .unknownField name known =>
    "unknown field `".toList ++ name ++ "`, ".toList ++ expectedNames known
  | .wrongType found expected =>
    "invalid type: ".toList ++ found ++ ", expected ".toList ++ expected.toList
  | .wrongValue found expected =>
    "invalid value: ".toList ++ found ++ ", expected ".toList ++ expected.toList

structure Misfit where
  place : Place
  mismatch : Mismatch
deriving DecidableEq, Inhabited

def describe : Value → Text
  | .string s => "string ".toList ++ Text.quoted s
  | .integer n => "integer `".toList ++ (toString n).toList ++ ['`']
  | .float x => "floating point `".toList ++ x.text ++ ['`']
  | .boolean b => "boolean `".toList ++ (toString b).toList ++ ['`']
  | .datetime => "map".toList
  | .array _ => "sequence".toList
  | .tables _ => "sequence".toList
  | .table _ _ => "map".toList

def wrongType {α : Type} (place : Place) (value : Value) (expected : String) : Except Misfit α :=
  .error ⟨place, .wrongType (describe value) expected⟩

def decodeText (expected : String) (place : Place) : Value → Except Misfit Text
  | .string s => .ok s
  | value => wrongType place value expected

def decodeBool (place : Place) : Value → Except Misfit Bool
  | .boolean b => .ok b
  | value => wrongType place value "a boolean"

def decodeNat (place : Place) : Value → Except Misfit Nat
  | .integer n =>
    if n < 0 then .error ⟨place, .wrongValue (describe (.integer n)) "usize"⟩ else .ok n.toNat
  | value => wrongType place value "usize"

structure Field (α : Type) where
  name : String
  set : Place → Value → α → Except Misfit α

/-- The name under which a date shows its parts. -/
def datetimeField : Text := "$__toml_private_datetime".toList

def setNamed {α : Type} (fields : List (Field α)) : Entries → α → Except Misfit α
  | [], part => .ok part
  | entry :: entries, part =>
    match fields.find? (·.name.toList = entry.1) with
    | none => .error ⟨entry.2.1, .unknownField entry.1 (fields.map Field.name)⟩
    | some field => do
      setNamed fields entries (← field.set (Toml.placeOf entry) entry.2.2.2 part)

/-- Sets the fields of a section to items in order; items that are left over do not count. -/
def setOrdered {α : Type} : List (Field α) → List (Place × Value) → α → Except Misfit α
  | field :: fields, (place, value) :: items, part => do
    setOrdered fields items (← field.set place value part)
  | _, _, part => .ok part

def decodeSection {α : Type} (name : String) (fields : List (Field α)) (default : α) (place : Place) :
    Value → Except Misfit α
  | .table _ entries => setNamed fields entries default
  | .array items => setOrdered fields items default
  | .tables items =>
    setOrdered fields (items.map fun item => (item.1, .table .header item.2)) default
  | .datetime => .error ⟨place, .unknownField datetimeField (fields.map Field.name)⟩
  | value => wrongType place value ("struct " ++ name)

def siteFields : List (Field Site) :=
  [⟨"settings", fun p v s => return { s with settings := ← decodeText "path string" p v }⟩,
    ⟨"themes", fun p v s => return { s with themes := ← decodeText "path string" p v }⟩,
    ⟨"name", fun p v s => return { s with name := ← decodeText "a string" p v }⟩]

def contentFields : List (Field Content.Format) :=
  [⟨"block_separator", fun p v s => return { s with blockSeparator := ← decodeText "a string" p v }⟩,
    ⟨"pair_separator", fun p v s => return { s with pairSeparator := ← decodeText "a string" p v }⟩,
    ⟨"list_separator", fun p v s => return { s with listSeparator := ← decodeText "a string" p v }⟩,
    ⟨"markdown", fun p v s => return { s with markdown := ← decodeBool p v }⟩]

def markupFields : List (Field Markup.Syntax) :=
  [⟨"open", fun p v s => return { s with opening := ← decodeText "a string" p v }⟩,
    ⟨"close", fun p v s => return { s with closing := ← decodeText "a string" p v }⟩,
    ⟨"site", fun p v s => return { s with siteWord := ← decodeText "a string" p v }⟩,
    ⟨"page", fun p v s => return { s with pageWord := ← decodeText "a string" p v }⟩,
    ⟨"tool", fun p v s => return { s with toolWord := ← decodeText "a string" p v }⟩,
    ⟨"extension", fun p v s => return { s with extensionWord := ← decodeText "a string" p v }⟩,
    ⟨"include", fun p v s => return { s with includeWord := ← decodeText "a string" p v }⟩]

def renderFields : List (Field Render) :=
  [⟨"max_include_depth", fun p v s => return { s with maxIncludeDepth := ← decodeNat p v }⟩,
    ⟨"debug", fun p v s => return { s with debug := ← decodeBool p v }⟩]

def filesFields : List (Field Files) :=
  [⟨"allowed_types", fun p v s => return { s with allowedTypes := ← decodeText "a string" p v }⟩]

def sections : List (Field Config) :=
  [⟨"site", fun p v c => return { c with site := ← decodeSection "SiteSection" siteFields {} p v }⟩,
    ⟨"parse", fun p v c =>
      return { c with content := ← decodeSection "ParseConfig" contentFields {} p v }⟩,
    ⟨"markup", fun p v c =>
      return { c with markup := ← decodeSection "MarkupConfig" markupFields {} p v }⟩,
    ⟨"render", fun p v c =>
      return { c with render := ← decodeSection "RenderConfig" renderFields {} p v }⟩,
    ⟨"files", fun p v c =>
      return { c with files := ← decodeSection "FilesConfig" filesFields {} p v }⟩]

def ofEntries (entries : Entries) : Except Misfit Config := setNamed sections entries {}

inductive LoadError where
  | unreadable (path : Path) (cause : FileError)
  /-- The document does not fit; without a mismatch it is no document at all. -/
  | malformed (path : Option Path) (line : Nat) (mismatch : Option Mismatch)
deriving DecidableEq, Inhabited

/-- The words for an error. What is wrong with a text that is no document is not told apart. -/
def LoadError.message : LoadError → Text
  | .unreadable path _ => "cannot read config `".toList ++ path ++ ['`']
  | .malformed path line mismatch =>
    let source := match path with
      | some path => '`' :: path ++ ['`']
      | none => "config".toList
    "cannot parse ".toList ++ source ++ " at line ".toList ++ Text.ofNat line ++ ": ".toList ++
      (match mismatch with
        | some mismatch => mismatch.message
        | none => ['*'])

def parse (path : Option Path) (document : Text) : Except LoadError Config :=
  match Toml.read document with
  | .error place => .error (.malformed path (Toml.lineOf document place) none)
  | .ok entries =>
    match ofEntries entries with
    | .error misfit =>
      .error (.malformed path (Toml.lineOf document misfit.place) (some misfit.mismatch))
    | .ok config => .ok config

def load (files : FileTree) (path : Path) : Except LoadError Config :=
  match files.read path with
  | .error cause => .error (.unreadable path cause)
  | .ok document => parse (some path) document

end Folio.Config
