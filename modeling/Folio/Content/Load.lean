import Folio.Content.Parse
import Folio.Files.FileTree
import Folio.Markdown.Html

/-!
# Loading content

Content files are read from a file tree. Values of several lines are rendered as Markdown; a value of
one line is never wrapped in a paragraph.
-/

namespace Folio.Content

inductive LoadError where
  | unreadable (path : Path) (cause : FileError)
  | malformed (error : ParseError)
deriving DecidableEq, Inhabited

def LoadError.message : LoadError → Text
  | .unreadable path _ => "IO error when reading `".toList ++ path ++ ['`']
  | .malformed error => error.message

/-- A value as HTML, if it has several lines. -/
def renderValue (value : Text) : Text :=
  if '\n' ∈ value then Markdown.toHtml value else value

def renderFields (fields : FieldMap) : FieldMap := fields.mapValues renderValue

def loadRaw (files : FileTree) (format : Format) (path : Path) : Except LoadError FieldMap :=
  match files.read path with
  | .error cause => .error (.unreadable path cause)
  | .ok t =>
    match parse format t with
    | .error error => .error (.malformed error)
    | .ok fields => .ok fields

def load (files : FileTree) (format : Format) (path : Path) : Except LoadError FieldMap :=
  (loadRaw files format path).map fun fields =>
    if format.markdown then renderFields fields else fields

end Folio.Content
