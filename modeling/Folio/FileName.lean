import Folio.Config.Basic
import Folio.Content.Tags

/-!
# File names

A value names a file if it ends in a name with one of the extensions that the configuration allows.
-/

namespace Folio.FileName

def allowedTypes (config : Config) : List Text :=
  ((Text.splitOn config.content.listSeparator config.files.allowedTypes).map fun item =>
    Text.asciiLower (Text.trim item)).filter (· ≠ [])

/-- What follows the last point of a name. A point at the start of a name begins no extension, and the
name `..` has none. -/
def extension? (name : Text) : Option Text :=
  if name = ['.', '.'] then none
  else
    let extension := Text.afterLast '.' name
    if extension.length + 1 < name.length then some extension else none

/-- Whether a value names a file. A query does not count. -/
def isFileName (config : Config) (value : Text) : Bool :=
  match extension? (Text.afterLast '/' (value.takeWhile (· ≠ '?'))) with
  | some extension => Text.asciiLower extension ∈ allowedTypes config
  | none => false

end Folio.FileName
