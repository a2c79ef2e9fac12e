import Folio.Text.Basic

/-!
# Content formats

What separates the parts of a content file.
-/

namespace Folio.Content

structure Format where
  blockSeparator : Text := ['-']
  pairSeparator : Text := [':']
  listSeparator : Text := [',']
  markdown : Bool := true
deriving DecidableEq, Inhabited

end Folio.Content
