import Folio.Text.Basic
import Folio.Unicode.Class

/-!
# Trimming

Blanks at the ends of a text are the characters with the property White_Space.
-/

namespace Folio.Text

def dropEndWhile (p : Char → Bool) (t : Text) : Text := (t.reverse.dropWhile p).reverse

def trimStart (t : Text) : Text := t.dropWhile Unicode.isBlank

def trimEnd (t : Text) : Text := dropEndWhile Unicode.isBlank t

def trim (t : Text) : Text := trimEnd (trimStart t)

def isBlank (t : Text) : Bool := t.all Unicode.isBlank

end Folio.Text
