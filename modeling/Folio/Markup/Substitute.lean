import Folio.Markup.Scan

/-!
# Substitution

Placeholders are replaced from left to right, in any monad: a replacement may depend on those before it
and may stop the substitution. A placeholder without a replacement stays as it is written. Replacements
are not scanned again.
-/

namespace Folio.Markup

variable {m : Type → Type} [Monad m]

def fill (replace : Token → m (Option Text)) : List Segment → m Text
  | [] => pure []
  | .text content :: segments => return content ++ (← fill replace segments)
  | .placeholder token raw :: segments => do
    let replacement ← replace token
    return replacement.getD raw ++ (← fill replace segments)

def substitute (s : Syntax) (replace : Token → m (Option Text)) (t : Text) : m Text :=
  fill replace (scan s t)

end Folio.Markup
