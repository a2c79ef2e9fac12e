import Folio.Unicode.Class
import Folio.Unicode.Invisible
import Folio.Text.Basic

/-!
# Quoted text

A text in double quotes for messages to people who look for a mistake: quotes, backslashes and invisible
characters are escaped.
-/

namespace Folio.Text

def hexDigits (n : Nat) : Text := Nat.toDigits 16 n

def isInvisible (c : Char) : Bool :=
  c.toNat < 0x20 || c.toNat = 0x7F || Unicode.inRanges Unicode.invisibleRanges c.toNat

def escapeInvisible (c : Char) : Text :=
  match c with
  | '\x00' => ['\\', '0']
  | '\t' => ['\\', 't']
  | '\r' => ['\\', 'r']
  | '\n' => ['\\', 'n']
  | '"' => ['\\', '"']
  | '\\' => ['\\', '\\']
  | c => if isInvisible c then ['\\', 'u', '{'] ++ hexDigits c.toNat ++ ['}'] else [c]

def quoted (t : Text) : Text := '"' :: t.flatMap escapeInvisible ++ ['"']

/-- A path in double quotes, in which single quotes are escaped too. -/
def quotedPath (t : Text) : Text :=
  '"' :: t.flatMap (fun c => if c = '\'' then ['\\', '\''] else escapeInvisible c) ++ ['"']

end Folio.Text
