import Folio.Text.Basic

/-!
# Log messages

A message names the part of the program that it comes from. A line of the log is cut so that it fits
the width of the output in bytes; a character is never cut in two. Left out are the colours, the
clearing of a line before it is written, and the question how wide the terminal is: the width is the
one of an output that is no terminal.
-/

namespace Folio.Log

structure Entry where
  source : String
  message : Text
  debug : Bool := true
deriving DecidableEq, Inhabited

def width : Nat := 120

def label (source : String) : Text := '[' :: source.toList ++ [']', ' ']

def Entry.line (width : Nat) (entry : Entry) : Text :=
  -- a label that fills the line leaves no room for the message
  label entry.source ++ Text.takeBytes (width - Text.byteSize (label entry.source)) entry.message

def shown (verbose : Bool) (entries : List Entry) : List Text :=
  (entries.filter fun entry => verbose || !entry.debug).map (Entry.line width)

end Folio.Log
