import Folio.Content.Block
import Folio.FieldMap

/-!
# Reading content

A content file becomes a field map: each block gives the field of its key, and a later block wins over
an earlier one with the same key. A file with a malformed block gives no field at all.
-/

namespace Folio.Content

/-- Why a text is no content. Blocks are counted from one. -/
inductive ParseError where
  | noPair (block : Nat) (snippet : Text)
  | invalidKey (block : Nat) (key : Text)
deriving DecidableEq, Inhabited

def ParseError.message : ParseError → Text
  | .noPair block snippet =>
    "block ".toList ++ Text.ofNat block ++ " has no key/value separator: `".toList ++ snippet ++ ['`']
  | .invalidKey block key =>
    "block ".toList ++ Text.ofNat block ++ " has an invalid key `".toList ++ key ++ ['`']

def snippetLength : Nat := 40

def snippet (block : Text) : Text :=
  ((Text.lines (Text.trim block)).headD []).take snippetLength

def isKey (t : Text) : Bool := t ≠ [] && t.all isKeyChar

def readBlock (format : Format) (number : Nat) (block : Text) : Except ParseError (Text × Text) :=
  match Text.cut? format.pairSeparator block with
  | none => .error (.noPair number (snippet block))
  | some (before, after) =>
    let key := Text.trim before
    if isKey key then .ok (key, Text.trim after) else .error (.invalidKey number key)

def readBlocks (format : Format) (number : Nat) : List Text → Except ParseError (List (Text × Text))
  | [] => .ok []
  | block :: blocks => do
    let field ← readBlock format number block
    let fields ← readBlocks format (number + 1) blocks
    return field :: fields

def blockTexts (format : Format) (t : Text) : List Text :=
  (splitBlocks format (Text.lines (Text.normalizeLineBreaks t))).map (Text.join ['\n'])

/-- The fields of a content text. A blank text has none. -/
def parse (format : Format) (t : Text) : Except ParseError FieldMap :=
  if Text.isBlank t then .ok .empty
  else return .ofList (← readBlocks format 1 (blockTexts format t))

def writeBlock (format : Format) (field : Text × Text) : Text :=
  field.1 ++ format.pairSeparator ++ field.2

/-- Fields as a content text: their blocks with a line of one block separator between them. -/
def write (format : Format) (m : FieldMap) : Text :=
  Text.join (['\n'] ++ format.blockSeparator ++ ['\n']) (m.toList.map (writeBlock format))

end Folio.Content
