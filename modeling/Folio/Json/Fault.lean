import Folio.Text.Basic

/-!
# Faults of JSON texts

What is wrong with a text that is no JSON value, and where. A place is a line and a column; columns
count bytes.
-/

namespace Folio.Json

inductive Fault where
  | endInList
  | endInObject
  | endInString
  | endInValue
  | colonExpected
  | listCommaOrEndExpected
  | objectCommaOrEndExpected
  | wordExpected
  | valueExpected
  | invalidEscape
  | invalidNumber
  | numberOutOfRange
  | controlInString
  | nameExpected
  | loneSurrogate
  | trailingComma
  | trailingCharacters
  | unfinishedSurrogatePair
  | tooDeep
deriving DecidableEq, Inhabited

def Fault.message : Fault → String
  | .endInList => "EOF while parsing a list"
  | .endInObject => "EOF while parsing an object"
  | .endInString => "EOF while parsing a string"
  | .endInValue => "EOF while parsing a value"
  | .colonExpected => "expected `:`"
  | .listCommaOrEndExpected => "expected `,` or `]`"
  | .objectCommaOrEndExpected => "expected `,` or `\x7d`"
  | .wordExpected => "expected ident"
  | .valueExpected => "expected value"
  | .invalidEscape => "invalid escape"
  | .invalidNumber => "invalid number"
  | .numberOutOfRange => "number out of range"
  | .controlInString => "control character (\\u0000-\\u001F) found while parsing a string"
  | .nameExpected => "key must be a string"
  | .loneSurrogate => "lone leading surrogate in hex escape"
  | .trailingComma => "trailing comma"
  | .trailingCharacters => "trailing characters"
  | .unfinishedSurrogatePair => "unexpected end of hex escape"
  | .tooDeep => "recursion limit exceeded"

/-- A fault and its place, which is so many bytes into what was left of the text. -/
structure ReadError where
  fault : Fault
  rest : Text
  bytes : Nat := 0
deriving DecidableEq, Inhabited

def locate (line column : Nat) : Nat → Text → Nat × Nat
  | _, [] => (line, column)
  | bytes, c :: t =>
    if bytes < c.utf8Size then (line, column + bytes)
    else if c = '\n' then locate (line + 1) 0 (bytes - 1) t
    else locate line (column + c.utf8Size) (bytes - c.utf8Size) t

def ReadError.message (whole : Text) (e : ReadError) : Text :=
  let place := locate 1 0 (Text.byteSize whole - Text.byteSize e.rest + e.bytes) whole
  e.fault.message.toList ++ " at line ".toList ++ Text.ofNat place.1 ++ " column ".toList ++
    Text.ofNat place.2

end Folio.Json
