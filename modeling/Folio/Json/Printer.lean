import Folio.Json.Value
import Folio.Number.Shortest

/-!
# Printing JSON

The compact form has no blanks. In strings the quote, the backslash and the controls are escaped and
all other characters stand for themselves.
-/

namespace Folio.Json

def hexDigit (n : Nat) : Char := "0123456789abcdef".toList.getD n '0'

def escapeChar (c : Char) : Text :=
  match c with
  | '"' => ['\\', '"']
  | '\\' => ['\\', '\\']
  | '\x08' => ['\\', 'b']
  | '\t' => ['\\', 't']
  | '\n' => ['\\', 'n']
  | '\x0c' => ['\\', 'f']
  | '\r' => ['\\', 'r']
  | c =>
    if c.toNat < 0x20 then
      ['\\', 'u', '0', '0', hexDigit (c.toNat / 16), hexDigit (c.toNat % 16)]
    else [c]

def quote (s : Text) : Text := '"' :: s.flatMap escapeChar ++ ['"']

def intText (n : Int) : Text :=
  if n < 0 then '-' :: Text.ofNat n.natAbs else Text.ofNat n.natAbs

/-- The text of a positive decimal. Positional notation is used from `10 ^ -5` up to, but not including,
`10 ^ 16`; it always shows a fraction. Otherwise the exponent has a sign. -/
def decimalText (d : Decimal) : Text :=
  let digits := Text.ofNat d.digits
  let count := digits.length
  let point : Int := count + d.exponent
  if 0 ≤ d.exponent && point ≤ 16 then digits ++ List.replicate d.exponent.toNat '0' ++ ['.', '0']
  else if 0 < point && point ≤ 16 then
    digits.take point.toNat ++ '.' :: digits.drop point.toNat
  else if -5 < point && point ≤ 0 then ['0', '.'] ++ List.replicate (-point).toNat '0' ++ digits
  else
    let mantissa := if count = 1 then digits else digits.take 1 ++ '.' :: digits.drop 1
    mantissa ++ (if point - 1 < 0 then ['e', '-'] else ['e', '+']) ++ Text.ofNat (point - 1).natAbs

def doubleText (x : Binary64) : Text :=
  (if x.negative then ['-'] else []) ++
    (if x.significand = 0 then ['0', '.', '0'] else decimalText x.shortest)

def numberText : Number → Text
  | .int n => intText n
  | .double x => doubleText x

mutual

def compact : Json → Text
  | .null => "null".toList
  | .bool true => "true".toList
  | .bool false => "false".toList
  | .number n => numberText n
  | .string s => quote s
  | .array items => '[' :: compactItems items ++ [']']
  | .object members => '{' :: compactMembers members ++ ['}']

def compactItems : List Json → Text
  | [] => []
  | [item] => compact item
  | item :: items => compact item ++ ',' :: compactItems items

def compactMembers : List (Text × Json) → Text
  | [] => []
  | [(name, value)] => quote name ++ ':' :: compact value
  | (name, value) :: members => quote name ++ ':' :: compact value ++ ',' :: compactMembers members

end

def compactStrings (fields : List (Text × Text)) : Text :=
  '{' :: Text.join [','] (fields.map fun field => quote field.1 ++ ':' :: quote field.2) ++ ['}']

def prettyStrings (fields : List (Text × Text)) : Text :=
  if fields = [] then ['{', '}']
  else
    ['{', '\n'] ++
      Text.join [',', '\n'] (fields.map fun field =>
        [' ', ' '] ++ quote field.1 ++ [':', ' '] ++ quote field.2) ++
      ['\n', '}']

end Folio.Json
