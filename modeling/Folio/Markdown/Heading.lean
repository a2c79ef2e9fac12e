import Folio.Markdown.Basic
import Folio.Markdown.CharacterReference
import Folio.Text.Trim

/-!
# Attributes of headings

A heading may end with attributes in braces: an identifier after a number sign, classes after full
stops, and other attributes with or without values.
-/

namespace Folio.Markdown

/-- The attributes with one more. The last identifier counts, and a word of one byte says nothing. -/
def Attributes.add (attributes : Attributes) (word : Text) : Attributes :=
  match word with
  | [] => attributes
  | ['#'] => attributes
  | ['.'] => attributes
  | '#' :: id => { attributes with id := some id }
  | '.' :: name => { attributes with classes := attributes.classes ++ [name] }
  | word =>
    if Text.byteSize word = 1 then attributes
    else { attributes with others := attributes.others ++ [(Text.cut? ['='] word).getD (word, [])] }

def Attributes.read (t : Text) : Attributes := (Text.words isSpace t).foldl Attributes.add {}

def splitAttributes (t : Text) : Text × Attributes :=
  match t.reverse.dropWhile isSpace with
  | '\x7d' :: inner =>
    let isInside (c : Char) : Bool := c ∉ ['\x7b', '\x7d', '<', '>', '\\', '\n']
    match inner.dropWhile isInside with
    | '\x7b' :: before => (before.reverse, Attributes.read (inner.takeWhile isInside).reverse)
    | _ => (t, {})
  | _ => (t, {})

def dropClosing (t : Text) : Text :=
  let t := Text.dropEndWhile isSpace t
  let body := Text.dropEndWhile (· = '#') t
  if body.getLast?.all isLineSpace then Text.dropEndWhile isSpace body else t

def readHeading (line : Text) : Text × Attributes :=
  let (t, attributes) := splitAttributes (line.dropWhile isLineSpace)
  (dropClosing t, attributes)

end Folio.Markdown
