import Folio.Text.Trim
import Folio.Text.Transliteration

/-!
# Safe names

A safe name is made of small Latin letters, digits, `_`, `-` and, unless dots are removed, `.`, so
that it can stand as a file name or in an address. A text becomes one by spelling it in ASCII, dropping
articles, spelling out a few symbols and turning what is left over into low lines.
-/

namespace Folio.SafeName

def isWordChar (c : Char) : Bool := Unicode.isAsciiAlphanumeric c || c = '_'

def articles : List Text := ["a".toList, "an".toList, "the".toList]

def keepWord (word : Text) : Text := if word ∈ articles then [] else word

/-- Drops the articles of a text whose last word so far is `word`. -/
def dropArticlesFrom (word : Text) : Text → Text
  | [] => keepWord word
  | c :: t =>
    if isWordChar c then dropArticlesFrom (word ++ [c]) t
    else keepWord word ++ c :: dropArticlesFrom [] t

def dropArticles (t : Text) : Text := dropArticlesFrom [] t

def spellSymbol (c : Char) : Text :=
  match c with
  | '&' => "and".toList
  | '/' => "-".toList
  | '*' => "x".toList
  | '+' => "and".toList
  | '@' => "_at_".toList
  | c => [c]

def isSafe (removeDots : Bool) (c : Char) : Bool :=
  Unicode.isAsciiAlphanumeric c || c = '_' || c = '-' || (c = '.' && !removeDots)

def isSeparator (c : Char) : Bool := c = '_' || c = '-'

/-- Each run of one separator becomes a single one; a run that mixes both is kept. -/
def mergeSeparators : Text → Text
  | [] => []
  | [c] => [c]
  | c :: d :: t =>
    if isSeparator c && c = d then mergeSeparators (d :: t) else c :: mergeSeparators (d :: t)

/-- Drops the dots at the start, then the separators at both ends. -/
def trimEnds (t : Text) : Text :=
  -- dots behind a separator come to the front here, and stay
  Text.dropEndWhile isSeparator ((t.dropWhile (· = '.')).dropWhile isSeparator)

def spellOut (t : Text) : Text := (dropArticles (Text.asciiLower t)).flatMap spellSymbol

def safeChar (removeDots : Bool) (c : Char) : Char := if isSafe removeDots c then c else '_'

def ofAscii (removeDots : Bool) (t : Text) : Text :=
  mergeSeparators (trimEnds ((spellOut t).map (safeChar removeDots)))

/-- The safe name of a text that `spell` spells in ASCII. -/
def ofTextBy (spell : Text → Text) (removeDots : Bool) (t : Text) : Text :=
  ofAscii removeDots (spell (Text.trim t))

def ofText (removeDots : Bool) (t : Text) : Text := ofTextBy Transliteration.toAscii removeDots t

end Folio.SafeName
