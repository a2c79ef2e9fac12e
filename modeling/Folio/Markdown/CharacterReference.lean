import Folio.Markdown.NamedCharacters
import Folio.Number.Digits
import Folio.Text.Step
import Folio.Unicode.Class

/-!
# References to characters

A character is written by its name or its number between an ampersand and a semicolon. Outside of code
and HTML a backslash takes the meaning from the punctuation character that follows it.
-/

namespace Folio.Markdown

/-- The characters that white space of the format consists of, where all line ends are line feeds. -/
def isSpace (c : Char) : Bool := c = ' ' || ('\t' ≤ c && c ≤ '\x0c')

def isLineSpace (c : Char) : Bool := isSpace c && c ≠ '\n'

def namedCharacter? (name : Text) : Option Text := do
  let group ← namedCharacters.find? fun group => name.head? = some group.1
  (Text.words isSpace group.2.toList).findSome? fun entry => do
    let codes ← Text.dropPrefix? (name ++ ['=']) entry
    return (Text.splitAtChar '+' codes).map fun digits => Char.ofNat (Digits.toNat 16 digits)

/-- The character with a number. Zero stands for the replacement character. -/
def numberedCharacter? (n : Nat) : Option Text :=
  if n = 0 then some ['\uFFFD'] else if h : n.isValidChar then some [Char.ofNatAux n h] else none

def readNumber? (base limit : Nat) (isDigit : Char → Bool) (t : Text) : Option (Text.Step Text t) :=
  let digits := (t.take limit).takeWhile isDigit
  if digits.isEmpty then none
  else
    match h : t.drop digits.length with
    | ';' :: rest =>
      have shorter : rest.length < t.length := by
        have := congrArg List.length h
        simp only [List.length_drop, List.length_cons] at this
        omega
      (numberedCharacter? (Digits.toNat base digits)).map fun value => ⟨value, rest, shorter⟩
    | _ => none

def readName? (t : Text) : Option (Text.Step Text t) :=
  match h : t.dropWhile Unicode.isAsciiAlphanumeric with
  | ';' :: rest =>
    have shorter : rest.length < t.length := by
      have := Text.length_dropWhile_le Unicode.isAsciiAlphanumeric t
      rw [h, List.length_cons] at this
      exact Nat.lt_of_succ_le this
    (namedCharacter? (t.takeWhile Unicode.isAsciiAlphanumeric)).map fun value =>
      ⟨value, rest, shorter⟩
  | _ => none

def readReference? (t : Text) : Option (Text.Step Text t) :=
  match t with
  | '#' :: x :: rest =>
    if x = 'x' || x = 'X' then
      (readNumber? 16 6 Digits.isHex rest).map (·.widen (by simp only [List.length_cons]; omega))
    else (readNumber? 10 7 Char.isDigit (x :: rest)).map (·.widen (by simp only [List.length_cons]; omega))
  | t => readName? t

def unescape (t : Text) : Text :=
  match t with
  | [] => []
  | '\\' :: c :: rest =>
    if Unicode.isAsciiPunctuation c then c :: unescape rest else '\\' :: unescape (c :: rest)
  | '&' :: rest =>
    match readReference? rest with
    | some ⟨value, after, shorter⟩ =>
      have : after.length < rest.length + 1 := Nat.lt_succ_of_lt shorter
      value ++ unescape after
    | none => '&' :: unescape rest
  | c :: rest => c :: unescape rest
termination_by t.length
decreasing_by
  all_goals
    simp only [List.length_cons]
    omega

end Folio.Markdown
