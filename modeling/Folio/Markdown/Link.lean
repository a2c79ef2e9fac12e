import Folio.Markdown.CharacterReference
import Folio.Unicode.CaseFolding

/-!
# Targets of links

A link names its target in place, or by a label that a definition elsewhere in the document gives to
the target. Labels are compared without regard to case and to the extent of white space.
-/

namespace Folio.Markdown

structure Target where
  destination : Text
  title : Text := []
deriving DecidableEq, Inhabited

abbrev Definitions := List (Text × Target)

def labelKey (label : Text) : Text := Unicode.foldCase label

/-- The target of a label. The first definition of a label counts. -/
def Definitions.find? (definitions : Definitions) (label : Text) : Option Target :=
  definitions.lookup (labelKey label)

def takeLabel : Nat → Text → Option (Text × Text)
  | 0, _ => none
  | _, [] => none
  | _, ']' :: t => some ([], t)
  | _, '[' :: _ => none
  | n + 1, '\\' :: c :: t => (takeLabel n t).map fun r => ('\\' :: c :: r.1, r.2)
  | n + 1, c :: t => (takeLabel n t).map fun r => (c :: r.1, r.2)

/-- The label in a text that follows an opening bracket, and what follows the closing one. A label has
fewer than a thousand characters, and not only white space. -/
def readLabel? (t : Text) : Option (Text × Text) := do
  let (raw, rest) ← takeLabel 1000 t
  let label := Text.join [' '] (Text.words isSpace raw)
  if label = [] then none else some (label, rest)

/-- The label of a footnote in a text that follows an opening bracket, and what follows the closing
one. Such a label has a caret before it and stands in one line. -/
def readFootnoteLabel? (t : Text) : Option (Text × Text) := do
  let t ← Text.dropPrefix? ['^'] t
  let (raw, _) ← takeLabel 1000 t
  if '\n' ∈ raw then none else readLabel? t

def takePointed : Text → Option (Text × Text)
  | [] => none
  | '>' :: t => some ([], t)
  | '\\' :: c :: t =>
    if Unicode.isAsciiPunctuation c then (takePointed t).map fun r => ('\\' :: c :: r.1, r.2)
    else (takePointed (c :: t)).map fun r => ('\\' :: r.1, r.2)
  | c :: t =>
    if c = '<' || c = '\n' then none else (takePointed t).map fun r => (c :: r.1, r.2)

/-- The text up to a blank or a parenthesis that was not opened in it, and what follows. No more than
`limit + 1` parentheses may be open at once. -/
def takeBare (limit : Nat) : Nat → Text → Option (Text × Text)
  | depth, [] => if depth = 0 then some ([], []) else none
  | depth, '\\' :: c :: t =>
    if Unicode.isAsciiPunctuation c then
      (takeBare limit depth t).map fun r => ('\\' :: c :: r.1, r.2)
    else (takeBare limit depth (c :: t)).map fun r => ('\\' :: r.1, r.2)
  | depth, c :: t =>
    if c ≤ ' ' then if depth = 0 then some ([], c :: t) else none
    else if c = '(' then
      if limit < depth then none else (takeBare limit (depth + 1) t).map fun r => (c :: r.1, r.2)
    else if c = ')' then
      if depth = 0 then some ([], c :: t)
      else (takeBare limit (depth - 1) t).map fun r => (c :: r.1, r.2)
    else (takeBare limit depth t).map fun r => (c :: r.1, r.2)

def takeDestination? (limit : Nat) (t : Text) : Option (Text × Text) :=
  match t with
  | '<' :: t => takePointed t
  | t => takeBare limit 0 t

/-- The text up to a sign that closes a title, and what follows the sign. A title in parentheses has no
opening parenthesis. -/
def takeTitle (closing : Char) : Text → Option (Text × Text)
  | [] => none
  | '\\' :: c :: t =>
    if Unicode.isAsciiPunctuation c then (takeTitle closing t).map fun r => ('\\' :: c :: r.1, r.2)
    else (takeTitle closing (c :: t)).map fun r => ('\\' :: r.1, r.2)
  | c :: t =>
    if c = closing then some ([], t)
    else if c = '(' && closing = ')' then none
    else (takeTitle closing t).map fun r => (c :: r.1, r.2)

def dropIndents (t : Text) : Text :=
  match Text.lines t with
  | [] => []
  | line :: lines => Text.join ['\n'] (line :: lines.map (·.dropWhile isLineSpace))

def readTitle? (t : Text) : Option (Text × Text) := do
  let (title, rest) ← match t with
    | '"' :: t => takeTitle '"' t
    | '\'' :: t => takeTitle '\'' t
    | '(' :: t => takeTitle ')' t
    | _ => none
  return (unescape (dropIndents title), rest)

def readSpacedTitle? (t : Text) : Option (Text × Text) :=
  if t.head?.any isSpace then readTitle? (t.dropWhile isSpace) else none

def readTarget? (t : Text) : Option (Target × Text) := do
  let (destination, t) ← takeDestination? 5 (t.dropWhile isSpace)
  let (title, t) := (readSpacedTitle? t).getD ([], t)
  let rest ← Text.dropPrefix? [')'] (t.dropWhile isSpace)
  return (⟨unescape destination, title⟩, rest)

def endLine? (t : Text) : Option Text :=
  match t.dropWhile isLineSpace with
  | [] => some []
  | '\n' :: rest => some rest
  | _ => none

/-- The definition at the start of the text, as a label and its target, and the lines after it. A title
that something follows on its line does not belong to the definition. -/
def readDefinition? (t : Text) : Option (Text × Target × Text) := do
  let (label, t) ← readLabel? (← Text.dropPrefix? ['['] t)
  let t := (← Text.dropPrefix? [':'] t).dropWhile isSpace
  let (destination, rest) ← takeDestination? 1 t
  if rest.length = t.length then none
  let titled := do
    let (title, rest) ← readSpacedTitle? rest
    return (title, ← endLine? rest)
  let (title, rest) ← titled <|> (endLine? rest).map fun rest => ([], rest)
  return (label, ⟨unescape destination, title⟩, rest)

def takeDefinitions : Nat → Text → Definitions × Text
  | 0, t => ([], t)
  | n + 1, t =>
    match readDefinition? (t.dropWhile isLineSpace) with
    | none => ([], t)
    | some (label, target, rest) =>
      let (definitions, rest) := takeDefinitions n rest
      ((labelKey label, target) :: definitions, rest)

end Folio.Markdown
