import Folio.Markdown.Emphasis
import Folio.Markdown.Link
import Folio.Markdown.Tag

/-!
# Running text

Running text is read from left to right. Code, raw HTML and addresses in angle brackets are taken whole,
so that no other mark in them counts. A closing bracket is matched with the last opening one, and makes a
link if a target follows or the text between the brackets is the label of one.
-/

namespace Folio.Markdown

structure Scope where
  definitions : Definitions := []
  footnotes : List Text := []
deriving Inhabited

inductive Reference where
  | target (target : Target)
  | footnote (label : Text)
deriving DecidableEq, Inhabited

structure Bracket where
  image : Bool
  active : Bool := true
  source : Text
  parts : List Part
deriving Inhabited

structure Reading where
  parts : List Part := []
  brackets : List Bracket := []
deriving Inhabited

def Bracket.text (b : Bracket) : Text := if b.image then ['!', '['] else ['[']

def Reading.push (i : Inline) (r : Reading) : Reading := { r with parts := .inline i :: r.parts }

def Reading.dropBracket (r : Reading) : Reading :=
  match r.brackets with
  | [] => r
  | b :: bs => ⟨r.parts ++ .inline (.text b.text) :: b.parts, bs⟩

def Reading.dropBrackets : Nat → Reading → Reading
  | 0, r => r
  | n + 1, r => dropBrackets n r.dropBracket

def Reading.finish (r : Reading) : List Inline :=
  resolve (r.dropBrackets r.brackets.length).parts.reverse

/-- The text up to a run of `n` backquotes, and what follows it, after `count` backquotes. -/
def takeCode (n : Nat) : Nat → Text → Option (Text × Text)
  | count, [] => if count = n then some ([], []) else none
  | count, c :: t =>
    if c = '\x60' then takeCode n (count + 1) t
    else if count = n then some ([], c :: t)
    else (takeCode n 0 t).map fun r => (List.replicate count '\x60' ++ c :: r.1, r.2)

/-- Code as it is meant: line ends are blanks, and one blank at each end is left out, unless there are
only blanks. -/
def codeText (t : Text) : Text :=
  let t := t.map fun c => if c = '\n' then ' ' else c
  if t.head? = some ' ' && t.getLast? = some ' ' && t.any (· ≠ ' ') then t.tail.dropLast else t

def readCode? (n : Nat) (t : Text) : Option (Text × Text) :=
  (takeCode n 0 t).map fun r => (codeText r.1, r.2)

def readAddress? (t : Text) : Option (Text × Text) := do
  let scheme := t.takeWhile fun c => Unicode.isAsciiAlphanumeric c || c ∈ ['.', '-', '+']
  let body ← Text.dropPrefix? [':'] (t.drop scheme.length)
  let path := body.takeWhile fun c => ' ' < c && c ≠ '<' && c ≠ '>'
  let rest ← Text.dropPrefix? ['>'] (body.drop path.length)
  if scheme.head?.any Char.isAlpha && 2 ≤ scheme.length && scheme.length ≤ 32 then
    some (scheme ++ ':' :: path, rest)
  else none

def isHostLabel (t : Text) : Bool :=
  t ≠ [] && t.length ≤ 63 && t.all (fun c => Unicode.isAsciiAlphanumeric c || c = '-') &&
    t.head? ≠ some '-' && t.getLast? ≠ some '-'

def readMailAddress? (t : Text) : Option (Text × Text) := do
  let user := t.takeWhile fun c =>
    Unicode.isAsciiAlphanumeric c || c ∈ ".!#$%&'*+/=?^_\x60\x7b|\x7d~-".toList
  let body ← Text.dropPrefix? ['@'] (t.drop user.length)
  let host := body.takeWhile fun c => Unicode.isAsciiAlphanumeric c || c = '-' || c = '.'
  let rest ← Text.dropPrefix? ['>'] (body.drop host.length)
  if user ≠ [] && (Text.splitAtChar '.' host).all isHostLabel then
    some (user ++ '@' :: host, rest)
  else none

def readAngle? (t : Text) : Option (Inline × Text) :=
  match readAddress? t with
  | some (address, rest) => some (.link address [] [.text address], rest)
  | none =>
    match readMailAddress? t with
    | some (address, rest) => some (.link ("mailto:".toList ++ address) [] [.text address], rest)
    | none =>
      (skipHtml? t).map fun rest => (.html ('<' :: t.take (t.length - rest.length)), rest)

def isFootnoteLabel (t : Text) : Bool := t.head? = some '^' && t.tail.head? ≠ some ']'

def Scope.find? (scope : Scope) (source : Text) : Option Reference :=
  let closed := source ++ [']']
  if isFootnoteLabel closed then
    match readFootnoteLabel? closed with
    | some (label, []) =>
      if labelKey label ∈ scope.footnotes then some (.footnote label) else none
    | _ => none
  else
    match readLabel? closed with
    | some (label, []) => (scope.definitions.find? label).map .target
    | _ => none

/-- What a text between two brackets refers to if `t` follows, and what follows the reference. A label
that follows counts in place of the text. -/
def Scope.reference? (scope : Scope) (source t : Text) : Option (Reference × Text) :=
  let short (rest : Text) : Option (Reference × Text) :=
    (scope.find? source).map fun
      | .target target => (.target target, rest)
      | .footnote label => (.footnote label, t)
  match t with
  | '(' :: u =>
    match readTarget? u with
    | some (target, rest) => some (.target target, rest)
    | none => short t
  | '[' :: ']' :: u => short u
  | '[' :: u =>
    if isFootnoteLabel u then short t
    else
      match readLabel? u with
      | some (label, rest) => (scope.definitions.find? label).map fun target => (.target target, rest)
      | none => short t
  | _ => short t

/-- The reading after a closing bracket that `t` follows, and what follows the reference if the bracket
makes one. No link stands in another, and nothing stands around a footnote. -/
def Reading.closeBracket (scope : Scope) (r : Reading) (t : Text) : Reading × Text :=
  let literal := r.dropBracket.push (.text [']'])
  match r.brackets with
  | [] => (literal, t)
  | b :: bs =>
    if !b.active then (literal, t)
    else
      match scope.reference? (b.source.take (b.source.length - (t.length + 1))) t with
      | none => (literal, t)
      | some (.target target, rest) =>
        let content := resolve r.parts.reverse
        if b.image then
          (⟨.inline (.image target.destination target.title content) :: b.parts, bs⟩, rest)
        else
          (⟨.inline (.link target.destination target.title content) :: b.parts,
            bs.map fun b => { b with active := b.active && b.image }⟩, rest)
      | some (.footnote label, rest) =>
        let parts := if b.image then .inline (.text ['!']) :: b.parts else b.parts
        (⟨.inline (.footnote label) :: parts, bs.map fun b => { b with active := false }⟩, rest)

def isPlain (c : Char) : Bool :=
  !isSpace c && c ∉ ['\\', '\x60', '<', '&', '!', '[', ']', '*', '_', '~', '\x00']

/-- The reading after the character `c`, which follows `before` and which `t` follows, and what is left
of the text. -/
def Reading.step (scope : Scope) (r : Reading) (before : Option Char) (c : Char) (t : Text) :
    Reading × Text :=
  let literal := (r.push (.text [c]), t)
  let newLine (i : Inline) (t : Text) := (r.push i, t.dropWhile isLineSpace)
  if isSpace c then
    let blanks := (c :: t).takeWhile isLineSpace
    match (c :: t).dropWhile isLineSpace with
    | [] => (r, [])
    | '\n' :: rest => newLine (if 2 ≤ blanks.length then .hardBreak else .softBreak) rest
    | rest => (r.push (.text blanks), rest)
  else if c = '\\' then
    match t with
    | '\n' :: rest => newLine .hardBreak rest
    | d :: rest => if Unicode.isAsciiPunctuation d then (r.push (.text [d]), rest) else literal
    | [] => literal
  else if c = '\x60' then
    let run := (c :: t).takeWhile (· = c)
    let rest := t.dropWhile (· = c)
    match readCode? run.length rest with
    | some (code, rest) => (r.push (.code code), rest)
    | none => (r.push (.text run), rest)
  else if c = '<' then
    match readAngle? t with
    | some (i, rest) => (r.push i, rest)
    | none => literal
  else if c = '&' then
    match readReference? t with
    | some step => (r.push (.text step.value), step.rest)
    | none => literal
  else if c = '!' then
    match t with
    | '[' :: rest => (⟨[], { image := true, source := rest, parts := r.parts } :: r.brackets⟩, rest)
    | _ => literal
  else if c = '[' then
    (⟨[], { image := false, source := t, parts := r.parts } :: r.brackets⟩, t)
  else if c = ']' then r.closeBracket scope t
  else if c ∈ ['*', '_', '~'] then
    let run := (c :: t).takeWhile (· = c)
    let rest := t.dropWhile (· = c)
    let opens := canOpen c run.length before rest.head?
    let closes := canClose c run.length before rest.head?
    if (opens || closes) && !(c = '~' && 2 < run.length) then
      ({ r with parts := .run ⟨c, run.length, opens, closes⟩ :: r.parts }, rest)
    else (r.push (.text run), rest)
  else if c = '\x00' then (r.push (.text ['\uFFFD']), t)
  else (r.push (.text (c :: t.takeWhile isPlain)), t.dropWhile isPlain)

/-- The reading after a text that follows `before`. It takes at most `n` steps. -/
def Reading.run (scope : Scope) : Nat → Option Char → Reading → Text → Reading
  | 0, _, r, _ => r
  | _, _, r, [] => r
  | n + 1, before, r, c :: t =>
    let (next, rest) := r.step scope before c t
    Reading.run scope n ((c :: t).take (t.length + 1 - rest.length)).getLast? next rest

def readInlines (scope : Scope) (t : Text) : List Inline :=
  (Reading.run scope t.length none {} t).finish

end Folio.Markdown
