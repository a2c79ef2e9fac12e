import Folio.Markdown.CharacterReference
import Folio.Text.Trim

/-!
# Lines

A line is read from its start, column by column, because tabs reach to the next multiple of four
columns and may be used up in parts. This module also recognises the lines that are marked as a whole.
-/

namespace Folio.Markdown

structure Cursor where
  rest : Text
  column : Nat := 0
  /-- The number of columns that are left of a tab just before the rest. -/
  pending : Nat := 0
deriving Inhabited

namespace Cursor

def blank? (c : Cursor) : Option Cursor :=
  if 0 < c.pending then some { c with column := c.column + 1, pending := c.pending - 1 }
  else
    match c.rest with
    | ' ' :: t => some ⟨t, c.column + 1, 0⟩
    | '\t' :: t => some ⟨t, c.column + 1, 3 - c.column % 4⟩
    | _ => none

/-- The cursor after at most `n` columns of blank space, and their number. -/
def skip : Nat → Cursor → Nat × Cursor
  | 0, c => (0, c)
  | n + 1, c =>
    match c.blank? with
    | some d =>
      let (count, e) := skip n d
      (count + 1, e)
    | none => (0, c)

def drop (n : Nat) (c : Cursor) : Cursor := ⟨c.rest.drop n, c.column + n, 0⟩

def text (c : Cursor) : Text := List.replicate c.pending ' ' ++ c.rest

def isBlank (c : Cursor) : Bool := c.rest.all isLineSpace

end Cursor

/-- Whether a line is a rule: three or more of one mark, with blanks between them. -/
def isRule (line : Text) : Bool :=
  match line.filter (!isLineSpace ·) with
  | [] => false
  | mark :: marks => mark ∈ ['-', '_', '*'] && marks.all (· = mark) && 2 ≤ marks.length

def heading? (line : Text) : Option (Nat × Text) :=
  let level := (line.takeWhile (· = '#')).length
  let rest := line.drop level
  if 1 ≤ level && level ≤ 6 && rest.head?.all isSpace then some (level, rest) else none

def underline? (line : Text) : Option Nat :=
  let underlines (mark : Char) : Bool :=
    line.head? = some mark && (line.dropWhile (· = mark)).all isLineSpace
  if underlines '=' then some 1 else if underlines '-' then some 2 else none

structure Fence where
  mark : Char
  length : Nat
  indent : Nat
  info : Text
deriving DecidableEq, Inhabited

/-- The fence in a line at a distance from the margin. A fence of backquotes has none after it. -/
def fence? (indent : Nat) (line : Text) : Option Fence := do
  let mark ← line.head?
  let length := (line.takeWhile (· = mark)).length
  let info := line.drop length
  if mark ∈ ['\x60', '~'] && 3 ≤ length && !(mark = '\x60' && mark ∈ info) then
    some ⟨mark, length, indent, Text.dropEndWhile isSpace (info.dropWhile isLineSpace)⟩
  else none

def Fence.isClosedBy (fence : Fence) (line : Text) : Bool :=
  fence.length ≤ (line.takeWhile (· = fence.mark)).length &&
    (line.dropWhile (· = fence.mark)).all isLineSpace

def Fence.language (fence : Fence) : Text := (unescape fence.info).takeWhile (· ≠ ' ')

structure ListMarker where
  mark : Char
  number : Option Nat
  width : Nat
deriving DecidableEq, Inhabited

def listMark? (line : Text) : Option (Char × Option Nat × Nat) :=
  let digits := line.takeWhile Char.isDigit
  match line.drop digits.length with
  | mark :: _ =>
    if digits = [] then
      if mark ∈ ['-', '+', '*'] && !isRule line then some (mark, none, 1) else none
    else if mark ∈ ['.', ')'] && digits.length ≤ 9 then
      some (mark, some (Digits.toNat 10 digits), digits.length + 1)
    else none
  | [] => none

/-- The list marker at the start, and what follows it. At most four blanks belong to a marker; where
there are more, or none but the item is empty, it has one. -/
def listMarker? (c : Cursor) : Option (ListMarker × Cursor) := do
  let (mark, number, length) ← listMark? c.rest
  let after := c.drop length
  let (count, next) := after.skip 1
  if count = 0 && !after.rest.isEmpty then none
  else if next.isBlank then some (⟨mark, number, length + 1⟩, next)
  else
    let (more, last) := next.skip 4
    if more < 4 then some (⟨mark, number, length + 1 + more⟩, last)
    else some (⟨mark, number, length + 1⟩, next)

end Folio.Markdown
