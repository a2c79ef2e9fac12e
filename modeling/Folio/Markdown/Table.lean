import Folio.Markdown.Basic
import Folio.Markdown.CharacterReference
import Folio.Text.Trim

/-!
# Rows of tables

Vertical bars separate the cells of a row, and may stand at its ends too. The second row of a table
says how its columns are aligned.
-/

namespace Folio.Markdown

/-- The pieces of a line between its bars. A bar after a backslash separates nothing. -/
def splitAtBars : Text → List Text
  | [] => [[]]
  | '\\' :: '|' :: t =>
    match splitAtBars t with
    | [] => [['\\', '|']]
    | piece :: pieces => ('\\' :: '|' :: piece) :: pieces
  | c :: t =>
    if c = '|' then [] :: splitAtBars t
    else
      match splitAtBars t with
      | [] => [[c]]
      | piece :: pieces => (c :: piece) :: pieces

def unescapeBars : Text → Text
  | [] => []
  | '\\' :: '|' :: t => '|' :: unescapeBars t
  | c :: t => c :: unescapeBars t

def trimLine (t : Text) : Text := Text.dropEndWhile isLineSpace (t.dropWhile isLineSpace)

def cells (row : Text) : List Text :=
  let pieces := (splitAtBars (row.dropWhile isLineSpace)).map trimLine
  let pieces := if pieces.head? = some [] then pieces.tail else pieces
  let pieces := if pieces.getLast? = some [] then pieces.dropLast else pieces
  pieces.map unescapeBars

/-- Exactly `count` cells of a row: more are left out, and fewer are filled up with empty ones. -/
def fittedCells (count : Nat) (row : Text) : List Text :=
  (cells row ++ List.replicate count []).take count

def hasBar (line : Text) : Bool := 1 < (splitAtBars line).length

def alignment? (cell : Text) : Option Alignment :=
  let signs := cell.filter (· ≠ ' ')
  if '-' ∉ signs || signs.any (· ∉ ['-', ':']) then none
  else if ':' ∉ signs then some .unset
  else if signs.head? ≠ some ':' then some .right
  else if ':' ∈ signs.tail then some .center
  else some .left

def alignments? (line : Text) : Option (List Alignment) :=
  if hasBar line && line.all (· ∈ [' ', '-', ':', '|']) then (cells line).mapM alignment? else none

/-- The alignments of a table with the given first two lines. A line that ends with a backslash that
stands for itself cannot be the first one. -/
def tableColumns? (head second : Text) : Option (List Alignment) := do
  let columns ← alignments? second
  let oddEnd := (head.reverse.takeWhile (· = '\\')).length % 2 = 1
  if hasBar head && !oddEnd && (cells head).length = columns.length then some columns else none

end Folio.Markdown
