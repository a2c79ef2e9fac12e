import Folio.Content.Format
import Folio.Text.Trim

/-!
# Blocks

A content file is a sequence of blocks, each of them a key, the pair separator and a value. A line made
of block separators ends a block where the next line that is not blank starts with a key and the pair
separator; elsewhere such a line belongs to the value.
-/

namespace Folio.Content

def isKeyChar (c : Char) : Bool := Unicode.isWord c || c = '.' || c = '-'

/-- Whether a text is one or more copies of `block` with blanks after them. -/
def isSeparatorLine (block line : Text) : Bool :=
  match h : Text.dropPrefix? block line with
  | none => false
  | some rest =>
    Text.isBlank rest ||
      if hb : block = [] then false
      else
        have : rest.length < line.length := by
          rw [Text.dropPrefix?_eq_some_iff.1 h, List.length_append]
          exact Nat.lt_add_of_pos_left (List.length_pos_iff.2 hb)
        isSeparatorLine block rest
termination_by line.length

/-- Whether `pair` stands at the start of a text or after some of the key characters it starts with. -/
def pairFollowsKey (pair : Text) : Text → Bool
  | [] => pair = []
  | c :: t => Text.startsWith pair (c :: t) || isKeyChar c && pairFollowsKey pair t

def isKeyLine (pair : Text) : Text → Bool
  | [] => false
  | c :: t => isKeyChar c && pairFollowsKey pair t

def keyLineFollows (format : Format) (lines : List Text) : Bool :=
  match lines.dropWhile Text.isBlank with
  | [] => false
  | line :: _ => isKeyLine format.pairSeparator line

def blocksFrom (format : Format) (current : List Text) : List Text → List (List Text)
  | [] => [current]
  | line :: rest =>
    if isSeparatorLine format.blockSeparator line && keyLineFollows format rest then
      -- the separator line and the blank lines after it belong to neither block
      have : (rest.dropWhile Text.isBlank).length < rest.length + 1 :=
        Nat.lt_succ_of_le (List.dropWhile_suffix _).length_le
      current :: blocksFrom format [] (rest.dropWhile Text.isBlank)
    else blocksFrom format (current ++ [line]) rest
termination_by lines => lines.length

/-- The blocks of a file, each as its lines. The first line ends no block. -/
def splitBlocks (format : Format) : List Text → List (List Text)
  | [] => [[]]
  | line :: rest => blocksFrom format [line] rest

end Folio.Content
