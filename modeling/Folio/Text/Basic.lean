/-!
# Text

A text is the list of its characters, so that scanners and splitters recurse on it. This module has
the operations that every reader of the library shares: cutting at a separator, splitting into
pieces and lines, and the size of a text in bytes. Nothing is lost: the pieces of a cut, put together
with the separator, give the text back.
-/

namespace Folio

abbrev Text := List Char

namespace Text

instance : LawfulBEq Text := inferInstance

def dropPrefix? : Text → Text → Option Text
  | [], t => some t
  | _ :: _, [] => none
  | a :: p, b :: t => if a = b then dropPrefix? p t else none

theorem dropPrefix?_eq_some_iff {p t rest : Text} :
    dropPrefix? p t = some rest ↔ t = p ++ rest := by
  induction p generalizing t with
  | nil => simp [dropPrefix?, eq_comm]
  | cons a p ih =>
    cases t with
    | nil => simp [dropPrefix?]
    | cons b t =>
      by_cases hab : a = b
      · simp [dropPrefix?, hab, ih]
      · simp [dropPrefix?, hab, Ne.symm hab]

def startsWith (p t : Text) : Bool := (dropPrefix? p t).isSome

def cut? (sep : Text) : Text → Option (Text × Text)
  | [] => if sep = [] then some ([], []) else none
  | c :: t =>
    match dropPrefix? sep (c :: t) with
    | some rest => some ([], rest)
    | none => (cut? sep t).map fun parts => (c :: parts.1, parts.2)

theorem eq_of_cut? {sep t before after : Text} (h : cut? sep t = some (before, after)) :
    t = before ++ sep ++ after := by
  induction t generalizing before with
  | nil =>
    by_cases hs : sep = []
    · simp_all [cut?]
    · simp [cut?, hs] at h
  | cons c t ih =>
    rw [cut?] at h
    split at h
    · rename_i rest hr
      obtain ⟨rfl, rfl⟩ : [] = before ∧ rest = after := by simpa using h
      simpa using dropPrefix?_eq_some_iff.1 hr
    · obtain ⟨⟨b, a⟩, hc, heq⟩ := Option.map_eq_some_iff.1 h
      obtain ⟨rfl, rfl⟩ : c :: b = before ∧ a = after := by simpa using heq
      simp [ih hc]

theorem length_lt_of_cut? {sep t before after : Text} (hs : sep ≠ [])
    (h : cut? sep t = some (before, after)) : after.length < t.length := by
  have hl : 0 < sep.length := List.length_pos_iff.2 hs
  rw [eq_of_cut? h]
  simp only [List.length_append]
  omega

def contains (p t : Text) : Bool := (cut? p t).isSome

/-- The pieces between the occurrences of a separator, from left to right. The empty separator
stands before, between and after all characters. -/
def splitOn (sep t : Text) : List Text :=
  if hs : sep = [] then [] :: t.map ([·]) ++ [[]]
  else
    match h : cut? sep t with
    | none => [t]
    | some (before, after) =>
      have := length_lt_of_cut? hs h
      before :: splitOn sep after
termination_by t.length

/-- The pieces of a text between the occurrences of one character; there is always at least one. -/
def splitAtChar (sep : Char) : Text → List Text
  | [] => [[]]
  | c :: t =>
    if c = sep then [] :: splitAtChar sep t
    else
      match splitAtChar sep t with
      | [] => [[c]]
      | piece :: pieces => (c :: piece) :: pieces

def lines : Text → List Text := splitAtChar '\n'

def join (sep : Text) : List Text → Text
  | [] => []
  | [t] => t
  | t :: ts => t ++ sep ++ join sep ts

theorem join_cons_first (sep : Text) (c : Char) (p : Text) (ps : List Text) :
    join sep ((c :: p) :: ps) = c :: join sep (p :: ps) := by
  cases ps <;> rfl

theorem splitAtChar_ne_nil (sep : Char) (t : Text) : splitAtChar sep t ≠ [] := by
  cases t with
  | nil => simp [splitAtChar]
  | cons c t =>
    rw [splitAtChar]
    split
    · simp
    · split <;> simp

theorem join_lines (t : Text) : join ['\n'] (lines t) = t := by
  simp only [lines]
  induction t with
  | nil => rfl
  | cons c t ih =>
    rw [splitAtChar]
    split
    · rename_i hc
      cases hp : splitAtChar '\n' t with
      | nil => exact absurd hp (splitAtChar_ne_nil _ _)
      | cons p ps =>
        rw [hp] at ih
        rw [join, ih, hc]
        · rfl
        · simp
    · split
      · rename_i hp
        exact absurd hp (splitAtChar_ne_nil _ _)
      · rename_i p ps hp
        rw [join_cons_first, ← hp, ih]

/-- The longest pieces of a text without the characters that `isGap` names. None of them is empty. -/
def words (isGap : Char → Bool) (t : Text) : List Text :=
  (splitAtChar ' ' (t.map fun c => if isGap c then ' ' else c)).filter (!·.isEmpty)

/-- What follows the last occurrence of a character, or the whole text without one. -/
def afterLast (c : Char) (t : Text) : Text :=
  (t.reverse.takeWhile (· ≠ c)).reverse

/-- Carriage returns, alone or before a line feed, become line feeds. -/
def normalizeLineBreaks : Text → Text
  | [] => []
  | '\r' :: '\n' :: t => '\n' :: normalizeLineBreaks t
  | c :: t => (if c = '\r' then '\n' else c) :: normalizeLineBreaks t

def byteSize (t : Text) : Nat := (t.map Char.utf8Size).foldl (· + ·) 0

/-- The longest run of whole characters at the start that fits into `limit` bytes. -/
def takeBytes : Nat → Text → Text
  | _, [] => []
  | limit, c :: t => if c.utf8Size ≤ limit then c :: takeBytes (limit - c.utf8Size) t else []

def asciiLower (t : Text) : Text := t.map Char.toLower

def ofNat (n : Nat) : Text := (toString n).toList

end Text

end Folio
