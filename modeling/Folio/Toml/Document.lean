import Folio.Toml.Reader

/-!
# TOML documents

A document is a sequence of lines: headers and pairs of a key and a value. The entries of a table are
gathered until the next header and then put where its path leads. A table has one header, and what a
header or a key has defined is not defined again.
-/

namespace Folio.Toml

/-- A document as far as it has been read: the tables that are complete, and the open one. -/
structure Draft where
  root : Entries := []
  current : Entries := []
  path : List KeyPart := []
  isItem : Bool := false
  place : Place := []

namespace Draft

def close (draft : Draft) : Option Entries :=
  match draft.path.getLast? with
  | none => some draft.current
  | some (key, keyPlace) =>
    updateAt .implicit (fun _ entries =>
      if draft.isItem then
        let item := (draft.place, draft.current)
        match entries.lookup key with
        | none => some (entries ++ [(key, keyPlace, some draft.place, .tables [item])])
        | some (_, _, .tables items) =>
          some (entries.map fun entry =>
            if entry.1 = key then
              (key, entry.2.1, entry.2.2.1, .tables (items ++ [item]))
            else entry)
        | some _ => none
      else
        match entries.lookup key with
        | none =>
          some (entries ++ [(key, keyPlace, some draft.place, .table .header draft.current)])
        | some _ => none) draft.path.dropLast .header draft.root

def entriesAt : List KeyPart → Entries → Entries
  | [], entries => entries
  | (key, _) :: path, entries =>
    match entries.lookup key with
    | some (_, _, .table _ inner) => entriesAt path inner
    | some (_, _, .tables items) =>
      match items.getLast? with
      | some (_, inner) => entriesAt path inner
      | none => []
    | _ => []

/-- Opens a table by its header. A table that only holds tables with earlier headers is taken up. -/
def openTable (root : Entries) (path : List KeyPart) (place : Place) : Option Draft :=
  match path.getLast? with
  | none => none
  | some (key, _) => do
    let rest ← updateAt .implicit (fun _ entries =>
      match entries.lookup key with
      | none => some entries
      | some (_, _, .table .implicit _) => some (entries.filter (·.1 ≠ key))
      | some _ => none) path.dropLast .header root
    return { root := rest, current := entriesAt path root, path, place }

def openItem (root : Entries) (path : List KeyPart) (place : Place) : Option Draft :=
  match path.getLast? with
  | none => none
  | some (key, keyPlace) => do
    let root ← updateAt .implicit (fun _ entries =>
      match entries.lookup key with
      | none => some (entries ++ [(key, keyPlace, some place, .tables [])])
      | some (_, _, .tables _) => some entries
      | some _ => none) path.dropLast .header root
    return { root, path, isItem := true, place }

def add (draft : Draft) (path : List KeyPart) (place : Place) (value : Value) : Option Draft := do
  return { draft with current := ← addEntry draft.current path place value }

end Draft

/-- What follows the end of a line, at which only blanks and a comment may stand. -/
def endOfLine (t : Text) : Except Place Text :=
  let rest := skipComment (skipBlanks t)
  if rest = [] then .ok []
  else
    match newline? rest with
    | some next => .ok next
    | none => .error rest

theorem length_endOfLine_le {t rest : Text} (h : endOfLine t = .ok rest) :
    rest.length ≤ t.length := by
  have hle : (skipComment (skipBlanks t)).length ≤ t.length :=
    Nat.le_trans (length_skipComment_le _) (Text.length_dropWhile_le _ _)
  simp only [endOfLine] at h
  split at h
  · obtain rfl : [] = rest := by simpa using h
    simp
  · split at h
    · rename_i next hn
      obtain rfl : next = rest := by simpa using h
      exact Nat.le_trans (Nat.le_of_lt (length_lt_of_newline? hn)) hle
    · simp at h

def readHeader (t : Text) : Except Place (Text.Step (List KeyPart × Bool) t) :=
  let isItem := Text.startsWith ['[', '['] t
  let width := if isItem then 2 else 1
  match readKey (t.drop width) with
  | .error place => .error place
  | .ok key =>
    match h : Text.dropPrefix? (List.replicate width ']') key.rest with
    | none => .error key.rest
    | some rest =>
      .ok ⟨(key.value, isItem), rest, by
        have h₁ := key.shorter
        rw [Text.dropPrefix?_eq_some_iff.1 h, List.length_append, List.length_drop] at h₁
        omega⟩

def readStatements (draft : Draft) (t : Text) : Except Place Entries :=
  let start := skipBlanks t
  have hstart : start.length ≤ t.length := Text.length_dropWhile_le _ _
  match hs : start with
  | [] =>
    match draft.close with
    | some entries => .ok entries
    | none => .error []
  | c :: after =>
    have hafter : after.length < t.length := by
      rw [List.length_cons] at hstart
      omega
    match hn : newline? (c :: after) with
    | some next =>
      have hlt : next.length < t.length :=
        Nat.lt_of_lt_of_le (length_lt_of_newline? hn) (by simp only [List.length_cons]; omega)
      readStatements draft next
    | none =>
      if c = '#' then
        match he : endOfLine (after.dropWhile isPrintable) with
        | .error place => .error place
        | .ok rest =>
          have hlt : rest.length < t.length :=
            Nat.lt_of_le_of_lt (length_endOfLine_le he)
              (Nat.lt_of_le_of_lt (Text.length_dropWhile_le _ _) hafter)
          readStatements draft rest
      else if c = '[' then
        match readHeader (c :: after) with
        | .error place => .error place
        | .ok header =>
          match he : endOfLine header.rest with
          | .error place => .error place
          | .ok rest =>
            have hlt : rest.length < t.length := by
              have h₁ := length_endOfLine_le he
              have h₂ := header.shorter
              omega
            let (path, isItem) := header.value
            match draft.close.bind fun root =>
              if isItem then Draft.openItem root path (c :: after)
              else Draft.openTable root path (c :: after) with
            | some draft => readStatements draft rest
            | none => .error (c :: after)
      else
        match readPair (readValue maxDepth) (c :: after) with
        | .error place => .error place
        | .ok pair =>
          match he : endOfLine pair.rest with
          | .error place => .error place
          | .ok rest =>
            have hlt : rest.length < t.length := by
              have h₁ := length_endOfLine_le he
              have h₂ := pair.shorter
              omega
            let (path, place, value) := pair.value
            match draft.add path place value with
            | some draft => readStatements draft rest
            | none => .error (c :: after)
termination_by t.length

def read (document : Text) : Except Place Entries :=
  match document with
  | '\ufeff' :: t => readStatements {} t
  | t => readStatements {} t

end Folio.Toml
