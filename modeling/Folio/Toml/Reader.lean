import Folio.Text.Step
import Folio.Toml.Scalar

/-!
# Reading TOML values

Keys, strings, arrays and inline tables. A failure is given by its place alone. Arrays and inline
tables nest at most 79 deep.
-/

namespace Folio.Toml

open Text (Step length_dropWhile_le length_dropWhile_lt length_le_cons length_lt_cons)

def isBlank (c : Char) : Bool := c = ' ' || c = '\t'

def skipBlanks (t : Text) : Text := t.dropWhile isBlank

def isPrintable (c : Char) : Bool := c = '\t' || (0x20 ≤ c.toNat && c ≠ '\x7f')

def newline? (t : Text) : Option Text :=
  match t with
  | '\n' :: t => some t
  | '\r' :: '\n' :: t => some t
  | _ => none

theorem length_lt_of_newline? {t rest : Text} (h : newline? t = some rest) :
    rest.length < t.length := by
  unfold newline? at h
  split at h
  · simp_all
  · simp only [Option.some.injEq] at h
    subst h
    simp only [List.length_cons]
    omega
  · simp at h

def skipComment (t : Text) : Text :=
  if t.head? = some '#' then (t.drop 1).dropWhile isPrintable else t

theorem length_skipComment_le (t : Text) : (skipComment t).length ≤ t.length := by
  rw [skipComment]
  split
  · exact Nat.le_trans (length_dropWhile_le _ _) (by simp)
  · exact Nat.le_refl _

/-- Whether a line break has to follow what is left of a line, since a comment or a carriage return stands
before it. -/
def needsNewline (t : Text) : Bool := t.head? = some '#' || t.head? = some '\r'

/-- Drops blanks, comments and line breaks. Fails where a comment or a carriage return is followed by
something else than a line break. -/
def skipLines (t : Text) : Except Place Text :=
  let line := skipBlanks t
  match h : newline? (skipComment line) with
  | some next =>
    have : next.length < t.length :=
      Nat.lt_of_lt_of_le (length_lt_of_newline? h)
        (Nat.le_trans (length_skipComment_le _) (length_dropWhile_le _ _))
    skipLines next
  | none => if needsNewline line then .error (skipComment line) else .ok line
termination_by t.length

theorem length_skipLines_le {t rest : Text} (h : skipLines t = .ok rest) :
    rest.length ≤ t.length := by
  fun_induction skipLines t with
  | case1 t line next hn hlt ih =>
    have := ih h
    omega
  | case2 => simp at h
  | case3 t line hn hc =>
    obtain rfl : line = rest := by simpa using h
    exact length_dropWhile_le _ _

def skipBlankLines (t : Text) : Text :=
  let line := skipBlanks t
  match h : newline? line with
  | some next =>
    have : next.length < t.length :=
      Nat.lt_of_lt_of_le (length_lt_of_newline? h) (length_dropWhile_le _ _)
    skipBlankLines next
  | none => line
termination_by t.length

theorem length_skipBlankLines_le (t : Text) : (skipBlankLines t).length ≤ t.length := by
  fun_induction skipBlankLines t with
  | case1 t line next h hlt ih => omega
  | case2 t line h => exact length_dropWhile_le _ _

/-! ## Strings -/

def readUnicode (count : Nat) (t : Text) : Except Place (Step Char t) :=
  let digits := t.take count
  let n := Digits.toNat 16 digits
  if h : digits.length = count ∧ 0 < count then
    if digits.all Digits.isHex && (n < 0xD800 || (0xDFFF < n && n < 0x110000)) then
      .ok ⟨Char.ofNat n, t.drop count, by
        have hd := h.1
        simp only [digits, List.length_take] at hd
        rw [List.length_drop]
        omega⟩
    else .error t
  else .error t

def shortEscape? (c : Char) : Option Char :=
  match c with
  | 'b' => some '\x08'
  | 't' => some '\t'
  | 'n' => some '\n'
  | 'f' => some '\x0c'
  | 'r' => some '\r'
  | '"' => some '"'
  | '\\' => some '\\'
  | _ => none

def readEscape (t : Text) : Except Place (Step Char t) :=
  match t with
  | [] => .error []
  | c :: rest =>
    match shortEscape? c with
    | some d => .ok ⟨d, rest, length_lt_cons c rest⟩
    | none =>
      if c = 'u' then (readUnicode 4 rest).map fun s => s.widen (length_le_cons c rest)
      else if c = 'U' then (readUnicode 8 rest).map fun s => s.widen (length_le_cons c rest)
      else .error rest

def readLine (quote : Char) (t : Text) : Except Place (Step Text t) :=
  match t with
  | [] => .error []
  | c :: rest =>
    if c = quote then .ok ⟨[], rest, length_lt_cons c rest⟩
    else if c = '\\' && quote = '"' then
      match readEscape rest with
      | .error place => .error place
      | .ok s =>
        have := s.shorter
        (readLine quote s.rest).map fun tail =>
          ⟨s.value :: tail.value, tail.rest,
            Nat.lt_trans tail.shorter (Nat.lt_trans s.shorter (length_lt_cons c rest))⟩
    else if isPrintable c then
      (readLine quote rest).map fun tail =>
        ⟨c :: tail.value, tail.rest, Nat.lt_succ_of_lt tail.shorter⟩
    else .error (c :: rest)
termination_by t.length

/-- The characters of a string of several lines up to its three closing quotes, before which one or two
more may stand. A backslash at the end of a line joins it to the next one that is not blank. -/
def readLines (quote : Char) (t : Text) : Except Place (Step Text t) :=
  match t with
  | [] => .error []
  | c :: rest =>
    if hq : c = quote then
      let run := ((c :: rest).takeWhile (· = quote)).length
      let after := (c :: rest).dropWhile (· = quote)
      have hafter : after.length < rest.length + 1 := length_dropWhile_lt (by simp [hq])
      if 3 ≤ run then
        let extra := min (run - 3) 2
        .ok ⟨List.replicate extra quote, (c :: rest).drop (extra + 3), by
          rw [List.length_drop]
          exact Nat.sub_lt (Nat.succ_pos _) (Nat.succ_pos _)⟩
      else
        (readLines quote after).map fun tail =>
          ⟨List.replicate run quote ++ tail.value, tail.rest, Nat.lt_trans tail.shorter hafter⟩
    else if c = '\\' && quote = '"' then
      match hn : newline? (skipBlanks rest) with
      | some next =>
        let start := skipBlankLines next
        have hstart : start.length < rest.length + 1 :=
          Nat.lt_succ_of_lt (Nat.lt_of_le_of_lt (length_skipBlankLines_le next)
            (Nat.lt_of_lt_of_le (length_lt_of_newline? hn) (length_dropWhile_le isBlank rest)))
        (readLines quote start).map fun tail =>
          ⟨tail.value, tail.rest, Nat.lt_trans tail.shorter hstart⟩
      | none =>
        match readEscape rest with
        | .error place => .error place
        | .ok s =>
          have := s.shorter
          (readLines quote s.rest).map fun tail =>
            ⟨s.value :: tail.value, tail.rest,
              Nat.lt_trans tail.shorter (Nat.lt_trans s.shorter (length_lt_cons c rest))⟩
    else
      match hn : newline? (c :: rest) with
      | some next =>
        have hnext : next.length < rest.length + 1 := length_lt_of_newline? hn
        (readLines quote next).map fun tail =>
          ⟨'\n' :: tail.value, tail.rest, Nat.lt_trans tail.shorter hnext⟩
      | none =>
        if isPrintable c then
          (readLines quote rest).map fun tail =>
            ⟨c :: tail.value, tail.rest, Nat.lt_succ_of_lt tail.shorter⟩
        else .error (c :: rest)
termination_by t.length
decreasing_by
  · exact hafter
  · exact hstart
  · simp only [List.length_cons]
    omega
  · exact hnext
  · simp only [List.length_cons]
    omega

def readString (quote : Char) (t : Text) : Except Place (Step Text t) :=
  match h : Text.dropPrefix? [quote, quote, quote] t with
  | some body =>
    have hbody : body.length ≤ t.length := by
      rw [Text.dropPrefix?_eq_some_iff.1 h, List.length_append]
      omega
    match hn : newline? body with
    | some next =>
      (readLines quote next).map fun s =>
        s.widen (Nat.le_trans (Nat.le_of_lt (length_lt_of_newline? hn)) hbody)
    | none => (readLines quote body).map fun s => s.widen hbody
  | none => (readLine quote (t.drop 1)).map fun s => s.widen (by simp)

/-! ## Keys -/

abbrev KeyPart := Text × Place

def isBareKeyChar (c : Char) : Bool := c.isAlphanum || c = '_' || c = '-'

def readKeyPart (t : Text) : Except Place (Step Text t) :=
  match t with
  | [] => .error []
  | c :: rest =>
    if c = '"' || c = '\'' then (readLine c rest).map fun s => s.widen (length_le_cons c rest)
    else if hc : isBareKeyChar c then
      .ok ⟨(c :: rest).takeWhile isBareKeyChar, (c :: rest).dropWhile isBareKeyChar,
        length_dropWhile_lt hc⟩
    else .error (c :: rest)

def readKeyParts (t : Text) : Except Place (Step (List KeyPart) t) :=
  let start := skipBlanks t
  have hstart : start.length ≤ t.length := length_dropWhile_le _ _
  match readKeyPart start with
  | .error place => .error place
  | .ok part =>
    have hpart : (skipBlanks part.rest).length < t.length :=
      Nat.lt_of_le_of_lt (length_dropWhile_le _ _) (Nat.lt_of_lt_of_le part.shorter hstart)
    match hrest : skipBlanks part.rest with
    | '.' :: rest =>
      have hlt : rest.length < t.length := by
        rw [hrest, List.length_cons] at hpart
        omega
      (readKeyParts rest).map fun tail =>
        ⟨(part.value, start) :: tail.value, tail.rest, Nat.lt_trans tail.shorter hlt⟩
    | rest => .ok ⟨[(part.value, start)], rest, hrest ▸ hpart⟩
termination_by t.length

/-- How deep arrays and inline tables may nest, and how many parts a key may have. -/
def maxDepth : Nat := 79

def readKey (t : Text) : Except Place (Step (List KeyPart) t) :=
  match readKeyParts t with
  | .error place => .error place
  | .ok key => if maxDepth < key.value.length then .error t else .ok key

/-! ## Tables -/

def Form.isImplicit : Form → Bool
  | .implicit => true
  | .dotted => true
  | _ => false

/-- Changes the table at the end of a path of keys; tables on the way are made in `form` where they are
missing. Fails where something else than a table is on the way. A dotted key does not pass through
tables with a header of their own. -/
def updateAt (form : Form) (change : Form → Entries → Option Entries) :
    List KeyPart → Form → Entries → Option Entries
  | [], own, entries => change own entries
  | (key, place) :: path, _, entries =>
    match entries.lookup key with
    | none => do
      let inner ← updateAt form change path form []
      return entries ++ [(key, place, none, .table form inner)]
    | some (keyPlace, valuePlace, value) => do
      let value ← match value with
        | .table own inner =>
          if own = .inline || (form = .dotted && !own.isImplicit) then none
          else (updateAt form change path own inner).map (Value.table own)
        | .tables items =>
          match items.getLast? with
          | some (itemPlace, inner) =>
            (updateAt form change path .header inner).map fun inner =>
              Value.tables (items.dropLast ++ [(itemPlace, inner)])
          | none => none
        | _ => none
      return entries.map fun entry =>
        if entry.1 = key then (key, keyPlace, valuePlace, value) else entry

/-- Adds a value under a dotted key. A key is written once, and a table that dotted keys made is written
by dotted keys alone. -/
def addEntry (entries : Entries) (path : List KeyPart) (valuePlace : Place) (value : Value) :
    Option Entries :=
  match path.getLast? with
  | none => none
  | some (key, place) =>
    updateAt .dotted (fun own entries =>
      if (own = .dotted) = (path.length = 1) || (entries.lookup key).isSome then none
      else some (entries ++ [(key, place, some valuePlace, value)])) path.dropLast .header entries

/-! ## Values -/

/-- The items of an array up to its closing bracket. Where the lines after an item cannot be skipped, the
item is what is wrong. -/
def readItems (item : (t : Text) → Except Place (Step Value t)) (t : Text) :
    Except Place (Step (List (Place × Value)) t) :=
  match hs : skipLines t with
  | .error place => .error place
  | .ok start =>
    have hstart : start.length ≤ t.length := length_skipLines_le hs
    if hclose : start.head? = some ']' then
      .ok ⟨[], start.drop 1, by
        have : start ≠ [] := by
          rintro h
          simp [h] at hclose
        have := List.length_pos_iff.2 this
        rw [List.length_drop]
        omega⟩
    else
      match item start with
      | .error place => .error place
      | .ok s =>
        match ha : skipLines s.rest with
        | .error _ => .error start
        | .ok (',' :: rest) =>
          have hrest : rest.length < t.length := by
            have h₁ := s.shorter
            have h₂ := length_skipLines_le ha
            rw [List.length_cons] at h₂
            omega
          (readItems item rest).map fun tail =>
            ⟨(start, s.value) :: tail.value, tail.rest, by
              have := tail.shorter
              omega⟩
        | .ok (']' :: rest) =>
          .ok ⟨[(start, s.value)], rest, by
            have h₁ := s.shorter
            have h₂ := length_skipLines_le ha
            rw [List.length_cons] at h₂
            omega⟩
        | .ok place => .error place
termination_by t.length

abbrev Pair := List KeyPart × Place × Value

def readPair (item : (t : Text) → Except Place (Step Value t)) (t : Text) :
    Except Place (Step Pair t) :=
  match readKey t with
  | .error place => .error place
  | .ok key =>
    if key.rest.head? = some '=' then
      let start := skipBlanks (key.rest.drop 1)
      have hstart : start.length ≤ t.length := by
        have h₁ := key.shorter
        have h₂ := length_dropWhile_le isBlank (key.rest.drop 1)
        rw [List.length_drop] at h₂
        simp only [start, skipBlanks]
        omega
      (item start).map fun s => (s.map fun value => (key.value, start, value)).widen hstart
    else .error key.rest

def keyFollows (t : Text) : Bool :=
  match skipBlanks t with
  | c :: _ => c = '"' || c = '\'' || isBareKeyChar c
  | [] => false

/-- The pairs at the start of a text, with commas between them. A comma that no key follows is left. -/
def readPairs (item : (t : Text) → Except Place (Step Value t)) (t : Text) :
    Except Place (Step (List Pair) t) :=
  match readPair item t with
  | .error place => .error place
  | .ok pair =>
    have hafter : (skipBlanks pair.rest).length < t.length :=
      Nat.lt_of_le_of_lt (length_dropWhile_le _ _) pair.shorter
    match ha : skipBlanks pair.rest with
    | ',' :: rest =>
      have hrest : rest.length + 1 < t.length := by
        rw [ha, List.length_cons] at hafter
        omega
      if keyFollows rest then
        (readPairs item rest).map fun tail =>
          ⟨pair.value :: tail.value, tail.rest, by
            have := tail.shorter
            omega⟩
      else .ok ⟨[pair.value], ',' :: rest, hrest⟩
    | rest => .ok ⟨[pair.value], rest, ha ▸ hafter⟩
termination_by t.length

def entriesOf (pairs : List Pair) : Option Entries :=
  pairs.foldlM (fun entries pair => addEntry entries pair.1 pair.2.1 pair.2.2) []

def readInline (item : (t : Text) → Except Place (Step Value t)) (t : Text) :
    Except Place (Step Entries t) :=
  if keyFollows t then
    match readPairs item t with
    | .error place => .error place
    | .ok pairs =>
      match entriesOf pairs.value, hr : pairs.rest with
      | none, _ => .error t
      | some entries, '}' :: rest =>
        .ok ⟨entries, rest, by
          have := pairs.shorter
          rw [hr, List.length_cons] at this
          omega⟩
      | some _, place => .error place
  else
    match hs : skipBlanks t with
    | '}' :: rest =>
      .ok ⟨[], rest, by
        have : (skipBlanks t).length ≤ t.length := length_dropWhile_le _ _
        rw [hs, List.length_cons] at this
        omega⟩
    | place => .error place

def readValue (depth : Nat) (t : Text) : Except Place (Step Value t) :=
  match t with
  | [] => .error []
  | c :: rest =>
    if c = '"' || c = '\'' then (readString c (c :: rest)).map (Step.map Value.string)
    else if c = '[' then
      match depth with
      | 0 => .error (c :: rest)
      | depth + 1 =>
        (readItems (readValue depth) rest).map fun s => (s.map Value.array).widen (by simp)
    else if c = '{' then
      match depth with
      | 0 => .error (c :: rest)
      | depth + 1 =>
        (readInline (readValue depth) rest).map fun s =>
          (s.map (Value.table .inline)).widen (by simp)
    else
      let token := takeScalar (c :: rest)
      match scalar? token with
      | some value =>
        if h : 0 < token.length then
          .ok ⟨value, (c :: rest).drop token.length, by
            rw [List.length_drop]
            simp only [List.length_cons]
            omega⟩
        else .error (c :: rest)
      | none => .error (c :: rest)

end Folio.Toml
