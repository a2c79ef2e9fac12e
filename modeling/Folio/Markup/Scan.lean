import Folio.Markup.Token
import Folio.Text.Trim

/-!
# Scanning templates

A placeholder is written as an opening delimiter, a keyword, a colon, a body and a closing delimiter.
The keyword says how the body is read. What is no complete placeholder stays text. Scanning loses
nothing: the sources of the segments, put together, are the template.
-/

namespace Folio.Markup

structure Syntax where
  opening : Text := "\x7b\x7b".toList
  closing : Text := "\x7d\x7d".toList
  siteWord : Text := "site".toList
  pageWord : Text := "page".toList
  toolWord : Text := "tool".toList
  extensionWord : Text := "ext".toList
  includeWord : Text := "include".toList
deriving DecidableEq, Inhabited

inductive Kind where
  | field (scope : Scope)
  | call (callee : Callee)
  | inclusion
deriving DecidableEq, Inhabited

/-- The keywords with what they announce. Of two keywords that both fit, the first one counts. -/
def Syntax.keywords (s : Syntax) : List (Text × Kind) :=
  [(s.siteWord, .field .site), (s.pageWord, .field .page), (s.toolWord, .call .tool),
    (s.extensionWord, .call .extension), (s.includeWord, .inclusion)]

def Syntax.start (s : Syntax) (keyword : Text) : Text := s.opening ++ keyword ++ [':']

theorem Syntax.length_start_pos (s : Syntax) (keyword : Text) : 0 < (s.start keyword).length := by
  simp only [Syntax.start, List.length_append, List.length_singleton]
  omega

def startAmong? (s : Syntax) (t : Text) : List (Text × Kind) → Option (Text × Kind × Text)
  | [] => none
  | (keyword, kind) :: keywords =>
    match Text.dropPrefix? (s.start keyword) t with
    | some rest => some (s.start keyword, kind, rest)
    | none => startAmong? s t keywords

theorem eq_of_startAmong? {s : Syntax} {t start rest : Text} {kind : Kind}
    {keywords : List (Text × Kind)} (h : startAmong? s t keywords = some (start, kind, rest)) :
    t = start ++ rest ∧ ∃ keyword, (keyword, kind) ∈ keywords ∧ start = s.start keyword := by
  induction keywords with
  | nil => simp [startAmong?] at h
  | cons entry keywords ih =>
    obtain ⟨keyword, k⟩ := entry
    rw [startAmong?] at h
    split at h
    · rename_i r hr
      obtain ⟨rfl, rfl, rfl⟩ : s.start keyword = start ∧ k = kind ∧ r = rest := by simpa using h
      exact ⟨Text.dropPrefix?_eq_some_iff.1 hr, keyword, by simp, rfl⟩
    · obtain ⟨ht, word, hw, hs⟩ := ih h
      exact ⟨ht, word, by simp [hw], hs⟩

def start? (s : Syntax) (t : Text) : Option (Text × Kind × Text) := startAmong? s t s.keywords

def isNameChar (c : Char) : Bool := Unicode.isAlphanumeric c || c = '_' || c = '.' || c = '-'

def takeName? (t : Text) : Option (Text × Text) :=
  let name := t.takeWhile isNameChar
  if name = [] then none else some (name, t.dropWhile isNameChar)

/-- Where a reader of a payload is: outside strings, in a string that a quote ends, or after a backslash
in one. -/
inductive Mode where
  | plain
  | quoted (quote : Char)
  | escaped (quote : Char)
deriving DecidableEq, Inhabited

def Mode.next (mode : Mode) (c : Char) : Mode :=
  match mode with
  | .plain => if c = '\'' || c = '"' then .quoted c else .plain
  | .quoted quote => if c = '\\' then .escaped quote else if c = quote then .plain else .quoted quote
  | .escaped quote => .quoted quote

def Mode.depth (mode : Mode) (c : Char) (depth : Nat) : Nat :=
  if mode = .plain then
    if c = '{' then depth + 1 else if c = '}' then depth - 1 else depth
  else depth

/-- The text up to the brace that closes all open ones, and what follows it. Braces in strings do not
count. -/
def takeBraced? (mode : Mode) (depth : Nat) : Text → Option (Text × Text)
  | [] => none
  | c :: t =>
    if mode = .plain && c = '}' && depth ≤ 1 then some ([c], t)
    else (takeBraced? (mode.next c) (mode.depth c depth) t).map fun r => (c :: r.1, r.2)

/-- The payload at the start of the text, if there is one, with the blanks after it; `none` where a
payload starts and does not end. -/
def takePayload? (t : Text) : Option (Option Text × Text) :=
  match t with
  | '{' :: rest => (takeBraced? .plain 0 ('{' :: rest)).map fun r => (some r.1, Text.trimStart r.2)
  | t => some (none, t)

/-- The token of a body, and what follows the closing delimiter. A field is a name; a call is a name
that blanks and a payload may follow; an inclusion is a path in one line, up to the next closing
delimiter. -/
def readBody? (s : Syntax) (kind : Kind) (t : Text) : Option (Token × Text) :=
  match kind with
  | .field scope => do
    let (name, t) ← takeName? t
    return (.field scope name, ← Text.dropPrefix? s.closing t)
  | .call callee => do
    let (name, t) ← takeName? t
    let (payload, t) ← takePayload? (Text.trimStart t)
    return (.call callee name payload, ← Text.dropPrefix? s.closing t)
  | .inclusion => do
    let (body, rest) ← Text.cut? s.closing t
    let path := Text.trim body
    if path = [] || '\n' ∈ path then none else some (.inclusion path, rest)

theorem suffix_of_takeName? {t name rest : Text} (h : takeName? t = some (name, rest)) :
    rest <:+ t := by
  simp only [takeName?] at h
  split at h
  · simp at h
  · obtain ⟨-, rfl⟩ : _ ∧ t.dropWhile isNameChar = rest := by simpa using h
    exact List.dropWhile_suffix _

theorem eq_of_takeBraced? {mode : Mode} {depth : Nat} {t payload rest : Text}
    (h : takeBraced? mode depth t = some (payload, rest)) : t = payload ++ rest := by
  induction t generalizing mode depth payload with
  | nil => simp [takeBraced?] at h
  | cons c t ih =>
    rw [takeBraced?] at h
    split at h
    · obtain ⟨rfl, rfl⟩ : [c] = payload ∧ t = rest := by simpa using h
      rfl
    · obtain ⟨⟨p, r⟩, hp, heq⟩ := Option.map_eq_some_iff.1 h
      obtain ⟨rfl, rfl⟩ : c :: p = payload ∧ r = rest := by simpa using heq
      simp [ih hp]

theorem suffix_of_takePayload? {t rest : Text} {payload : Option Text}
    (h : takePayload? t = some (payload, rest)) : rest <:+ t := by
  unfold takePayload? at h
  split at h
  · obtain ⟨⟨p, r⟩, hp, heq⟩ := Option.map_eq_some_iff.1 h
    obtain ⟨-, rfl⟩ : _ ∧ Text.trimStart r = rest := by simpa using heq
    rw [eq_of_takeBraced? hp]
    exact (List.dropWhile_suffix _).trans (List.suffix_append _ _)
  · obtain ⟨-, rfl⟩ : _ ∧ _ = rest := by simpa using h
    exact List.suffix_refl _

theorem suffix_of_dropPrefix? {p t rest : Text} (h : Text.dropPrefix? p t = some rest) :
    rest <:+ t := by
  rw [Text.dropPrefix?_eq_some_iff.1 h]
  exact List.suffix_append _ _

theorem suffix_of_readBody? {s : Syntax} {kind : Kind} {t rest : Text} {token : Token}
    (h : readBody? s kind t = some (token, rest)) : rest <:+ t := by
  cases kind with
  | field scope =>
    simp only [readBody?, Option.bind_eq_bind, Option.bind_eq_some_iff, Option.pure_def,
      Option.some.injEq, Prod.mk.injEq, Prod.exists] at h
    obtain ⟨name, u, hn, v, hv, -, rfl⟩ := h
    exact (suffix_of_dropPrefix? hv).trans (suffix_of_takeName? hn)
  | call callee =>
    simp only [readBody?, Option.bind_eq_bind, Option.bind_eq_some_iff, Option.pure_def,
      Option.some.injEq, Prod.mk.injEq, Prod.exists] at h
    obtain ⟨name, u, hn, payload, v, hp, w, hw, -, rfl⟩ := h
    exact (suffix_of_dropPrefix? hw).trans ((suffix_of_takePayload? hp).trans
      ((List.dropWhile_suffix _).trans (suffix_of_takeName? hn)))
  | inclusion =>
    simp only [readBody?, Option.bind_eq_bind, Option.bind_eq_some_iff, Prod.exists] at h
    obtain ⟨body, r, hc, h⟩ := h
    split at h
    · simp at h
    · obtain ⟨-, rfl⟩ : _ ∧ r = rest := by simpa using h
      rw [Text.eq_of_cut? hc]
      exact List.suffix_append _ _

/-- The segments of a template, from left to right. Where a placeholder starts but is not complete,
scanning goes on after its colon. -/
def scan (s : Syntax) (t : Text) : List Segment :=
  match t with
  | [] => []
  | c :: rest =>
    match h : start? s (c :: rest) with
    | none => prependText [c] (scan s rest)
    | some (start, kind, body) =>
      have hlt : body.length < rest.length + 1 := by
        obtain ⟨heq, keyword, -, rfl⟩ := eq_of_startAmong? h
        have hl := congrArg List.length heq
        have hp := s.length_start_pos keyword
        simp only [List.length_cons, List.length_append] at hl
        omega
      match hb : readBody? s kind body with
      | none => prependText start (scan s body)
      | some (token, after) =>
        have := (suffix_of_readBody? hb).length_le
        .placeholder token ((c :: rest).take (rest.length + 1 - after.length)) :: scan s after
termination_by t.length

theorem scan_nil (s : Syntax) : scan s [] = [] := by rw [scan]

/-- Scanning loses nothing. -/
theorem source_scan (s : Syntax) (t : Text) : source (scan s t) = t := by
  fun_induction scan s t with
  | case1 => rfl
  | case2 c rest _ ih => rw [source_prependText, ih]; rfl
  | case3 c rest start kind body h _ _ ih =>
    rw [source_prependText, ih]
    exact (eq_of_startAmong? h).1.symm
  | case4 c rest start kind body h hlt token after hb hle ih =>
    obtain ⟨u, hu⟩ := suffix_of_readBody? hb
    have heq := (eq_of_startAmong? h).1
    rw [← hu, ← List.append_assoc] at heq
    have hlen : rest.length + 1 - after.length = (start ++ u).length := by
      have := congrArg List.length heq
      rw [List.length_append, List.length_cons] at this
      omega
    change _ ++ source (scan s after) = c :: rest
    rw [ih, Segment.source, hlen, heq, List.take_left]

end Folio.Markup
