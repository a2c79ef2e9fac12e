import Folio.Json.Printer
import Folio.Json.Reader
import Folio.Text.Trim

/-!
# Call options

The options of a call are an object in a tolerant notation of JSON: single quotes may stand for double
ones and a name that is a word needs no quotes. The notation is turned into JSON first and then read
strictly, so what cannot be read gives no options at all. An option whose value is the empty string
counts as absent.
-/

namespace Folio

abbrev Options := List (Text × Json)

namespace Options

inductive Rejection where
  | notObject (value : Json)
  | unreadable (payload json : Text) (error : Json.ReadError)

def Rejection.message : Rejection → Text
  | .notObject value => "expected an object, got `".toList ++ Json.compact value ++ ['`']
  | .unreadable payload json error =>
    "cannot decode `".toList ++ payload ++ "`: ".toList ++ error.message json

/-- The word at the start of the text and what follows the colon after it; blanks may stand around the
word. -/
def bareName? (t : Text) : Option (Text × Text) :=
  let start := Text.trimStart t
  let name := start.takeWhile Unicode.isWord
  match Text.trimStart (start.dropWhile Unicode.isWord) with
  | [] => none
  | c :: rest => if c = ':' && name ≠ [] then some (name, rest) else none

theorem length_lt_of_bareName? {t name rest : Text} (h : bareName? t = some (name, rest)) :
    rest.length < t.length := by
  simp only [bareName?] at h
  split at h
  · simp at h
  · rename_i c r hr
    split at h
    · obtain ⟨-, rfl⟩ : _ ∧ r = rest := by simpa using h
      have h₁ : (Text.trimStart ((Text.trimStart t).dropWhile Unicode.isWord)).length ≤ t.length :=
        Nat.le_trans (List.dropWhile_suffix _).length_le
          (Nat.le_trans (List.dropWhile_suffix _).length_le (List.dropWhile_suffix _).length_le)
      rw [hr, List.length_cons] at h₁
      omega
    · simp at h

/-- Puts quotes around the words between an opening brace or a comma and a colon. -/
def quoteBareNames : Text → Text
  | [] => []
  | c :: t =>
    if c = '{' || c = ',' then
      match h : bareName? t with
      -- what follows the colon is searched again, so a name inside a string gets quotes too
      | some (name, rest) =>
        have : rest.length < t.length + 1 := Nat.lt_succ_of_lt (length_lt_of_bareName? h)
        c :: '"' :: name ++ '"' :: ':' :: quoteBareNames rest
      | none => c :: quoteBareNames t
    else c :: quoteBareNames t
termination_by t => t.length

def toJsonText (payload : Text) : Text :=
  quoteBareNames (payload.map fun c => if c = '\'' then '"' else c)

def decode (payload : Text) : Except Rejection Options :=
  if Text.isBlank payload then .ok []
  else
    match Json.read (toJsonText payload) with
    | .ok (.object members) => .ok (members.filter fun member => !member.2.isEmptyString)
    | .ok value => .error (.notObject value)
    | .error error => .error (.unreadable payload (toJsonText payload) error)

def ofPayload (payload : Text) : Options :=
  match decode payload with
  | .ok options => options
  | .error _ => []

def compact (options : Options) : Text := Json.compact (.object options)

/-- A value as it stands inside a string of a payload: quotes have a backslash before them and line
breaks are blanks. -/
def escape (value : Text) : Text :=
  value.flatMap fun c =>
    if c = '"' || c = '\'' then ['\\', c] else if c = '\n' || c = '\r' then [' '] else [c]

def quoted (value : Text) : Text := '"' :: escape value ++ ['"']

end Options

end Folio
