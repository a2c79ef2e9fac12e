import Folio.Text.Basic

/-!
# Named values

Lists of values with names, in the order of the names. A name occurs once; what is written last counts.
-/

namespace Folio.NamedList

variable {α : Type}

/-- The order of names: by the code points of their characters, a shorter name before its extensions. -/
def before : Text → Text → Bool
  | _, [] => false
  | [], _ :: _ => true
  | a :: s, b :: t => a.toNat < b.toNat || (a = b && before s t)

/-- Writes a value into an ordered list, in place of the one with its name. -/
def insert (name : Text) (value : α) : List (Text × α) → List (Text × α)
  | [] => [(name, value)]
  | entry :: entries =>
    if name = entry.1 then (name, value) :: entries
    else if before name entry.1 then (name, value) :: entry :: entries
    else entry :: insert name value entries

def ofList (entries : List (Text × α)) : List (Text × α) :=
  entries.foldl (fun ordered entry => insert entry.1 entry.2 ordered) []

end Folio.NamedList
