import Folio.Number.Shortest

/-!
# TOML values

A value remembers where it was written, so that what is wrong with it can be located. A place in a
document is given by what is left of the document from there on.
-/

namespace Folio.Toml

/-- What is left of a document from a place on. -/
abbrev Place := Text

def lineOf (document : Text) (place : Place) : Nat :=
  (document.take (document.length - place.length)).count '\n' + 1

inductive FloatValue where
  | finite (value : Binary64)
  | infinite (negative : Bool)
  | nan
deriving DecidableEq, Inhabited

/-- How a table came to be, which says what may be added to it. -/
inductive Form where
  | header
  | implicit
  | dotted
  /-- In braces; nothing is added to it. -/
  | inline
deriving DecidableEq, Inhabited

inductive Value where
  | string (value : Text)
  | integer (value : Int)
  | float (value : FloatValue)
  | boolean (value : Bool)
  | datetime
  | array (items : List (Place × Value))
  | tables (items : List (Place × List (Text × Place × Option Place × Value)))
  /-- Entries with the places of the keys and, where they have one, of the values. -/
  | table (form : Form) (entries : List (Text × Place × Option Place × Value))
deriving Inhabited

abbrev Entries := List (Text × Place × Option Place × Value)

/-- The place to report for an entry: that of its value or else of its key. -/
def placeOf (entry : Text × Place × Option Place × Value) : Place :=
  entry.2.2.1.getD entry.2.1

def positional (d : Decimal) : Text :=
  let digits := Text.ofNat d.digits
  let point : Int := digits.length + d.exponent
  if 0 ≤ d.exponent then digits ++ List.replicate d.exponent.toNat '0' ++ ['.', '0']
  else if 0 < point then digits.take point.toNat ++ '.' :: digits.drop point.toNat
  else ['0', '.'] ++ List.replicate (-point).toNat '0' ++ digits

def FloatValue.text : FloatValue → Text
  | .finite x => (if x.negative then ['-'] else []) ++ positional x.shortest
  | .infinite negative => (if negative then "-inf" else "inf").toList
  | .nan => "NaN".toList

end Folio.Toml
