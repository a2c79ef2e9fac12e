import Folio.Number.Binary64
import Folio.Text.Basic

/-!
# JSON values

An object lists its members in the order of their names; a name occurs once.
-/

namespace Folio

/-- A number is an integer of 64 bits, signed or not, or a double. -/
inductive Number where
  | int (value : Int)
  | double (value : Binary64)
deriving DecidableEq, Inhabited

inductive Json where
  | null
  | bool (value : Bool)
  | number (value : Number)
  | string (value : Text)
  | array (items : List Json)
  | object (members : List (Text × Json))
deriving Inhabited

namespace Json

def isEmptyString : Json → Bool
  | .string [] => true
  | _ => false

end Json

end Folio
