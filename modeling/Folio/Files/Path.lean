import Folio.Text.Basic

/-!
# Paths

A path is a text whose parts are separated by slashes; it is absolute if it starts with one. Joining
and taking the parent work on the text and never look at files, so a path shows as it was written.
-/

namespace Folio

abbrev Path := Text

namespace Path

def isAbsolute (p : Path) : Bool := p.head? = some '/'

/-- A path seen from a base path. An absolute one stays as it is. -/
def join (base p : Path) : Path :=
  if p.isAbsolute || base = [] then p
  else if base.getLast? = some '/' then base ++ p
  else base ++ '/' :: p

def parts (p : Path) : List Text := Text.splitAtChar '/' p

def isIdlePart (part : Text) : Bool := part = [] || part = ['.']

def names (p : Path) : List Text := p.parts.filter fun part => !isIdlePart part

def dropIdle (reversed : List Text) : List Text := reversed.dropWhile isIdlePart

def assemble (head : Text) (reversed : List Text) : Path := head ++ Text.join ['/'] reversed.reverse

/-- The path without its last name; idle parts at its end are dropped. The root and the empty path have
none. -/
def parent? (p : Path) : Option Path :=
  match p with
  | '/' :: rest =>
    match dropIdle (parts rest).reverse with
    | [] => none
    | _ :: reversed => some (assemble ['/'] (dropIdle reversed))
  | p =>
    match p.parts with
    | ['.'] :: rest =>
      match dropIdle rest.reverse with
      | [] => some []
      | _ :: reversed => some (Text.join ['/'] (['.'] :: (dropIdle reversed).reverse))
    | parts =>
      match dropIdle parts.reverse with
      | [] => none
      | _ :: reversed => some (assemble [] (dropIdle reversed))

def directory (p : Path) : Path := p.parent?.getD ['.']

end Path

end Folio
