import Folio.Content.Parse

/-!
# Tags

The field `tags` holds a list of items, which may carry markup elements such as `<em>`.
-/

namespace Folio.Content

def tagsKey : Text := "tags".toList

/-- Drops all that stands between a `<` and the next `>`, with the two signs. -/
def dropElements : Text → Text
  | [] => []
  | c :: t =>
    if c = '<' then
      match h : Text.cut? ['>'] t with
      | some (_, rest) =>
        have : rest.length < t.length + 1 :=
          Nat.lt_succ_of_lt (Text.length_lt_of_cut? (by simp) h)
        dropElements rest
      | none => c :: dropElements t
    else c :: dropElements t
termination_by t => t.length

/-- The items of a list, without elements and blanks around them; empty items are left out. -/
def splitList (separator value : Text) : List Text :=
  ((Text.splitOn separator value).map fun item => Text.trim (dropElements item)).filter (· ≠ [])

def tags (separator : Text) (fields : FieldMap) : List Text :=
  match fields.get? tagsKey with
  | some value => splitList separator value
  | none => []

end Folio.Content
