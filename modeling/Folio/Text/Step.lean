import Folio.Text.Basic

/-!
# Steps of readers

A step of a reader says what it read and what is left, which is less than it was given. So a reader
that repeats steps comes to an end.
-/

namespace Folio.Text

/-- What a step read from `t`, and what it left. -/
structure Step (α : Type) (t : Text) where
  value : α
  rest : Text
  shorter : rest.length < t.length

namespace Step

variable {α β : Type} {t u : Text}

def widen (s : Step α t) (h : t.length ≤ u.length) : Step α u :=
  ⟨s.value, s.rest, Nat.lt_of_lt_of_le s.shorter h⟩

def map (f : α → β) (s : Step α t) : Step β t := ⟨f s.value, s.rest, s.shorter⟩

end Step

theorem length_lt_cons (c : Char) (t : Text) : t.length < (c :: t).length := Nat.lt_succ_self _

theorem length_le_cons (c : Char) (t : Text) : t.length ≤ (c :: t).length := Nat.le_succ _

theorem length_dropWhile_le (p : Char → Bool) (t : Text) : (t.dropWhile p).length ≤ t.length :=
  (List.dropWhile_suffix _).length_le

theorem length_dropWhile_lt {p : Char → Bool} {c : Char} {t : Text} (h : p c = true) :
    ((c :: t).dropWhile p).length < (c :: t).length := by
  rw [List.dropWhile_cons_of_pos h, List.length_cons]
  exact Nat.lt_succ_of_le (length_dropWhile_le p t)

end Folio.Text
