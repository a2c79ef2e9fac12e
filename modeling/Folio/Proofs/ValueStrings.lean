import Folio.Proofs.BareNames
import Folio.Proofs.JsonStrings

/-!
# Values in payloads

How the value of a field stands in the JSON text of a payload, after its quotes are escaped and unified
and bare names in it are quoted, and which string is read from that. A value may break out of its string;
then no string is received for it.
-/

namespace Folio.Options

open Text (IsBlanks HeadAvoids)

def requote (t : Text) : Text := t.map fun c => if c = '\'' then '"' else c

/-- A value after its escaping and the unification of quotes. -/
def shielded (value : Text) : Text := requote (escape value)

def written (value : Text) : Text := quoteBareNames (shielded value)

/-- The string that is read for a value, if it is read to its closing quote and not further. -/
def received? (value : Text) : Option Text :=
  match Json.readString (written value ++ ['"']) with
  | .ok s => if s.rest = [] then some s.value else none
  | .error _ => none

theorem received?_eq_some_iff {value s : Text} :
    received? value = some s ↔ Json.Chars (written value) s := by
  constructor
  · intro h
    unfold received? at h
    split at h
    · rename_i step hread
      split at h
      · rename_i hrest
        obtain rfl : step.value = s := Option.some.inj h
        obtain ⟨u, hu, heq⟩ := Json.chars_of_readString hread
        rw [hrest] at heq
        exact List.append_cancel_right heq ▸ hu
      · cases h
    · cases h
  · intro h
    obtain ⟨hlt, hread⟩ := Json.readString_of_chars h []
    simp only [received?, hread, if_true]

/-! ## Character by character -/

@[simp] theorem shielded_nil : shielded [] = [] := rfl

theorem shielded_quote {c : Char} (hc : c = '"' ∨ c = '\'') (value : Text) :
    shielded (c :: value) = '\\' :: '"' :: shielded value := by
  rcases hc with rfl | rfl <;> rfl

theorem shielded_break {c : Char} (hc : c = '\n' ∨ c = '\r') (value : Text) :
    shielded (c :: value) = ' ' :: shielded value := by
  rcases hc with rfl | rfl <;> rfl

theorem shielded_other {c : Char} (hquote : ¬ (c = '"' ∨ c = '\'')) (hbreak : ¬ (c = '\n' ∨ c = '\r'))
    (value : Text) : shielded (c :: value) = c :: shielded value := by
  have hsingle : c ≠ '\'' := fun h => hquote (.inr h)
  have hescape : escape (c :: value) = c :: escape value := by
    simp only [escape, List.flatMap_cons]
    rw [if_neg (by simpa using hquote), if_neg (by simpa using hbreak)]
    rfl
  simp only [shielded, hescape, requote, List.map_cons, if_neg hsingle]

/-- A class of characters that has no quotes and no backslash and does not tell line breaks from a blank
survives the escaping. -/
structure KeptClass (p : Char → Bool) : Prop where
  quote : ∀ c, c = '"' ∨ c = '\'' → p c = false
  backslash : p '\\' = false
  lineBreak : ∀ c, c = '\n' ∨ c = '\r' → p c = p ' '

theorem keptClass_isBlank : KeptClass Unicode.isBlank where
  quote c hc := by rcases hc with rfl | rfl <;> decide
  backslash := by decide
  lineBreak c hc := by rcases hc with rfl | rfl <;> decide

theorem keptClass_isWord : KeptClass Unicode.isWord where
  quote c hc := by rcases hc with rfl | rfl <;> decide
  backslash := by decide
  lineBreak c hc := by rcases hc with rfl | rfl <;> decide

theorem KeptClass.dropWhile_shielded {p : Char → Bool} (h : KeptClass p) (value : Text) :
    (shielded value).dropWhile p = shielded (value.dropWhile p) := by
  induction value with
  | nil => rfl
  | cons c value ih =>
    by_cases hquote : c = '"' ∨ c = '\''
    · rw [List.dropWhile_cons_of_neg (by simp [h.quote c hquote]), shielded_quote hquote,
        List.dropWhile_cons_of_neg (by simp [h.backslash])]
    · by_cases hbreak : c = '\n' ∨ c = '\r'
      · rw [shielded_break hbreak, List.dropWhile_cons, List.dropWhile_cons, h.lineBreak c hbreak]
        split
        · exact ih
        · rw [shielded_break hbreak]
      · rw [shielded_other hquote hbreak, List.dropWhile_cons, List.dropWhile_cons]
        split
        · exact ih
        · rw [shielded_other hquote hbreak]

theorem takeWhile_isWord_shielded (value : Text) :
    (shielded value).takeWhile Unicode.isWord = value.takeWhile Unicode.isWord := by
  have h := keptClass_isWord
  induction value with
  | nil => rfl
  | cons c value ih =>
    by_cases hquote : c = '"' ∨ c = '\''
    · rw [shielded_quote hquote, List.takeWhile_cons_of_neg (by simp [h.backslash]),
        List.takeWhile_cons_of_neg (by simp [h.quote c hquote])]
    · by_cases hbreak : c = '\n' ∨ c = '\r'
      · have hc : Unicode.isWord c = false := h.lineBreak c hbreak
        rw [shielded_break hbreak, List.takeWhile_cons_of_neg (by decide),
          List.takeWhile_cons_of_neg (by simp [hc])]
      · rw [shielded_other hquote hbreak, List.takeWhile_cons, List.takeWhile_cons, ih]

/-- Escaping neither makes nor destroys a bare name. -/
theorem bareName?_shielded (value : Text) :
    bareName? (shielded value) = (bareName? value).map fun r => (r.1, shielded r.2) := by
  have hblank : ∀ t, Text.trimStart (shielded t) = shielded (Text.trimStart t) :=
    keptClass_isBlank.dropWhile_shielded
  simp only [bareName?, hblank, keptClass_isWord.dropWhile_shielded, takeWhile_isWord_shielded]
  cases Text.trimStart ((Text.trimStart value).dropWhile Unicode.isWord) with
  | nil => rfl
  | cons c rest =>
    by_cases hc : c = ':'
    · subst hc
      rw [shielded_other (by decide) (by decide)]
      simp only
      split <;> rfl
    · have hnone : (decide (c = ':') && decide ((Text.trimStart value).takeWhile Unicode.isWord ≠ [])) =
          false := by simp [hc]
      simp only [hnone]
      by_cases hquote : c = '"' ∨ c = '\''
      · rw [shielded_quote hquote]
        rfl
      · by_cases hbreak : c = '\n' ∨ c = '\r'
        · rw [shielded_break hbreak]
          rfl
        · rw [shielded_other hquote hbreak]
          simp [hc]

@[simp] theorem written_nil : written [] = [] := by
  rw [written, shielded_nil, quoteBareNames]

theorem written_quote {c : Char} (hc : c = '"' ∨ c = '\'') (value : Text) :
    written (c :: value) = '\\' :: '"' :: written value := by
  rw [written, shielded_quote hc, quoteBareNames_skip fun h => absurd h (by decide),
    quoteBareNames_skip fun h => absurd h (by decide)]
  rfl

theorem written_break {c : Char} (hc : c = '\n' ∨ c = '\r') (value : Text) :
    written (c :: value) = ' ' :: written value := by
  rw [written, shielded_break hc, quoteBareNames_skip fun h => absurd h (by decide)]
  rfl

theorem written_name {c : Char} {value name rest : Text} (hc : c = '{' ∨ c = ',')
    (h : bareName? value = some (name, rest)) :
    written (c :: value) = c :: '"' :: (name ++ '"' :: ':' :: written rest) := by
  -- a brace and a comma stay as they are, so the name is still found behind them
  have hquote : ¬ (c = '"' ∨ c = '\'') := by rcases hc with rfl | rfl <;> decide
  have hbreak : ¬ (c = '\n' ∨ c = '\r') := by rcases hc with rfl | rfl <;> decide
  have hname : bareName? (shielded value) = some (name, shielded rest) := by
    rw [bareName?_shielded, h]
    rfl
  rw [written, shielded_other hquote hbreak, quoteBareNames_name hc hname]
  rfl

theorem written_other {c : Char} {value : Text} (hquote : ¬ (c = '"' ∨ c = '\''))
    (hbreak : ¬ (c = '\n' ∨ c = '\r')) (h : c = '{' ∨ c = ',' → bareName? value = none) :
    written (c :: value) = c :: written value := by
  rw [written, shielded_other hquote hbreak, quoteBareNames_skip]
  · rfl
  · intro hc
    rw [bareName?_shielded, h hc]
    rfl

end Folio.Options
