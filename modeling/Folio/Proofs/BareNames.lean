import Folio.Options
import Folio.Proofs.CharacterClasses
import Folio.Proofs.TextCuts

/-!
# Bare names

Where the notation of options puts quotes: around a word between an opening brace or a comma and a colon,
with blanks around it. No such place reaches over a quote, so the text on either side of a quote is
treated on its own.
-/

namespace Folio.Options

open Text (IsBlanks HeadAvoids)

def IsWord (t : Text) : Prop := t ≠ [] ∧ ∀ c ∈ t, Unicode.isWord c = true

instance (t : Text) : Decidable (IsWord t) :=
  decidable_of_iff (t ≠ [] ∧ t.all Unicode.isWord = true) (and_congr_right fun _ => List.all_eq_true)

theorem IsWord.headAvoids_isBlank {name : Text} (h : IsWord name) (rest : Text) :
    HeadAvoids Unicode.isBlank (name ++ rest) := by
  obtain ⟨hne, hword⟩ := h
  cases name with
  | nil => exact absurd rfl hne
  | cons c name =>
    rw [List.cons_append, Text.headAvoids_cons]
    cases hblank : Unicode.isBlank c with
    | false => rfl
    | true =>
      have hc := hword c List.mem_cons_self
      rw [Unicode.isWord_of_isBlank hblank] at hc
      cases hc

/-- A bare name is found exactly where a word stands before a colon. -/
theorem bareName?_eq_some_iff {t name rest : Text} :
    bareName? t = some (name, rest) ↔ ∃ before after, IsBlanks before ∧ IsWord name ∧ IsBlanks after ∧
      t = before ++ (name ++ (after ++ ':' :: rest)) := by
  constructor
  · intro h
    simp only [bareName?] at h
    obtain ⟨before, hbefore, ht, -⟩ := Text.exists_blanks_append_trimStart t
    obtain ⟨after, hafter, ha, -⟩ :=
      Text.exists_blanks_append_trimStart ((Text.trimStart t).dropWhile Unicode.isWord)
    split at h
    · cases h
    · rename_i c u hu
      split at h
      · rename_i hcolon
        obtain ⟨rfl, hname⟩ : c = ':' ∧ (Text.trimStart t).takeWhile Unicode.isWord ≠ [] := by
          simpa using hcolon
        obtain ⟨rfl, rfl⟩ : (Text.trimStart t).takeWhile Unicode.isWord = name ∧ u = rest := by
          simpa using h
        refine ⟨before, after, hbefore, ⟨hname, fun _ hc => List.mem_takeWhile_imp hc⟩, hafter, ?_⟩
        rw [← hu, ← ha, List.takeWhile_append_dropWhile]
        exact ht
      · cases h
  · rintro ⟨before, after, hbefore, hname, hafter, rfl⟩
    -- neither a blank nor the colon belongs to the word, so it is taken whole
    have hstop : HeadAvoids Unicode.isWord (after ++ ':' :: rest) :=
      Text.headAvoids_run (fun c hc => Unicode.isWord_of_isBlank (hafter c hc))
        (Text.headAvoids_cons.2 (by decide))
    have htrim : Text.trimStart (after ++ ':' :: rest) = ':' :: rest :=
      Text.trimStart_blanks_append hafter (Text.headAvoids_cons.2 (by decide))
    simp only [bareName?, Text.trimStart_blanks_append hbefore (hname.headAvoids_isBlank _),
      Text.takeWhile_run hname.2 hstop, Text.dropWhile_run hname.2 hstop, htrim]
    simp [hname.1]

theorem bareName?_append_quote (t u : Text) :
    bareName? (t ++ '"' :: u) = (bareName? t).map fun r => (r.1, r.2 ++ '"' :: u) := by
  have hblank : Unicode.isBlank '"' = false := by decide
  have hword : Unicode.isWord '"' = false := by decide
  simp only [bareName?, Text.trimStart_append_stop hblank, Text.dropWhile_append_stop hword,
    Text.takeWhile_append_stop hword]
  cases Text.trimStart ((Text.trimStart t).dropWhile Unicode.isWord) with
  | nil => rfl
  | cons c rest =>
    simp only [List.cons_append]
    split <;> rfl

theorem quoteBareNames_name {c : Char} {t name rest : Text} (hc : c = '{' ∨ c = ',')
    (h : bareName? t = some (name, rest)) :
    quoteBareNames (c :: t) = c :: '"' :: (name ++ '"' :: ':' :: quoteBareNames rest) := by
  rw [quoteBareNames, if_pos (by simpa using hc)]
  split
  · rename_i name' rest' h'
    obtain ⟨rfl, rfl⟩ : name = name' ∧ rest = rest' := by simpa [h] using h'
    rfl
  · rename_i h'
    rw [h] at h'
    cases h'

theorem quoteBareNames_skip {c : Char} {t : Text} (h : c = '{' ∨ c = ',' → bareName? t = none) :
    quoteBareNames (c :: t) = c :: quoteBareNames t := by
  rw [quoteBareNames]
  split
  · rename_i hc
    have hnone := h (by simpa using hc)
    split
    · rename_i h'
      rw [hnone] at h'
      cases h'
    · rfl
  · rfl

/-- No bare name reaches over a quote. -/
theorem quoteBareNames_append_quote (t u : Text) :
    quoteBareNames (t ++ '"' :: u) = quoteBareNames t ++ '"' :: quoteBareNames u := by
  fun_induction quoteBareNames t with
  | case1 =>
    rw [List.nil_append, quoteBareNames_skip fun h => absurd h (by decide)]
    rfl
  | case2 c t hc name rest h _ ih =>
    have hc' : c = '{' ∨ c = ',' := by simpa using hc
    have hname : bareName? (t ++ '"' :: u) = some (name, rest ++ '"' :: u) := by
      rw [bareName?_append_quote, h]
      rfl
    rw [List.cons_append, quoteBareNames_name hc' hname, ih]
    simp
  | case3 c t hc h ih =>
    have hnone : bareName? (t ++ '"' :: u) = none := by
      rw [bareName?_append_quote, h]
      rfl
    rw [List.cons_append, quoteBareNames_skip fun _ => hnone, ih]
    rfl
  | case4 c t hc ih =>
    have hc' : ¬ (c = '{' ∨ c = ',') := by simpa using hc
    rw [List.cons_append, quoteBareNames_skip fun h => absurd h hc', ih]
    rfl

end Folio.Options
