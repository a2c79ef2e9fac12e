import Folio.Proofs.JsonReading
import Folio.Proofs.ValueStrings

/-!
# Values that break out of their strings

A value can close its string early by a backslash at the right place. What a reader of JSON then faces
is the rest of the value, in which no string starts before the closing quote of the value except the
names that got their quotes from the notation. So such a reader never comes back into step: it stops with
an error, or it ends up in front of a word where no word may stand. This holds for every value, so no
object is read from a payload with such a value.
-/

namespace Folio.Options

open Json (Chars Yields)

/-- The text of a value from some character on, its closing quote and what follows. -/
inductive Shown (after : Text) : Text → Prop where
  | close : Shown after ('"' :: after)
  | char {c : Char} {t : Text} : c ≠ '"' → c ≠ '\\' → Shown after t → Shown after (c :: t)
  | quote {t : Text} : Shown after t → Shown after ('\\' :: '"' :: t)
  | backslash {t : Text} : Shown after t → Shown after ('\\' :: t)
  | name {c : Char} {name t : Text} : c = '{' ∨ c = ',' → IsWord name → Shown after t →
      Shown after (c :: '"' :: (name ++ '"' :: ':' :: t))

/-- What a reader outside of strings faces in the text of a value. -/
inductive Stray (after : Text) : Text → Prop where
  | close : Stray after ('"' :: after)
  | char {c : Char} {t : Text} : c ≠ '"' → c ≠ '\\' → Stray after t → Stray after (c :: t)
  | backslash {t : Text} : Stray after ('\\' :: t)
  | name {name t : Text} : IsWord name → Stray after t → Stray after ('"' :: (name ++ '"' :: ':' :: t))

def AtWord (t : Text) : Prop := ∃ c rest, t = c :: rest ∧ Unicode.isWord c = true

def EndsAtWord (after : Text) : Prop :=
  ∀ u s rest, Chars u s → after = u ++ '"' :: rest → AtWord rest

theorem isWord_facts {c : Char} (h : Unicode.isWord c = true) :
    c ≠ '"' ∧ c ≠ '\\' ∧ 0x20 ≤ c.toNat ∧ Json.isBlank c = false := by
  refine ⟨?_, ?_, ?_, ?_⟩
  · rintro rfl
    exact absurd h (by decide)
  · rintro rfl
    exact absurd h (by decide)
  · apply Decidable.byContradiction
    intro hlt
    have hnone : ∀ n < 0x20, Unicode.isWord (Char.ofNat n) = false := by decide
    have hc := hnone c.toNat (by omega)
    rw [Char.ofNat_toNat, h] at hc
    cases hc
  · cases hblank : Json.isBlank c with
    | false => rfl
    | true =>
      have hc : ((c = ' ' ∨ c = '\n') ∨ c = '\t') ∨ c = '\r' := by simpa [Json.isBlank] using hblank
      rcases hc with ((rfl | rfl) | rfl) | rfl <;> exact absurd h (by decide)

theorem IsWord.chars {name : Text} (h : ∀ c ∈ name, Unicode.isWord c = true) : Chars name name := by
  induction name with
  | nil => exact .nil
  | cons c name ih =>
    obtain ⟨hc, hname⟩ := List.forall_mem_cons.1 h
    obtain ⟨hquote, hback, hctl, -⟩ := isWord_facts hc
    exact .plain hquote hback hctl (ih hname)

theorem IsWord.atWord {name : Text} (h : IsWord name) (rest : Text) : AtWord (name ++ rest) := by
  obtain ⟨hne, hword⟩ := h
  cases name with
  | nil => exact absurd rfl hne
  | cons c name => exact ⟨c, name ++ rest, rfl, hword c List.mem_cons_self⟩

theorem AtWord.skipBlanks {t : Text} (h : AtWord t) : Json.skipBlanks t = t := by
  obtain ⟨c, rest, rfl, hc⟩ := h
  rw [Json.skipBlanks, List.dropWhile_cons_of_neg]
  simp [(isWord_facts hc).2.2.2]

/-! ## In the string of the value -/

theorem shown_written (value after : Text) : Shown after (written value ++ '"' :: after) := by
  induction hn : value.length using Nat.strongRecOn generalizing value with
  | ind n ih =>
    cases value with
    | nil =>
      rw [written_nil]
      exact .close
    | cons c value =>
      subst hn
      have htail : Shown after (written value ++ '"' :: after) := ih value.length (by simp) value rfl
      -- a name takes more than one character at once, hence the induction on the length
      by_cases hquote : c = '"' ∨ c = '\''
      · rw [written_quote hquote]
        exact .quote htail
      by_cases hbreak : c = '\n' ∨ c = '\r'
      · rw [written_break hbreak]
        exact .char (by decide) (by decide) htail
      by_cases hopen : c = '{' ∨ c = ','
      · cases hname : bareName? value with
        | some r =>
          obtain ⟨name, rest⟩ := r
          have hlt := length_lt_of_bareName? hname
          obtain ⟨before, between, -, hword, -, -⟩ := bareName?_eq_some_iff.1 hname
          rw [written_name hopen hname]
          have hrest := ih rest.length (by simp only [List.length_cons]; omega) rest rfl
          simpa using Shown.name hopen hword hrest
        | none =>
          rw [written_other hquote hbreak fun _ => hname]
          exact .char (by rintro rfl; exact hquote (.inl rfl)) (by rintro rfl; simp at hopen) htail
      · rw [written_other hquote hbreak fun h => absurd h hopen]
        by_cases hback : c = '\\'
        · subst hback
          exact .backslash htail
        · exact .char (fun h => hquote (.inl h)) hback htail

theorem Shown.stray {after t : Text} (h : Shown after t) : Stray after t := by
  induction h with
  | close => exact .close
  | char hquote hback _ ih => exact .char hquote hback ih
  | quote => exact .backslash
  | backslash => exact .backslash
  | name hc hword _ ih =>
    have hplain : ∀ {c : Char}, c = '{' ∨ c = ',' → c ≠ '"' ∧ c ≠ '\\' := by
      rintro c (rfl | rfl) <;> decide
    exact .char (hplain hc).1 (hplain hc).2 (.name hword ih)

theorem Shown.of_quote {after t : Text} (h : Shown after ('"' :: t)) : t = after := by
  cases h with
  | close => rfl
  | char hne => exact absurd rfl hne
  | name hc => exact absurd hc (by decide)

theorem Shown.of_plain {after t : Text} {c : Char} (h : Shown after (c :: t)) (hquote : c ≠ '"')
    (hback : c ≠ '\\') (hopen : c ≠ '{' ∧ c ≠ ',') : Shown after t := by
  cases h with
  | close => exact absurd rfl hquote
  | char _ _ ht => exact ht
  | quote => exact absurd rfl hback
  | backslash => exact absurd rfl hback
  | name hc => exact absurd hc (not_or.2 hopen)

theorem Shown.of_run {after u t : Text} (h : Shown after (u ++ t))
    (hu : ∀ c ∈ u, c ≠ '"' ∧ c ≠ '\\' ∧ 0x20 ≤ c.toNat ∧ c ≠ '{' ∧ c ≠ ',') : Shown after t := by
  induction u with
  | nil => exact h
  | cons c u ih =>
    obtain ⟨hc, hu⟩ := List.forall_mem_cons.1 hu
    exact ih (h.of_plain hc.1 hc.2.1 hc.2.2.2) hu

/-- A backslash of the value takes the next character with it, or the closing quote. -/
theorem Shown.of_backslash {after t : Text} (h : Shown after ('\\' :: t)) :
    Shown after t ∨ ∃ u, t = '"' :: u ∧ Shown after u := by
  cases h with
  | char _ hback => exact absurd rfl hback
  | quote ht => exact .inr ⟨_, rfl, ht⟩
  | backslash ht => exact .inl ht
  | name hc => exact absurd hc (by decide)

theorem Shown.of_escape {after e t : Text} {d : Char} (h : Shown after (e ++ t)) (he : Json.Escape e d)
    (hquote : '"' ∉ e) (hback : e ≠ ['\\']) : Shown after t := by
  have hu : 'u' ≠ '"' ∧ 'u' ≠ '\\' ∧ 'u' ≠ '{' ∧ 'u' ≠ ',' := by decide
  cases he with
  | @short c d hshort =>
    have hopen : c ≠ '{' ∧ c ≠ ',' := by
      constructor
      · rintro rfl
        cases hshort
      · rintro rfl
        cases hshort
    refine h.of_plain ?_ ?_ hopen
    · rintro rfl
      exact hquote List.mem_cons_self
    · rintro rfl
      exact hback rfl
  | unit hhex => exact (h.of_plain hu.1 hu.2.1 hu.2.2).of_run hhex.mem
  | @pair high low m n hhex hhex' =>
    have htail : Shown after (high ++ ('\\' :: 'u' :: (low ++ t))) := by
      have := h.of_plain hu.1 hu.2.1 hu.2.2
      simpa using this
    rcases (htail.of_run hhex.mem).of_backslash with hlow | ⟨u, heq, -⟩
    · exact (hlow.of_plain hu.1 hu.2.1 hu.2.2).of_run hhex'.mem
    · exact absurd (List.cons.inj heq).1 hu.1

/-- Where the string of a value ends: behind its own closing quote, in the value, or in front of a word
further on. -/
theorem Shown.rest_of_chars {after t u s rest : Text} (hafter : EndsAtWord after) (h : Shown after t)
    (hu : Chars u s) (heq : t = u ++ '"' :: rest) : rest = after ∨ Stray after rest ∨ AtWord rest := by
  -- the induction is on how the reader takes the string; the cases on `h` say what it may meet
  induction hu generalizing t with
  | nil =>
    subst heq
    exact .inl h.of_quote
  | @plain c u s hquote hback _ hu ih =>
    obtain ⟨tail, htail⟩ : ∃ tail, u ++ '"' :: rest = tail := ⟨_, rfl⟩
    rw [heq, List.cons_append, htail] at h
    cases h with
    | close => exact absurd rfl hquote
    | char _ _ ht => exact ih ht htail.symm
    | quote => exact absurd rfl hback
    | backslash => exact absurd rfl hback
    | @name _ name t _ hword _ =>
      -- the quote behind the brace or the comma ends the string
      cases u with
      | nil =>
        obtain rfl := (List.cons.inj htail).2
        exact .inr (.inr (hword.atWord _))
      | cons d u =>
        obtain rfl : d = '"' := (List.cons.inj htail).1
        exact hu.head_ne_quote.elim
  | @escape e u s d he hu ih =>
    have heq' : t = '\\' :: (e ++ (u ++ '"' :: rest)) := by simpa using heq
    rw [heq'] at h
    by_cases hquote : '"' ∈ e
    · -- the escape is a quote: one of the value, or the closing one
      obtain rfl := he.eq_quote hquote
      rcases h.of_backslash with htail | ⟨v, hv, htail⟩
      · obtain rfl := htail.of_quote
        exact .inr (.inr (hafter u s rest hu rfl))
      · obtain rfl : u ++ '"' :: rest = v := (List.cons.inj hv).2
        exact ih htail rfl
    · have htail : Shown after (e ++ (u ++ '"' :: rest)) := by
        rcases h.of_backslash with htail | ⟨v, hv, -⟩
        · exact htail
        · cases e with
          | nil => exact absurd rfl he.ne_nil
          | cons x e =>
            obtain rfl : x = '"' := (List.cons.inj hv).1
            exact absurd List.mem_cons_self hquote
      by_cases hback : e = ['\\']
      · subst hback
        rcases htail.of_backslash with htail | ⟨v, hv, htail⟩
        · exact ih htail rfl
        · cases u with
          | nil =>
            obtain rfl : rest = v := (List.cons.inj hv).2
            exact .inr (.inl htail.stray)
          | cons x u =>
            obtain rfl : x = '"' := (List.cons.inj hv).1
            exact hu.head_ne_quote.elim
      · exact ih (htail.of_escape he hquote hback) rfl

end Folio.Options
