import Folio.Json.Printer
import Folio.Json.Reader
import Mathlib.Data.List.TakeWhile

/-!
# The texts of numbers

Whatever number is read and whether it is one at all, the reader of numbers takes digits, signs, points
and exponent letters from the text and nothing else. Printed numbers are made of these characters too, and
the digits of a printed number add up to it again.
-/

namespace Folio.Json

open Text (Step)

def isNumberChar (c : Char) : Bool :=
  c.isDigit || c = '.' || c = '+' || c = '-' || c = 'e' || c = 'E'

def AfterNumber (t rest : Text) : Prop := ∃ u, t = u ++ rest ∧ ∀ c ∈ u, isNumberChar c = true

theorem AfterNumber.refl (t : Text) : AfterNumber t t := ⟨[], rfl, by simp⟩

theorem AfterNumber.trans {t u rest : Text} (h : AfterNumber t u) (h' : AfterNumber u rest) :
    AfterNumber t rest := by
  obtain ⟨a, rfl, ha⟩ := h
  obtain ⟨b, rfl, hb⟩ := h'
  refine ⟨a ++ b, by simp, ?_⟩
  intro c hc
  exact (List.mem_append.1 hc).elim (ha c) (hb c)

theorem AfterNumber.cons {c : Char} {t rest : Text} (hc : isNumberChar c = true)
    (h : AfterNumber t rest) : AfterNumber (c :: t) rest := by
  obtain ⟨u, rfl, hu⟩ := h
  exact ⟨c :: u, rfl, List.forall_mem_cons.2 ⟨hc, hu⟩⟩

theorem afterNumber_digits (t : Text) : AfterNumber t (t.dropWhile Char.isDigit) := by
  refine ⟨t.takeWhile Char.isDigit, List.takeWhile_append_dropWhile.symm, ?_⟩
  intro c hc
  have hdigit : c.isDigit = true := List.mem_takeWhile_imp hc
  simp [isNumberChar, hdigit]

theorem afterNumber_dropSign (t : Text) : AfterNumber t (dropSign t) := by
  cases t with
  | nil => exact .refl []
  | cons c t =>
    rw [dropSign]
    split
    · rename_i hsign
      apply AfterNumber.cons _ (.refl t)
      rcases (by simpa using hsign : c = '+' ∨ c = '-') with rfl | rfl <;> decide
    · exact .refl _

theorem afterNumber_point {t : Text} (h : t.head? = some '.') : AfterNumber t (t.drop 1) := by
  cases t with
  | nil => cases h
  | cons c t =>
    obtain rfl : c = '.' := by simpa using h
    exact .cons (by decide) (.refl t)

theorem eq_ok_of_map {ε α β : Type} {x : Except ε α} {f : α → β} {b : β} (h : x.map f = .ok b) :
    ∃ a, x = .ok a ∧ f a = b := by
  cases x with
  | error e => cases h
  | ok a => exact ⟨a, rfl, Except.ok.inj h⟩

theorem afterNumber_of_readExponent {negative : Bool} {n : Nat} {exponent : Int} {t : Text}
    {s : Step Number t} (h : readExponent negative n exponent t = .ok s) : AfterNumber t s.rest := by
  simp only [readExponent] at h
  split at h
  · cases h
  · rename_i c after hdrop
    have hstart : AfterNumber t ((c :: after).dropWhile Char.isDigit) := by
      have hsign := afterNumber_dropSign t
      rw [hdrop] at hsign
      exact hsign.trans (afterNumber_digits _)
    split at h
    · split at h
      · split at h
        · cases h
        · cases h
          exact hstart
      · obtain ⟨x, -, rfl⟩ := eq_ok_of_map h
        exact hstart
    · cases h

theorem afterNumber_of_readScaled {negative : Bool} {n : Nat} {exponent : Int} {t : Text}
    {r : { r : Number × Text // r.2.length ≤ t.length }}
    (h : readScaled negative n exponent t = .ok r) : AfterNumber t r.1.2 := by
  unfold readScaled at h
  split at h
  · obtain ⟨x, -, rfl⟩ := eq_ok_of_map h
    exact .refl []
  · rename_i c rest
    split at h
    · rename_i hletter
      obtain ⟨s, hs, rfl⟩ := eq_ok_of_map h
      apply (afterNumber_of_readExponent hs).cons
      rcases (by simpa using hletter : c = 'e' ∨ c = 'E') with rfl | rfl <;> decide
    · obtain ⟨x, -, rfl⟩ := eq_ok_of_map h
      exact .refl _

theorem afterNumber_of_readFraction {negative : Bool} {n : Nat} {exponent : Int} {t : Text}
    {r : { r : Number × Text // r.2.length ≤ t.length }}
    (h : readFraction negative n exponent t = .ok r) : AfterNumber t r.1.2 := by
  simp only [readFraction] at h
  split at h
  · split at h <;> cases h
  · obtain ⟨r', hr', rfl⟩ := eq_ok_of_map h
    exact (afterNumber_digits t).trans (afterNumber_of_readScaled hr')

theorem afterNumber_of_readNumber {negative : Bool} {t : Text} {s : Step Number t}
    (h : readNumber negative t = .ok s) : AfterNumber t s.rest := by
  unfold readNumber at h
  split at h
  · cases h
  · rename_i c after
    have hdigits := afterNumber_digits (c :: after)
    split at h
    · simp only at h
      split at h
      · cases h
      · split at h
        · rename_i hpoint
          obtain ⟨r, hr, rfl⟩ := eq_ok_of_map h
          exact hdigits.trans ((afterNumber_point hpoint).trans (afterNumber_of_readFraction hr))
        · split at h
          · cases h
            exact hdigits
          · split at h
            · cases h
              exact hdigits
            · obtain ⟨r, hr, rfl⟩ := eq_ok_of_map h
              exact hdigits.trans (afterNumber_of_readScaled hr)
    · cases h

/-! ## Printed numbers -/

theorem ofNat_eq_toDigits (n : Nat) : Text.ofNat n = Nat.toDigits 10 n := by
  rw [Text.ofNat, Nat.toString_eq_repr, Nat.repr, String.toList_ofList]

theorem isDigit_of_mem_ofNat {n : Nat} {c : Char} (h : c ∈ Text.ofNat n) : c.isDigit = true := by
  rw [ofNat_eq_toDigits] at h
  exact Nat.isDigit_of_mem_toDigits (by decide) (by decide) h

theorem isNumberChar_of_mem_ofNat {n : Nat} : ∀ c ∈ Text.ofNat n, isNumberChar c = true := by
  intro c hc
  simp [isNumberChar, isDigit_of_mem_ofNat hc]

theorem isNumberChar_of_mem_intText {n : Int} : ∀ c ∈ intText n, isNumberChar c = true := by
  unfold intText
  split
  · exact List.forall_mem_cons.2 ⟨by decide, isNumberChar_of_mem_ofNat⟩
  · exact isNumberChar_of_mem_ofNat

theorem isNumberChar_of_mem_decimalText {d : Decimal} : ∀ c ∈ decimalText d, isNumberChar c = true := by
  have hzeros : ∀ n, ∀ c ∈ List.replicate n '0', isNumberChar c = true := by
    intro n c hc
    rw [List.eq_of_mem_replicate hc]
    decide
  have htake : ∀ n, ∀ c ∈ (Text.ofNat d.digits).take n, isNumberChar c = true :=
    fun n c hc => isNumberChar_of_mem_ofNat c (List.mem_of_mem_take hc)
  have hdrop : ∀ n, ∀ c ∈ '.' :: (Text.ofNat d.digits).drop n, isNumberChar c = true :=
    fun n => List.forall_mem_cons.2
      ⟨by decide, fun c hc => isNumberChar_of_mem_ofNat c (List.mem_of_mem_drop hc)⟩
  simp only [decimalText]
  split
  · exact List.forall_mem_append.2
      ⟨List.forall_mem_append.2 ⟨isNumberChar_of_mem_ofNat, hzeros _⟩, List.all_eq_true.1 rfl⟩
  · split
    · exact List.forall_mem_append.2 ⟨htake _, hdrop _⟩
    · split
      · exact List.forall_mem_append.2
          ⟨List.forall_mem_append.2 ⟨List.all_eq_true.1 rfl, hzeros _⟩, isNumberChar_of_mem_ofNat⟩
      · refine List.forall_mem_append.2 ⟨List.forall_mem_append.2 ⟨?_, ?_⟩, isNumberChar_of_mem_ofNat⟩
        · split
          · exact isNumberChar_of_mem_ofNat
          · exact List.forall_mem_append.2 ⟨htake _, hdrop _⟩
        · split <;> exact List.all_eq_true.1 rfl

theorem isNumberChar_of_mem_numberText {n : Number} : ∀ c ∈ numberText n, isNumberChar c = true := by
  cases n with
  | int n => exact isNumberChar_of_mem_intText
  | double x =>
    rw [numberText, doubleText]
    have hsign : ∀ c ∈ (if x.negative then ['-'] else []), isNumberChar c = true := by
      split <;> exact List.all_eq_true.1 rfl
    have hsize : ∀ c ∈ (if x.significand = 0 then ['0', '.', '0'] else decimalText x.shortest),
        isNumberChar c = true := by
      split
      · exact List.all_eq_true.1 rfl
      · exact isNumberChar_of_mem_decimalText
    exact List.forall_mem_append.2 ⟨hsign, hsize⟩

/-! ## Digits that are read back -/

theorem digitChar_ne_zero : ∀ n < 10, 0 < n → n.digitChar ≠ '0' := by decide

/-- A number that is not zero is written without a zero in front. -/
theorem exists_ofNat_eq_cons {n : Nat} (hn : 0 < n) : ∃ c digits, Text.ofNat n = c :: digits ∧ c ≠ '0' := by
  rw [ofNat_eq_toDigits]
  induction n using Nat.strongRecOn with
  | ind n ih =>
    by_cases hlt : n < 10
    · exact ⟨n.digitChar, [], Nat.toDigits_of_lt_base hlt, digitChar_ne_zero n hlt hn⟩
    · obtain ⟨c, digits, heq, hc⟩ := ih (n / 10) (by omega) (by omega)
      refine ⟨c, digits ++ [(n % 10).digitChar], ?_, hc⟩
      rw [Nat.toDigits_of_base_le (by decide) (Nat.le_of_not_lt hlt), heq]
      rfl

theorem le_ofDigitChars (digits : Text) (n : Nat) : n ≤ Nat.ofDigitChars 10 digits n := by
  induction digits generalizing n with
  | nil => exact Nat.le_refl n
  | cons c digits ih =>
    rw [Nat.ofDigitChars_cons]
    exact Nat.le_trans (by omega) (ih _)

theorem accumulate_eq {limit n : Nat} {digits : Text} (h : Nat.ofDigitChars 10 digits n ≤ limit) :
    accumulate limit n digits = (Nat.ofDigitChars 10 digits n, []) := by
  induction digits generalizing n with
  | nil => rfl
  | cons c digits ih =>
    have hnext : Nat.ofDigitChars 10 (c :: digits) n =
        Nat.ofDigitChars 10 digits (n * 10 + Digits.value c) := by
      rw [Nat.ofDigitChars_cons, Nat.mul_comm]
      rfl
    rw [hnext] at h ⊢
    have hle := Nat.le_trans (le_ofDigitChars digits _) h
    rw [accumulate]
    rw [if_neg (Nat.not_lt.2 hle)]
    exact ih h

theorem accumulate_ofNat {limit n : Nat} (h : n ≤ limit) : accumulate limit 0 (Text.ofNat n) = (n, []) := by
  have hvalue : Nat.ofDigitChars 10 (Text.ofNat n) 0 = n := by
    rw [ofNat_eq_toDigits]
    exact Nat.ofDigitChars_toDigits (by decide) (by decide)
  rw [accumulate_eq (by rwa [hvalue]), hvalue]

theorem ofNat_eq_cons (n : Nat) :
    ∃ c digits, Text.ofNat n = c :: digits ∧ (c = '0' → c :: digits = ['0']) := by
  by_cases hn : 0 < n
  · obtain ⟨c, digits, heq, hc⟩ := exists_ofNat_eq_cons hn
    exact ⟨c, digits, heq, fun h => absurd h hc⟩
  · obtain rfl : n = 0 := by omega
    exact ⟨'0', [], rfl, fun _ => rfl⟩

end Folio.Json
