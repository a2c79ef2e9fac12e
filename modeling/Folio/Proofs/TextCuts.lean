import Folio.Text.Trim
import Mathlib.Data.List.TakeWhile

/-!
# Where a text is cut

A run of a class of characters ends exactly where the next character is of another class, and a cut
happens at the first occurrence of its separator. Both are stated as equivalences, so that a reader built
from such steps can be described by what it reads.
-/

namespace Folio.Text

def HeadAvoids (p : Char → Bool) (t : Text) : Prop := ∀ c ∈ t.head?, p c = false

@[simp] theorem headAvoids_nil (p : Char → Bool) : HeadAvoids p [] := by simp [HeadAvoids]

@[simp] theorem headAvoids_cons {p : Char → Bool} {c : Char} {t : Text} :
    HeadAvoids p (c :: t) ↔ p c = false := by simp [HeadAvoids]

theorem HeadAvoids.of_isPrefix {p : Char → Bool} {t u : Text} (h : HeadAvoids p t) (hu : u <+: t) :
    HeadAvoids p u := by
  obtain ⟨rest, rfl⟩ := hu
  cases u with
  | nil => exact headAvoids_nil p
  | cons c u => exact headAvoids_cons.2 (headAvoids_cons.1 h)

theorem headAvoids_dropWhile (p : Char → Bool) (t : Text) : HeadAvoids p (t.dropWhile p) := by
  induction t with
  | nil => simp
  | cons c t ih =>
    cases hc : p c with
    | true => simpa [List.dropWhile_cons, hc] using ih
    | false => simp [hc]

theorem dropWhile_eq_self {p : Char → Bool} {t : Text} (h : HeadAvoids p t) : t.dropWhile p = t := by
  cases t with
  | nil => rfl
  | cons c t => simp [headAvoids_cons.1 h]

theorem takeWhile_eq_nil {p : Char → Bool} {t : Text} (h : HeadAvoids p t) : t.takeWhile p = [] := by
  cases t with
  | nil => rfl
  | cons c t => simp [headAvoids_cons.1 h]

theorem takeWhile_run {p : Char → Bool} {run rest : Text} (hrun : ∀ c ∈ run, p c = true)
    (hrest : HeadAvoids p rest) : (run ++ rest).takeWhile p = run := by
  rw [List.takeWhile_append_of_pos hrun, takeWhile_eq_nil hrest, List.append_nil]

theorem dropWhile_run {p : Char → Bool} {run rest : Text} (hrun : ∀ c ∈ run, p c = true)
    (hrest : HeadAvoids p rest) : (run ++ rest).dropWhile p = rest := by
  rw [List.dropWhile_append_of_pos hrun, dropWhile_eq_self hrest]

theorem takeWhile_append_stop {p : Char → Bool} {c : Char} (hc : p c = false) (t u : Text) :
    (t ++ c :: u).takeWhile p = t.takeWhile p := by
  induction t with
  | nil => simp [hc]
  | cons d t ih => simp only [List.cons_append, List.takeWhile_cons, ih]

theorem dropWhile_append_stop {p : Char → Bool} {c : Char} (hc : p c = false) (t u : Text) :
    (t ++ c :: u).dropWhile p = t.dropWhile p ++ c :: u := by
  induction t with
  | nil => simp [hc]
  | cons d t ih =>
    simp only [List.cons_append, List.dropWhile_cons, ih]
    split <;> rfl

def IsBlanks (t : Text) : Prop := ∀ c ∈ t, Unicode.isBlank c = true

instance (t : Text) : Decidable (IsBlanks t) := List.decidableBAll _ t

theorem headAvoids_run {p : Char → Bool} {run rest : Text} (hrun : ∀ c ∈ run, p c = false)
    (hrest : HeadAvoids p rest) : HeadAvoids p (run ++ rest) := by
  cases run with
  | nil => exact hrest
  | cons c run => exact headAvoids_cons.2 (hrun c List.mem_cons_self)

theorem exists_blanks_append_trimStart (t : Text) : ∃ blanks, IsBlanks blanks ∧
    t = blanks ++ trimStart t ∧ HeadAvoids Unicode.isBlank (trimStart t) :=
  ⟨t.takeWhile Unicode.isBlank, fun _ hc => List.mem_takeWhile_imp hc,
    List.takeWhile_append_dropWhile.symm, headAvoids_dropWhile _ _⟩

theorem trimStart_blanks_append {blanks rest : Text} (hblanks : IsBlanks blanks)
    (hrest : HeadAvoids Unicode.isBlank rest) : trimStart (blanks ++ rest) = rest :=
  dropWhile_run hblanks hrest

theorem trimStart_append_stop {c : Char} (hc : Unicode.isBlank c = false) (t u : Text) :
    trimStart (t ++ c :: u) = trimStart t ++ c :: u :=
  dropWhile_append_stop hc t u

theorem dropPrefix?_append (p t : Text) : dropPrefix? p (p ++ t) = some t :=
  dropPrefix?_eq_some_iff.2 rfl

/-- A separator stands in a text for the first time where the text up to its end has it nowhere else. -/
def IsFirst (sep before : Text) : Prop :=
  ∀ earlier later, before ++ sep = earlier ++ sep ++ later → later = []

theorem isFirst_nil (sep : Text) : IsFirst sep [] := by
  intro earlier later h
  have hl := congrArg List.length h
  simp only [List.nil_append, List.length_append] at hl
  exact List.length_eq_zero_iff.1 (by omega)

theorem isFirst_of_cut? {sep t before after : Text} (h : cut? sep t = some (before, after)) :
    IsFirst sep before := by
  induction t generalizing before with
  | nil =>
    have hb : before = [] := by
      have := congrArg List.length (eq_of_cut? h)
      simp only [List.length_nil, List.length_append] at this
      exact List.length_eq_zero_iff.1 (by omega)
    exact hb ▸ isFirst_nil sep
  | cons c t ih =>
    rw [cut?] at h
    split at h
    · obtain ⟨rfl, -⟩ : [] = before ∧ _ = after := by simpa using h
      exact isFirst_nil sep
    · rename_i hnone
      obtain ⟨⟨b, a⟩, hc, heq⟩ := Option.map_eq_some_iff.1 h
      obtain ⟨rfl, rfl⟩ : c :: b = before ∧ a = after := by simpa using heq
      intro earlier later hcut
      cases earlier with
      | nil =>
        -- a separator at the very start would have been found
        have hstart : dropPrefix? sep (c :: t) = some (later ++ a) := by
          rw [dropPrefix?_eq_some_iff, eq_of_cut? hc, ← List.append_assoc, ← List.nil_append sep, ← hcut]
          simp
        rw [hnone] at hstart
        cases hstart
      | cons d earlier =>
        obtain ⟨-, htail⟩ := List.cons.inj hcut
        exact ih hc earlier later htail

theorem cut?_of_isFirst {sep before : Text} (after : Text) (h : IsFirst sep before) :
    cut? sep (before ++ sep ++ after) = some (before, after) := by
  induction before with
  | nil =>
    rw [List.nil_append]
    cases hs : sep ++ after with
    | nil =>
      obtain ⟨rfl, rfl⟩ := List.append_eq_nil_iff.1 hs
      rfl
    | cons c t =>
      rw [cut?, ← hs, dropPrefix?_append]
  | cons c before ih =>
    -- an earlier occurrence would already end inside of `before ++ sep`
    have hnone : dropPrefix? sep (c :: before ++ sep ++ after) = none := by
      cases hd : dropPrefix? sep (c :: before ++ sep ++ after) with
      | none => rfl
      | some rest =>
        have heq := dropPrefix?_eq_some_iff.1 hd
        have hsep : sep <+: c :: before ++ sep ++ after := heq ▸ List.prefix_append sep rest
        have hlength : sep.length ≤ (c :: before ++ sep).length := by
          simp only [List.length_cons, List.length_append]
          omega
        obtain ⟨later, hlater⟩ : sep <+: c :: before ++ sep :=
          List.prefix_of_prefix_length_le hsep (List.prefix_append _ after) hlength
        have hnil := h [] later (by simpa using hlater.symm)
        have hl := congrArg List.length hlater
        simp only [hnil, List.append_nil, List.length_cons, List.length_append] at hl
        omega
    have hb : IsFirst sep before := by
      intro earlier later hcut
      exact h (c :: earlier) later (by simp [hcut])
    simp only [List.cons_append] at hnone ⊢
    rw [cut?, hnone, ih hb]
    rfl

/-- A cut happens at the first occurrence of the separator. -/
theorem cut?_eq_some_iff {sep t before after : Text} :
    cut? sep t = some (before, after) ↔ t = before ++ sep ++ after ∧ IsFirst sep before := by
  constructor
  · intro h
    exact ⟨eq_of_cut? h, isFirst_of_cut? h⟩
  · rintro ⟨rfl, h⟩
    exact cut?_of_isFirst after h

theorem dropPrefix?_eq_none_iff {p t : Text} : dropPrefix? p t = none ↔ ¬ p <+: t := by
  rw [Option.eq_none_iff_forall_ne_some]
  constructor
  · rintro hnone ⟨rest, hrest⟩
    exact hnone rest (dropPrefix?_eq_some_iff.2 hrest.symm)
  · intro hprefix rest hrest
    exact hprefix ⟨rest, (dropPrefix?_eq_some_iff.1 hrest).symm⟩

theorem cut?_eq_none_iff {sep t : Text} : cut? sep t = none ↔ ¬ sep <:+: t := by
  induction t with
  | nil => simp [cut?]
  | cons c t ih =>
    rw [List.infix_cons_iff, not_or, ← dropPrefix?_eq_none_iff, ← ih, cut?]
    cases dropPrefix? sep (c :: t) with
    | none => simp
    | some rest => simp

end Folio.Text
