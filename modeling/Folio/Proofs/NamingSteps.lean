import Folio.Proofs.Articles
import Folio.Proofs.TextLines
import Mathlib

/-!
# The steps of naming

A text becomes a safe name in steps: small letters, no articles, symbols spelled out, unsafe characters
replaced, ends trimmed, separators merged. Each step has its lemmas: on the characters it lets through, on the
letters and digits it keeps and on the articles it may bring back.
-/

namespace Folio.Text

theorem isUpper_of_mem_asciiLower {t : Text} {c : Char} (h : c ∈ asciiLower t) : c.isUpper = false := by
  obtain ⟨d, -, rfl⟩ := List.mem_map.1 h
  exact Char.isUpper_toLower_eq_false d

theorem asciiLower_eq_self {t : Text} (h : ∀ c ∈ t, c.isUpper = false) : asciiLower t = t := by
  have hsame : ∀ c ∈ t, c.toLower = c := fun c hc => Char.toLower_eq_of_not_isUpper (by simp [h c hc])
  rw [asciiLower, List.map_congr_left hsame, List.map_id']

/-- Only letters are changed, into small ones. -/
theorem mem_of_mem_asciiLower {t : Text} {c : Char} (hc : c.isLower = false) (h : c ∈ asciiLower t) :
    c ∈ t := by
  obtain ⟨d, hd, rfl⟩ := List.mem_map.1 h
  have hupper : ¬ d.isUpper = true := by
    intro hupper
    rw [Char.isLower_toLower_eq_isAlpha, Char.isAlpha, hupper] at hc
    cases hc
  rwa [Char.toLower_eq_of_not_isUpper hupper]

end Folio.Text

namespace Folio.SafeName

open Text (HeadAvoids)
open Unicode (isAsciiAlphanumeric)

variable {removeDots : Bool} {t : Text} {c : Char}

theorem isSeparator_iff : isSeparator c = true ↔ c = '_' ∨ c = '-' := by simp [isSeparator]

theorem isSeparator_eq_false_iff : isSeparator c = false ↔ c ≠ '_' ∧ c ≠ '-' := by simp [isSeparator]

theorem isAsciiAlphanumeric_of_isSeparator (h : isSeparator c = true) : isAsciiAlphanumeric c = false := by
  rcases isSeparator_iff.1 h with rfl | rfl <;> rfl

theorem isAsciiAlphanumeric_of_isDot (h : decide (c = '.') = true) : isAsciiAlphanumeric c = false := by
  rw [of_decide_eq_true h]
  rfl

theorem filter_dropWhile {p q : Char → Bool} (hpq : ∀ c, q c = true → p c = false) (t : Text) :
    (t.dropWhile q).filter p = t.filter p := by
  induction t with
  | nil => rfl
  | cons c t ih =>
    cases hc : q c with
    | true => rw [List.dropWhile_cons_of_pos hc, ih, List.filter_cons_of_neg (by simp [hpq c hc])]
    | false => rw [List.dropWhile_cons_of_neg (by simp [hc])]

theorem filter_dropEndWhile {p q : Char → Bool} (hpq : ∀ c, q c = true → p c = false) (t : Text) :
    (Text.dropEndWhile q t).filter p = t.filter p := by
  rw [Text.dropEndWhile, List.filter_reverse, filter_dropWhile hpq, ← List.filter_reverse,
    List.reverse_reverse]

/-! ## Merging separators -/

/-- Whether `b` stays in a name when it follows `a`. -/
def MayFollow (a b : Char) : Prop := ¬ (isSeparator a = true ∧ a = b)

instance : DecidableRel MayFollow := fun a b => inferInstanceAs (Decidable (¬ (isSeparator a = true ∧ a = b)))

theorem mergeSeparators_eq_destutter (t : Text) : mergeSeparators t = t.destutter MayFollow := by
  induction t with
  | nil => rfl
  | cons c t ih =>
    cases t with
    | nil => rfl
    | cons d t =>
      rw [mergeSeparators, ih, List.destutter_cons_cons, List.destutter_cons']
      by_cases h : isSeparator c = true ∧ c = d
      · rw [if_pos (by simpa using h), if_neg (show ¬ MayFollow c d from not_not.2 h), h.2]
      · rw [if_neg (by simpa using h), if_pos (show MayFollow c d from h)]

theorem isChain_mergeSeparators (t : Text) : (mergeSeparators t).IsChain MayFollow := by
  rw [mergeSeparators_eq_destutter]
  exact t.isChain_destutter MayFollow

theorem mergeSeparators_eq_self (h : t.IsChain MayFollow) : mergeSeparators t = t := by
  rw [mergeSeparators_eq_destutter]
  exact t.destutter_of_isChain MayFollow h

theorem mergeSeparators_sublist (t : Text) : (mergeSeparators t).Sublist t := by
  rw [mergeSeparators_eq_destutter]
  exact t.destutter_sublist MayFollow

/-- Nothing is doubled exactly if each character may follow the one before. -/
theorem isChain_iff : t.IsChain MayFollow ↔ ¬ ['_', '_'] <:+: t ∧ ¬ ['-', '-'] <:+: t := by
  constructor
  · intro h
    constructor
    all_goals
      intro hpart
      have hpair := List.IsChain.infix h hpart
      revert hpair
      decide
  · rintro ⟨hlow, hdash⟩
    rw [List.isChain_iff_forall_rel_of_append_cons_cons]
    rintro a b before after rfl ⟨ha, rfl⟩
    have hpart : [a, a] <:+: before ++ a :: a :: after := ⟨before, after, by simp⟩
    rcases isSeparator_iff.1 ha with rfl | rfl
    · exact hlow hpart
    · exact hdash hpart

theorem head?_mergeSeparators (t : Text) : (mergeSeparators t).head? = t.head? := by
  fun_induction mergeSeparators t with
  | case1 => rfl
  | case2 c => rfl
  | case3 c d t h ih =>
    obtain ⟨-, rfl⟩ : isSeparator c = true ∧ c = d := by simpa using h
    exact ih
  | case4 c d t h ih => rfl

theorem getLast?_mergeSeparators (t : Text) : (mergeSeparators t).getLast? = t.getLast? := by
  fun_induction mergeSeparators t with
  | case1 => rfl
  | case2 c => rfl
  | case3 c d t h ih => rw [ih, List.getLast?_cons_cons]
  | case4 c d t h ih =>
    obtain ⟨rest, hrest⟩ := List.head?_eq_some_iff.1 (head?_mergeSeparators (d :: t))
    rw [hrest] at ih ⊢
    rw [List.getLast?_cons_cons, List.getLast?_cons_cons, ih]

theorem filter_mergeSeparators (t : Text) :
    (mergeSeparators t).filter isAsciiAlphanumeric = t.filter isAsciiAlphanumeric := by
  fun_induction mergeSeparators t with
  | case1 => rfl
  | case2 c => rfl
  | case3 c d t h ih =>
    obtain ⟨hc, rfl⟩ : isSeparator c = true ∧ c = d := by simpa using h
    have hneg : ¬ isAsciiAlphanumeric c = true := by simp [isAsciiAlphanumeric_of_isSeparator hc]
    exact ih.trans (List.filter_cons_of_neg hneg).symm
  | case4 c d t h ih => rw [List.filter_cons, ih, ← List.filter_cons]

theorem NoArticle.mergeSeparators {word : Text} (h : NoArticle isAsciiAlphanumeric word t) :
    NoArticle isAsciiAlphanumeric word (mergeSeparators t) := by
  fun_induction SafeName.mergeSeparators t generalizing word with
  | case1 => exact h
  | case2 c => exact h
  | case3 c d t hcd ih =>
    obtain ⟨hc, rfl⟩ : isSeparator c = true ∧ c = d := by simpa using hcd
    -- the word in hand ends at either of the two separators
    have hgap := isAsciiAlphanumeric_of_isSeparator hc
    obtain ⟨hword, ht⟩ := (noArticle_cons_of_neg hgap).1 h
    exact ih ((noArticle_cons_of_neg hgap).2 ⟨hword, ((noArticle_cons_of_neg hgap).1 ht).2⟩)
  | case4 c d t hcd ih => exact h.cons fun _ => ih

/-! ## Trimming -/

theorem trimEnds_isInfix (t : Text) : trimEnds t <:+: t :=
  (Text.dropEndWhile_isPrefix _ _).isInfix.trans
    ((List.dropWhile_suffix _).isInfix.trans (List.dropWhile_suffix _).isInfix)

theorem headAvoids_trimEnds (t : Text) : HeadAvoids isSeparator (trimEnds t) :=
  (Text.headAvoids_dropWhile _ _).of_isPrefix (Text.dropEndWhile_isPrefix _ _)

theorem isSeparator_getLast?_trimEnds (t : Text) : ∀ c ∈ (trimEnds t).getLast?, isSeparator c = false := by
  rw [trimEnds, Text.dropEndWhile, List.getLast?_reverse]
  exact Text.headAvoids_dropWhile _ _

theorem head?_trimEnds (t : Text) :
    (trimEnds t).head? = ((t.dropWhile (· = '.')).dropWhile isSeparator).head? :=
  Text.head?_dropEndWhile (Text.headAvoids_dropWhile _ _)

theorem filter_trimEnds (t : Text) :
    (trimEnds t).filter isAsciiAlphanumeric = t.filter isAsciiAlphanumeric := by
  rw [trimEnds, filter_dropEndWhile fun c => isAsciiAlphanumeric_of_isSeparator,
    filter_dropWhile fun c => isAsciiAlphanumeric_of_isSeparator,
    filter_dropWhile fun c => isAsciiAlphanumeric_of_isDot]

theorem NoArticle.trimEnds (h : NoArticle isAsciiAlphanumeric [] t) :
    NoArticle isAsciiAlphanumeric [] (trimEnds t) := by
  apply NoArticle.dropEndWhile fun c => isAsciiAlphanumeric_of_isSeparator
  apply NoArticle.dropWhile fun c => isAsciiAlphanumeric_of_isSeparator
  exact h.dropWhile fun c => isAsciiAlphanumeric_of_isDot

/-! ## Replacing unsafe characters -/

theorem isAsciiAlphanumeric_safeChar (removeDots : Bool) (c : Char) :
    isAsciiAlphanumeric (safeChar removeDots c) = isAsciiAlphanumeric c := by
  have hlow : isAsciiAlphanumeric '_' = false := rfl
  grind [safeChar, isSafe]

theorem safeChar_of_isSafe (h : isSafe removeDots c = true) : safeChar removeDots c = c := if_pos h

theorem isSafe_of_isAsciiAlphanumeric (removeDots : Bool) (h : isAsciiAlphanumeric c = true) :
    isSafe removeDots c = true := by simp [isSafe, h]

theorem filter_map_safeChar (removeDots : Bool) (t : Text) :
    (t.map (safeChar removeDots)).filter isAsciiAlphanumeric = t.filter isAsciiAlphanumeric := by
  induction t with
  | nil => rfl
  | cons c t ih =>
    rw [List.map_cons, List.filter_cons, List.filter_cons, isAsciiAlphanumeric_safeChar, ih]
    split
    · rename_i hc
      rw [safeChar_of_isSafe (isSafe_of_isAsciiAlphanumeric removeDots hc)]
    · rfl

theorem NoArticle.map_safeChar {word : Text} (h : NoArticle isAsciiAlphanumeric word t) (removeDots : Bool) :
    NoArticle isAsciiAlphanumeric word (t.map (safeChar removeDots)) :=
  (noArticle_map (isAsciiAlphanumeric_safeChar removeDots) fun _ hc =>
    safeChar_of_isSafe (isSafe_of_isAsciiAlphanumeric removeDots hc)).2 h

theorem safeChar_eq_dot_iff : safeChar false c = '.' ↔ c = '.' := by
  grind [safeChar, isSafe]

theorem isSeparator_safeChar (c : Char) :
    isSeparator (safeChar false c) = (!isAsciiAlphanumeric c && decide (c ≠ '.')) := by
  have hlow : isAsciiAlphanumeric '_' = false := rfl
  have hdash : isAsciiAlphanumeric '-' = false := rfl
  grind [safeChar, isSafe, isSeparator]

/-! ## Spelling symbols out -/

theorem spellSymbol_of_isSafe (h : isSafe removeDots c = true) : spellSymbol c = [c] := by
  apply spellSymbol.eq_6
  all_goals
    rintro rfl
    revert removeDots
    decide

theorem eq_or_isUpper_of_mem_spellSymbol {d : Char} (h : c ∈ spellSymbol d) :
    c = d ∨ c.isUpper = false := by
  rw [spellSymbol.eq_def] at h
  split at h
  case h_6 => exact .inl (List.mem_singleton.1 h)
  all_goals
    right
    revert c
    rw [← List.forall_iff_forall_mem]
    decide

theorem isUpper_of_mem_spellOut (h : c ∈ spellOut t) : c.isUpper = false := by
  obtain ⟨d, hd, hc⟩ := List.mem_flatMap.1 h
  rcases eq_or_isUpper_of_mem_spellSymbol hc with rfl | hc
  · exact Text.isUpper_of_mem_asciiLower (mem_of_mem_dropArticles hd)
  · exact hc

/-- A symbol that is spelled out joins the words around it, but into no article. -/
theorem NoArticle.spellSymbols {word grown : Text} (h : NoArticle isAsciiAlphanumeric word t)
    (hgrown : Grown word grown) : NoArticle isAsciiAlphanumeric grown (t.flatMap spellSymbol) := by
  induction t generalizing word grown with
  | nil => exact hgrown.not_mem h
  | cons c t ih =>
    rw [List.flatMap_cons]
    cases hc : isAsciiAlphanumeric c with
    | true =>
      rw [spellSymbol_of_isSafe (isSafe_of_isAsciiAlphanumeric false hc), List.singleton_append,
        noArticle_cons_of_pos hc]
      exact ih ((noArticle_cons_of_pos hc).1 h) (hgrown.append [c])
    | false =>
      obtain ⟨hword, ht⟩ := (noArticle_cons_of_neg hc).1 h
      have hrest := ih ht (.refl [])
      have hjoined : ∀ (run : Text) (d : Char), run.all isAsciiAlphanumeric = true → d ∈ run →
          (∀ article ∈ articles, d ∉ article) →
          NoArticle isAsciiAlphanumeric grown (run ++ t.flatMap spellSymbol) := by
        intro run d hrun hd hforeign
        rw [noArticle_run (List.all_eq_true.1 hrun)]
        exact ih ht (.of_run grown hd hforeign)
      rw [spellSymbol.eq_def]
      split
      case h_1 => exact hjoined "and".toList 'd' (by decide) (by decide) (by decide)
      case h_2 => exact (noArticle_cons_of_neg (by decide)).2 ⟨hgrown.not_mem hword, hrest⟩
      case h_3 => exact hjoined "x".toList 'x' (by decide) (by decide) (by decide)
      case h_4 => exact hjoined "and".toList 'd' (by decide) (by decide) (by decide)
      case h_5 =>
        -- the word `at` between two low lines
        refine (noArticle_cons_of_neg (by decide)).2 ⟨hgrown.not_mem hword, ?_⟩
        have hat : "at".toList.all isAsciiAlphanumeric = true := by decide
        exact (noArticle_run (List.all_eq_true.1 hat)).2
          ((noArticle_cons_of_neg (by decide)).2 ⟨by decide, hrest⟩)
      case h_6 => exact (noArticle_cons_of_neg hc).2 ⟨hgrown.not_mem hword, hrest⟩

end Folio.SafeName
