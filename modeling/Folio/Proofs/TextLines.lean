import Folio.Proofs.CharacterClasses
import Folio.Proofs.TextCuts
import Mathlib.Data.List.DropRight
import Mathlib.Data.List.Infix

/-!
# Lines of a text

A line feed between two texts separates their lines, so the lines of texts that were joined with lines
between them are known; so are the pieces between the occurrences of any one character. Text without blanks or
carriage returns passes through trimming and through the normalization of line breaks as it is.
-/

namespace Folio.Text

theorem splitAtChar_cons_of_ne {sep c : Char} (h : c ≠ sep) (t : Text) : splitAtChar sep (c :: t) =
    (c :: (splitAtChar sep t).headD []) :: (splitAtChar sep t).tail := by
  rw [splitAtChar, if_neg h]
  cases hp : splitAtChar sep t with
  | nil => exact absurd hp (splitAtChar_ne_nil sep t)
  | cons piece pieces => rfl

theorem splitAtChar_append_sep (sep : Char) (t u : Text) :
    splitAtChar sep (t ++ sep :: u) = splitAtChar sep t ++ splitAtChar sep u := by
  induction t with
  | nil => simp [splitAtChar]
  | cons c t ih =>
    rw [List.cons_append, splitAtChar, ih, splitAtChar]
    split
    · rfl
    · cases hp : splitAtChar sep t with
      | nil => exact absurd hp (splitAtChar_ne_nil sep t)
      | cons piece pieces => rfl

theorem lines_append_newline (t u : Text) : lines (t ++ '\n' :: u) = lines t ++ lines u :=
  splitAtChar_append_sep '\n' t u

theorem splitAtChar_append_of_not_mem {sep : Char} {t : Text} (h : sep ∉ t) (u : Text) {piece : Text}
    {pieces : List Text} (hu : splitAtChar sep u = piece :: pieces) :
    splitAtChar sep (t ++ u) = (t ++ piece) :: pieces := by
  induction t with
  | nil => exact hu
  | cons c t ih =>
    rw [List.mem_cons, not_or] at h
    rw [List.cons_append, splitAtChar, if_neg (Ne.symm h.1), ih h.2]
    rfl

theorem splitAtChar_of_not_mem {sep : Char} {t : Text} (h : sep ∉ t) : splitAtChar sep t = [t] := by
  have hpieces := splitAtChar_append_of_not_mem h [] (show splitAtChar sep [] = [[]] from rfl)
  rwa [List.append_nil] at hpieces

theorem lines_of_not_mem {t : Text} (h : '\n' ∉ t) : lines t = [t] := splitAtChar_of_not_mem h

/-- The lines of a text that starts with a text of one line. -/
theorem lines_append_of_not_mem {t : Text} (h : '\n' ∉ t) (u : Text) :
    lines (t ++ u) = (t ++ (lines u).headD []) :: (lines u).tail := by
  cases hu : lines u with
  | nil => exact absurd hu (splitAtChar_ne_nil '\n' u)
  | cons line rest => exact splitAtChar_append_of_not_mem h u hu

theorem mem_of_mem_splitAtChar {sep : Char} {t piece : Text} (h : piece ∈ splitAtChar sep t) :
    ∀ c ∈ piece, c ∈ t ∧ c ≠ sep := by
  induction t generalizing piece with
  | nil =>
    obtain rfl : piece = [] := by simpa [splitAtChar] using h
    simp
  | cons d t ih =>
    intro c hc
    by_cases hd : d = sep
    · rw [splitAtChar, if_pos hd] at h
      rcases List.mem_cons.1 h with rfl | h
      · cases hc
      · exact (ih h c hc).imp_left (List.mem_cons_of_mem d)
    · obtain ⟨first, rest, hp⟩ := List.exists_cons_of_ne_nil (splitAtChar_ne_nil sep t)
      rw [splitAtChar_cons_of_ne hd, hp] at h
      rw [hp] at ih
      rcases List.mem_cons.1 h with rfl | h
      · rcases List.mem_cons.1 hc with rfl | hc
        · exact ⟨List.mem_cons_self, hd⟩
        · exact (ih List.mem_cons_self c hc).imp_left (List.mem_cons_of_mem d)
      · exact (ih (List.mem_cons_of_mem first h) c hc).imp_left (List.mem_cons_of_mem d)

theorem newline_not_mem_of_mem_lines {t line : Text} (h : line ∈ lines t) : '\n' ∉ line :=
  fun hmem => (mem_of_mem_splitAtChar h _ hmem).2 rfl

/-- Text that is appended goes on in the last line. -/
theorem exists_lines_append (t : Text) : ∃ init last, lines t = init ++ [last] ∧
    ∀ u, lines (t ++ u) = init ++ (last ++ (lines u).headD []) :: (lines u).tail := by
  induction t with
  | nil =>
    refine ⟨[], [], rfl, ?_⟩
    intro u
    cases hu : lines u with
    | nil => exact absurd hu (splitAtChar_ne_nil '\n' u)
    | cons line rest => exact hu
  | cons c t ih =>
    obtain ⟨init, last, ht, happend⟩ := ih
    by_cases hc : c = '\n'
    · subst hc
      refine ⟨[] :: init, last, congrArg (List.cons []) ht, ?_⟩
      intro u
      exact congrArg (List.cons []) (happend u)
    · have hcons : ∀ t, lines (c :: t) = (c :: (lines t).headD []) :: (lines t).tail :=
        splitAtChar_cons_of_ne hc
      -- the character joins the first line, which is the open one if there is no other
      cases init with
      | nil =>
        refine ⟨[], c :: last, by rw [hcons, ht]; rfl, ?_⟩
        intro u
        rw [List.cons_append, hcons, happend]
        rfl
      | cons first init =>
        refine ⟨(c :: first) :: init, last, by rw [hcons, ht]; rfl, ?_⟩
        intro u
        rw [List.cons_append, hcons, happend]
        rfl

theorem join_cons_of_ne_nil (sep t : Text) {ts : List Text} (h : ts ≠ []) :
    join sep (t :: ts) = t ++ sep ++ join sep ts := by
  cases ts with
  | nil => exact absurd rfl h
  | cons u us => rfl

theorem splitAtChar_join {sep : Char} {ts : List Text} (hne : ts ≠ []) (h : ∀ t ∈ ts, sep ∉ t) :
    splitAtChar sep (join [sep] ts) = ts := by
  induction ts with
  | nil => exact absurd rfl hne
  | cons t ts ih =>
    obtain ⟨ht, h⟩ := List.forall_mem_cons.1 h
    by_cases hts : ts = []
    · subst hts
      exact splitAtChar_of_not_mem ht
    · rw [join_cons_of_ne_nil _ t hts, List.append_assoc, List.singleton_append, splitAtChar_append_sep,
        splitAtChar_of_not_mem ht, ih hts h, List.singleton_append]

theorem lines_join {ls : List Text} (hne : ls ≠ []) (h : ∀ line ∈ ls, '\n' ∉ line) :
    lines (join ['\n'] ls) = ls :=
  splitAtChar_join hne h

/-- Without a line the text is empty, and an empty text has one line. -/
theorem tail_lines_join {ls : List Text} (h : ∀ line ∈ ls, '\n' ∉ line) :
    (lines (join ['\n'] ls)).tail = ls.tail := by
  cases ls with
  | nil => rfl
  | cons line ls => rw [lines_join (List.cons_ne_nil line ls) h]

theorem mem_join {sep : Text} {c : Char} {ts : List Text} (h : c ∈ join sep ts) :
    c ∈ sep ∨ ∃ t ∈ ts, c ∈ t := by
  induction ts with
  | nil => cases h
  | cons t ts ih =>
    by_cases hts : ts = []
    · subst hts
      exact .inr ⟨t, List.mem_cons_self, h⟩
    · rw [join_cons_of_ne_nil sep t hts, List.mem_append, List.mem_append] at h
      rcases h with (h | h) | h
      · exact .inr ⟨t, List.mem_cons_self, h⟩
      · exact .inl h
      · rcases ih h with hsep | ⟨u, hu, hc⟩
        · exact .inl hsep
        · exact .inr ⟨u, List.mem_cons_of_mem t hu, hc⟩

theorem normalizeLineBreaks_eq_self {t : Text} (h : '\r' ∉ t) : normalizeLineBreaks t = t := by
  fun_induction normalizeLineBreaks t with
  | case1 => rfl
  | case2 t ih => simp at h
  | case3 c t _ ih =>
    rw [List.mem_cons, not_or] at h
    rw [if_neg (Ne.symm h.1), ih h.2]

theorem return_not_mem_normalizeLineBreaks (t : Text) : '\r' ∉ normalizeLineBreaks t := by
  fun_induction normalizeLineBreaks t with
  | case1 => exact List.not_mem_nil
  | case2 t ih =>
    rw [List.mem_cons, not_or]
    exact ⟨by decide, ih⟩
  | case3 c t _ ih =>
    rw [List.mem_cons, not_or]
    refine ⟨?_, ih⟩
    split
    · decide
    · rename_i hc
      exact Ne.symm hc

theorem trim_eq_self {t : Text} (h : ∀ c ∈ t, Unicode.isBlank c = false) : trim t = t := by
  have hdrop : ∀ u : Text, (∀ c ∈ u, Unicode.isBlank c = false) →
      u.dropWhile Unicode.isBlank = u := by
    intro u hu
    apply dropWhile_eq_self
    intro c hc
    exact hu c (List.mem_of_mem_head? hc)
  rw [trim, trimStart, hdrop t h, trimEnd, dropEndWhile, hdrop t.reverse (by simpa using h),
    List.reverse_reverse]

theorem dropEndWhile_isPrefix (p : Char → Bool) (t : Text) : dropEndWhile p t <+: t :=
  List.rdropWhile_prefix p t

/-- A character that stays at the start of a text is not reached from its end. -/
theorem head?_dropEndWhile {p : Char → Bool} {t : Text} (h : HeadAvoids p t) :
    (dropEndWhile p t).head? = t.head? := by
  cases t with
  | nil => rfl
  | cons c t =>
    have hne : dropEndWhile p (c :: t) ≠ [] := by
      intro hnil
      have hall := (List.rdropWhile_eq_nil_iff (p := p) (l := c :: t)).1 hnil c List.mem_cons_self
      rw [headAvoids_cons.1 h] at hall
      cases hall
    obtain ⟨d, u, hu⟩ := List.exists_cons_of_ne_nil hne
    obtain ⟨rest, hrest⟩ := hu ▸ dropEndWhile_isPrefix p (c :: t)
    rw [hu, ← hrest]
    rfl

theorem trimEnd_isPrefix (t : Text) : trimEnd t <+: t := dropEndWhile_isPrefix Unicode.isBlank t

theorem trim_isInfix (t : Text) : trim t <:+: t :=
  (trimEnd_isPrefix (trimStart t)).isInfix.trans (List.dropWhile_suffix _).isInfix

theorem trim_trim (t : Text) : trim (trim t) = trim t := by
  have hstart : trimStart (trim t) = trim t :=
    dropWhile_eq_self ((headAvoids_dropWhile Unicode.isBlank t).of_isPrefix (trimEnd_isPrefix (trimStart t)))
  have hend : trimEnd (trim t) = trim t := List.rdropWhile_idempotent Unicode.isBlank (trimStart t)
  rw [trim, hstart, hend]

theorem trim_blanks_append {blanks : Text} (hblanks : IsBlanks blanks) (t : Text) :
    trim (blanks ++ t) = trim t := by
  rw [trim, trimStart, List.dropWhile_append_of_pos hblanks, trim, trimStart]

theorem trim_of_isBlanks {t : Text} (h : IsBlanks t) : trim t = [] := by
  rw [← List.append_nil t, trim_blanks_append h]
  rfl

theorem trim_append_blanks (t : Text) {blanks : Text} (hblanks : IsBlanks blanks) :
    trim (t ++ blanks) = trim t := by
  have hend : ∀ u : Text, trimEnd (u ++ blanks) = trimEnd u := by
    intro u
    rw [trimEnd, dropEndWhile, List.reverse_append,
      List.dropWhile_append_of_pos fun c hc => hblanks c (List.mem_reverse.1 hc), trimEnd, dropEndWhile]
  rw [trim, trimStart, List.dropWhile_append]
  split
  · rename_i hnone
    rw [List.dropWhile_eq_nil_iff.2 hblanks, trim, trimStart, List.isEmpty_iff.1 hnone]
  · rw [hend, trim, trimStart]

theorem startsWith_iff {p t : Text} : startsWith p t = true ↔ ∃ rest, t = p ++ rest := by
  rw [startsWith, Option.isSome_iff_exists]
  exact exists_congr fun rest => dropPrefix?_eq_some_iff

theorem isBlank_iff {t : Text} : isBlank t = true ↔ IsBlanks t := List.all_eq_true

theorem isBlank_eq_false_of_mem {t : Text} {c : Char} (hmem : c ∈ t) (hc : Unicode.isBlank c = false) :
    isBlank t = false := by
  rw [Bool.eq_false_iff, ne_eq, isBlank_iff]
  intro hblanks
  rw [hblanks c hmem] at hc
  cases hc

/-- A separator without characters of a class stands for the first time right after a run of that
class. -/
theorem isFirst_of_run {p : Char → Bool} {sep run : Text} (hne : sep ≠ [])
    (hsep : ∀ c ∈ sep, p c = false) (hrun : ∀ c ∈ run, p c = true) : IsFirst sep run := by
  intro earlier later heq
  by_contra hlater
  have hlength := congrArg List.length heq
  have hpos : 0 < later.length := List.length_pos_iff.2 hlater
  simp only [List.length_append] at hlength
  -- an earlier separator would start inside of the run
  obtain ⟨c, rest, rfl⟩ := List.exists_cons_of_ne_nil hne
  have hget := congrArg (·[earlier.length]?) heq
  simp only [List.append_assoc] at hget
  rw [List.getElem?_append_left (by omega), List.getElem?_append_right (Nat.le_refl _)] at hget
  have hc := hrun c (List.mem_of_getElem? (by simpa using hget))
  rw [hsep c List.mem_cons_self] at hc
  cases hc

theorem isFirst_of_not_mem {c : Char} {t : Text} (h : c ∉ t) : IsFirst [c] t := by
  apply isFirst_of_run (p := (· ≠ c)) (List.cons_ne_nil c []) (by simp)
  intro d hd
  rw [decide_eq_true_iff]
  rintro rfl
  exact h hd

theorem not_mem_of_contains {c : Char} {t : Text} (h : contains [c] t = false) : c ∉ t := by
  intro hmem
  obtain ⟨before, after, rfl, hbefore⟩ := List.eq_append_cons_of_mem hmem
  rw [contains, List.append_cons, cut?_of_isFirst after (isFirst_of_not_mem hbefore)] at h
  cases h

theorem cut?_singleton_eq_none_iff {c : Char} {t : Text} : cut? [c] t = none ↔ c ∉ t := by
  rw [cut?_eq_none_iff, List.singleton_infix_iff]

/-! ## Pieces between separators -/

theorem splitOn_of_cut?_eq_none {sep t : Text} (hsep : sep ≠ []) (h : cut? sep t = none) :
    splitOn sep t = [t] := by
  rw [splitOn, dif_neg hsep]
  split
  · rfl
  · rename_i hsome
    rw [h] at hsome
    cases hsome

theorem splitOn_of_cut?_eq_some {sep t before after : Text} (hsep : sep ≠ [])
    (h : cut? sep t = some (before, after)) : splitOn sep t = before :: splitOn sep after := by
  rw [splitOn, dif_neg hsep]
  split
  · rename_i hnone
    rw [h] at hnone
    cases hnone
  · rename_i before' after' hsome
    obtain ⟨rfl, rfl⟩ : before = before' ∧ after = after' := by simpa [h] using hsome
    rfl

/-- A separator of one character splits as that character does. -/
theorem splitOn_singleton (sep : Char) (t : Text) : splitOn [sep] t = splitAtChar sep t := by
  induction hn : t.length using Nat.strong_induction_on generalizing t with
  | _ n ih =>
    have hsep := List.cons_ne_nil sep []
    by_cases hmem : sep ∈ t
    · obtain ⟨before, after, rfl, hbefore⟩ := List.eq_append_cons_of_mem hmem
      have hcut : cut? [sep] (before ++ sep :: after) = some (before, after) := by
        rw [List.append_cons]
        exact cut?_of_isFirst after (isFirst_of_not_mem hbefore)
      have hlength : after.length < n := by
        rw [← hn, List.length_append, List.length_cons]
        omega
      rw [splitOn_of_cut?_eq_some hsep hcut, ih after.length hlength after rfl, splitAtChar_append_sep,
        splitAtChar_of_not_mem hbefore, List.singleton_append]
    · rw [splitOn_of_cut?_eq_none hsep (cut?_singleton_eq_none_iff.2 hmem), splitAtChar_of_not_mem hmem]

end Folio.Text
