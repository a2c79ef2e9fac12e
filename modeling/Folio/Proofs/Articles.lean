import Folio.Proofs.TextCuts
import Folio.SafeName

/-!
# Articles in a text

An article stands alone where a word starts right before it and ends right after it. What the later steps
of naming do to a text is told by the runs of a class of characters: whether none of them is an article is
decided from left to right, with the run that is being read in hand.
-/

namespace Folio.SafeName

/-- A word starts or ends between two texts: a character of words is on exactly one side. -/
def IsWordBoundary (before after : Text) : Prop :=
  before.getLast?.any isWordChar ≠ after.head?.any isWordChar

def StandsAlone (word t : Text) : Prop :=
  ∃ before after, t = before ++ word ++ after ∧ IsWordBoundary before (word ++ after) ∧
    IsWordBoundary (before ++ word) after

/-- No run of characters of a class is an article; `word` is what has been read of the first run. -/
def NoArticle (p : Char → Bool) (word : Text) : Text → Prop
  | [] => word ∉ articles
  | c :: t => if p c then NoArticle p (word ++ [c]) t else word ∉ articles ∧ NoArticle p [] t

variable {p q : Char → Bool} {word t : Text}

theorem noArticle_cons_of_pos {c : Char} (hc : p c = true) :
    NoArticle p word (c :: t) ↔ NoArticle p (word ++ [c]) t := by
  rw [NoArticle, if_pos hc]

theorem noArticle_cons_of_neg {c : Char} (hc : p c = false) :
    NoArticle p word (c :: t) ↔ word ∉ articles ∧ NoArticle p [] t := by
  rw [NoArticle, if_neg (by simp [hc])]

/-- What does not bring articles back in the rest of a text does not do so in the whole. -/
theorem NoArticle.cons {u : Text} {c : Char} (hrest : ∀ word, NoArticle p word t → NoArticle p word u)
    (h : NoArticle p word (c :: t)) : NoArticle p word (c :: u) := by
  cases hc : p c with
  | true =>
    rw [noArticle_cons_of_pos hc] at h ⊢
    exact hrest _ h
  | false =>
    rw [noArticle_cons_of_neg hc] at h ⊢
    exact ⟨h.1, hrest [] h.2⟩

theorem noArticle_run {run : Text} (hrun : ∀ c ∈ run, p c = true) :
    NoArticle p word (run ++ t) ↔ NoArticle p (word ++ run) t := by
  induction run generalizing word with
  | nil => simp
  | cons c run ih =>
    obtain ⟨hc, hrun⟩ := List.forall_mem_cons.1 hrun
    rw [List.cons_append, noArticle_cons_of_pos hc, ih hrun, List.append_assoc, List.singleton_append]

theorem noArticle_congr (h : ∀ c ∈ t, p c = q c) : NoArticle p word t ↔ NoArticle q word t := by
  induction t generalizing word with
  | nil => rfl
  | cons c t ih =>
    obtain ⟨hc, ht⟩ := List.forall_mem_cons.1 h
    rw [NoArticle, NoArticle, hc, ih ht, ih ht]

theorem noArticle_map {f : Char → Char} (hclass : ∀ c, p (f c) = p c) (hkeep : ∀ c, p c = true → f c = c) :
    NoArticle p word (t.map f) ↔ NoArticle p word t := by
  induction t generalizing word with
  | nil => rfl
  | cons c t ih =>
    rw [List.map_cons]
    cases hc : p c with
    | true => rw [hkeep c hc, noArticle_cons_of_pos hc, noArticle_cons_of_pos hc, ih]
    | false => rw [noArticle_cons_of_neg ((hclass c).trans hc), noArticle_cons_of_neg hc, ih]

/-- The first run ends where a text is cut. -/
theorem NoArticle.not_mem_of_gap {gap : Text} (hgap : ∀ c ∈ gap, p c = false) (h : NoArticle p word gap) :
    word ∉ articles := by
  cases gap with
  | nil => exact h
  | cons c gap => exact ((noArticle_cons_of_neg (hgap c List.mem_cons_self)).1 h).1

theorem NoArticle.of_append {gap : Text} (hgap : ∀ c ∈ gap, p c = false)
    (h : NoArticle p word (t ++ gap)) : NoArticle p word t := by
  induction t generalizing word with
  | nil => exact h.not_mem_of_gap hgap
  | cons c t ih => exact NoArticle.cons (fun _ => ih) h

theorem NoArticle.dropWhile (hpq : ∀ c, q c = true → p c = false) (h : NoArticle p [] t) :
    NoArticle p [] (t.dropWhile q) := by
  induction t with
  | nil => exact h
  | cons c t ih =>
    cases hc : q c with
    | true =>
      rw [List.dropWhile_cons_of_pos hc]
      exact ih ((noArticle_cons_of_neg (hpq c hc)).1 h).2
    | false => rwa [List.dropWhile_cons_of_neg (by simp [hc])]

theorem NoArticle.dropEndWhile (hpq : ∀ c, q c = true → p c = false) (h : NoArticle p word t) :
    NoArticle p word (Text.dropEndWhile q t) := by
  have ht : t = Text.dropEndWhile q t ++ (t.reverse.takeWhile q).reverse := by
    rw [Text.dropEndWhile, ← List.reverse_append, List.takeWhile_append_dropWhile, List.reverse_reverse]
  rw [ht] at h
  apply h.of_append
  intro c hc
  exact hpq c (List.mem_takeWhile_imp (List.mem_reverse.1 hc))

/-- What a run becomes: itself, or a run with a character that is in no article. -/
def Grown (word grown : Text) : Prop := grown = word ∨ ∃ c ∈ grown, ∀ article ∈ articles, c ∉ article

theorem Grown.refl (word : Text) : Grown word word := .inl rfl

theorem Grown.append {grown : Text} (h : Grown word grown) (run : Text) :
    Grown (word ++ run) (grown ++ run) := by
  rcases h with rfl | ⟨c, hc, hforeign⟩
  · exact .inl rfl
  · exact .inr ⟨c, List.mem_append_left run hc, hforeign⟩

theorem Grown.of_run (grown : Text) {run : Text} {c : Char} (hc : c ∈ run)
    (hforeign : ∀ article ∈ articles, c ∉ article) : Grown word (grown ++ run) :=
  .inr ⟨c, List.mem_append_right grown hc, hforeign⟩

theorem Grown.not_mem {grown : Text} (h : Grown word grown) (hword : word ∉ articles) :
    grown ∉ articles := by
  rcases h with rfl | ⟨c, hc, hforeign⟩
  · exact hword
  · exact fun hmem => hforeign grown hmem hc

/-! ## Dropping articles -/

theorem nil_not_mem_articles : [] ∉ articles := by decide

theorem keepWord_of_not_mem (h : word ∉ articles) : keepWord word = word := if_neg h

theorem keepWord_not_mem (word : Text) : keepWord word ∉ articles := by
  rw [keepWord]
  split
  · exact nil_not_mem_articles
  · assumption

theorem mem_of_mem_keepWord {c : Char} (h : c ∈ keepWord word) : c ∈ word := by
  rw [keepWord] at h
  split at h
  · cases h
  · exact h

theorem mem_of_mem_dropArticlesFrom {c : Char} (h : c ∈ dropArticlesFrom word t) : c ∈ word ∨ c ∈ t := by
  induction t generalizing word with
  | nil => exact .inl (mem_of_mem_keepWord h)
  | cons d t ih =>
    rw [dropArticlesFrom] at h
    split at h
    · rcases ih h with hc | hc
      · rcases List.mem_append.1 hc with hc | hc
        · exact .inl hc
        · exact .inr (List.mem_singleton.1 hc ▸ List.mem_cons_self)
      · exact .inr (List.mem_cons_of_mem d hc)
    · rcases List.mem_append.1 h with hc | hc
      · exact .inl (mem_of_mem_keepWord hc)
      · rcases List.mem_cons.1 hc with rfl | hc
        · exact .inr List.mem_cons_self
        · exact .inr (List.mem_cons_of_mem d ((ih hc).resolve_left List.not_mem_nil))

theorem mem_of_mem_dropArticles {c : Char} (h : c ∈ dropArticles t) : c ∈ t :=
  (mem_of_mem_dropArticlesFrom h).resolve_left List.not_mem_nil

theorem noArticle_dropArticlesFrom (hword : ∀ c ∈ word, isWordChar c = true) :
    NoArticle isWordChar [] (dropArticlesFrom word t) := by
  have hkeep : ∀ {word : Text}, (∀ c ∈ word, isWordChar c = true) →
      ∀ c ∈ keepWord word, isWordChar c = true := fun h c hc => h c (mem_of_mem_keepWord hc)
  induction t generalizing word with
  | nil =>
    rw [dropArticlesFrom, ← List.append_nil (keepWord word), noArticle_run (hkeep hword)]
    exact keepWord_not_mem word
  | cons c t ih =>
    rw [dropArticlesFrom]
    split
    · rename_i hc
      apply ih
      simpa [or_imp, forall_and, hc] using hword
    · rename_i hc
      rw [noArticle_run (hkeep hword), noArticle_cons_of_neg (Bool.eq_false_iff.2 hc)]
      exact ⟨keepWord_not_mem word, ih (List.forall_mem_nil _)⟩

theorem noArticle_dropArticles (t : Text) : NoArticle isWordChar [] (dropArticles t) :=
  noArticle_dropArticlesFrom (List.forall_mem_nil _)

theorem NoArticle.dropArticlesFrom_eq (h : NoArticle isWordChar word t) :
    dropArticlesFrom word t = word ++ t := by
  induction t generalizing word with
  | nil => rw [dropArticlesFrom, keepWord_of_not_mem h, List.append_nil]
  | cons c t ih =>
    rw [dropArticlesFrom]
    split
    · rename_i hc
      rw [ih ((noArticle_cons_of_pos hc).1 h), List.append_assoc, List.singleton_append]
    · rename_i hc
      obtain ⟨hword, ht⟩ := (noArticle_cons_of_neg (Bool.eq_false_iff.2 hc)).1 h
      rw [keepWord_of_not_mem hword, ih ht, List.nil_append]

theorem NoArticle.dropArticles_eq (h : NoArticle isWordChar [] t) : dropArticles t = t :=
  h.dropArticlesFrom_eq

/-! ## Word boundaries -/

theorem isWordChar_of_mem_articles {article : Text} (h : article ∈ articles) :
    ∀ c ∈ article, isWordChar c = true := by
  have hall : ∀ article ∈ articles, article.all isWordChar = true := by decide
  exact List.all_eq_true.1 (hall article h)

/-- After a character outside of the class a new run is read. -/
theorem NoArticle.of_append_cons {before : Text} {c : Char} (hc : p c = false)
    (h : NoArticle p word (before ++ c :: t)) : NoArticle p [] t := by
  induction before generalizing word with
  | nil => exact ((noArticle_cons_of_neg hc).1 h).2
  | cons d before ih =>
    rw [List.cons_append, NoArticle] at h
    split at h
    · exact ih h
    · exact ih h.2

theorem NoArticle.of_append_left {before : Text} (hbefore : ∀ c ∈ before.getLast?, p c = false)
    (h : NoArticle p [] (before ++ t)) : NoArticle p [] t := by
  rcases before.eq_nil_or_concat with rfl | ⟨init, last, rfl⟩
  · exact h
  · rw [List.concat_append] at h
    exact h.of_append_cons (hbefore last (by simp))

/-- Where no run of characters of words is an article, no article stands alone. -/
theorem NoArticle.not_standsAlone (h : NoArticle isWordChar [] t) {article : Text}
    (harticle : article ∈ articles) : ¬ StandsAlone article t := by
  have hrun := isWordChar_of_mem_articles harticle
  have hne : article ≠ [] := fun hnil => nil_not_mem_articles (hnil ▸ harticle)
  rintro ⟨before, after, rfl, hstart, hstop⟩
  have hhead : (article ++ after).head?.any isWordChar = true := by
    obtain ⟨c, rest, rfl⟩ := List.exists_cons_of_ne_nil hne
    exact hrun c List.mem_cons_self
  have hlast : (before ++ article).getLast?.any isWordChar = true := by
    rw [List.getLast?_append, List.getLast?_eq_some_getLast hne]
    exact hrun _ (List.getLast_mem hne)
  rw [IsWordBoundary, hhead, ne_eq, Bool.not_eq_true] at hstart
  rw [IsWordBoundary, hlast, ne_comm, ne_eq, Bool.not_eq_true] at hstop
  rw [List.append_assoc] at h
  have hword := h.of_append_left (by simpa [Option.any_eq_false] using hstart)
  rw [noArticle_run hrun, List.nil_append] at hword
  cases after with
  | nil => exact hword harticle
  | cons c after => exact ((noArticle_cons_of_neg hstop).1 hword).1 harticle

end Folio.SafeName
