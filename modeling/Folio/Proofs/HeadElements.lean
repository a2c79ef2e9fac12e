import Folio.Proofs.CollectedAssets
import Folio.Proofs.TextCuts

/-!
# What is put into a head

The elements for a head follow from the addresses alone, in the order in which these were first added. They
stand right before the first end of a head, and the page around them stays as it is.
-/

namespace Folio

namespace Text

theorem afterLast_eq_iff {c : Char} {t last : Text} : afterLast c t = last ↔
    c ∉ last ∧ ∃ stem, t = stem ++ last ∧ ∀ d ∈ stem.getLast?, d = c := by
  constructor
  · rintro rfl
    constructor
    · intro hmem
      simpa using List.mem_takeWhile_imp (List.mem_reverse.1 hmem)
    · refine ⟨(t.reverse.dropWhile (· ≠ c)).reverse, ?_, ?_⟩
      · rw [afterLast, ← List.reverse_append, List.takeWhile_append_dropWhile, List.reverse_reverse]
      · rw [List.getLast?_reverse]
        intro d hd
        simpa using headAvoids_dropWhile (· ≠ c) t.reverse d hd
  · rintro ⟨hlast, stem, rfl, hstem⟩
    have hrun : ∀ d ∈ last.reverse, decide (d ≠ c) = true := by
      intro d hd
      have hne : d ≠ c := fun heq => hlast (heq ▸ List.mem_reverse.1 hd)
      simpa using hne
    have hrest : HeadAvoids (· ≠ c) stem.reverse := by
      intro d hd
      rw [List.head?_reverse] at hd
      simpa using hstem d hd
    rw [afterLast, List.reverse_append, takeWhile_run hrun hrest, List.reverse_reverse]

end Text

namespace HeadAssets

/-! ## The type of an address -/

/-- The type of an address stands before a query or a fragment, after the last point there or else from the
start on. -/
def HasType (url type : Text) : Prop :=
  ∃ stem rest, url = stem ++ type ++ rest ∧ '.' ∉ type ∧ (∀ c ∈ stem.getLast?, c = '.') ∧
    (∀ c ∈ stem ++ type, c ≠ '?' ∧ c ≠ '#') ∧ ∀ c ∈ rest.head?, c = '?' ∨ c = '#'

def isPathChar (c : Char) : Bool := c ≠ '?' && c ≠ '#'

def typeOf (url : Text) : Text := Text.afterLast '.' (url.takeWhile isPathChar)

theorem hasType_iff {url type : Text} :
    HasType url type ↔ typeOf url = type := by
  rw [typeOf, Text.afterLast_eq_iff]
  constructor
  · rintro ⟨stem, rest, rfl, hpoint, hstem, hpath, hrest⟩
    have hrun : ∀ c ∈ stem ++ type, isPathChar c = true := by simpa [isPathChar] using hpath
    have hstop : Text.HeadAvoids isPathChar rest := by
      intro c hc
      rcases hrest c hc with rfl | rfl <;> rfl
    exact ⟨hpoint, stem, Text.takeWhile_run hrun hstop, hstem⟩
  · rintro ⟨hpoint, stem, hpath, hstem⟩
    refine ⟨stem, url.dropWhile isPathChar, ?_, hpoint, hstem, ?_, ?_⟩
    · rw [← hpath, List.takeWhile_append_dropWhile]
    · rw [← hpath]
      intro c hc
      simpa [isPathChar] using List.mem_takeWhile_imp hc
    · intro c hc
      have hstop := Text.headAvoids_dropWhile isPathChar url c hc
      simpa [isPathChar, Classical.or_iff_not_imp_left] using hstop

def IsOfType (name : String) (url : Text) : Prop :=
  ∃ type, HasType url type ∧ Text.asciiLower type = name.toList

theorem isOfType_iff {name : String} {url : Text} :
    IsOfType name url ↔ Text.asciiLower (typeOf url) = name.toList := by
  simp [IsOfType, hasType_iff]

instance (name : String) : DecidablePred (IsOfType name) := fun _ => decidable_of_iff' _ isOfType_iff

theorem roleOf_eq (url : Text) : roleOf url =
    if IsOfType "css" url then .stylesheet else if IsOfType "js" url then .script else .other := by
  simp only [isOfType_iff]
  rfl

theorem not_isOfType_js_of_css {url : Text} (h : IsOfType "css" url) : ¬ IsOfType "js" url := by
  rw [isOfType_iff] at h ⊢
  rw [h]
  decide

theorem roleOf_eq_stylesheet_iff {url : Text} : roleOf url = .stylesheet ↔ IsOfType "css" url := by
  rw [roleOf_eq]
  split
  · rename_i hcss
    exact iff_of_true rfl hcss
  · rename_i hcss
    refine iff_of_false ?_ hcss
    split <;> nofun

theorem roleOf_eq_script_iff {url : Text} : roleOf url = .script ↔ IsOfType "js" url := by
  rw [roleOf_eq]
  split
  · rename_i hcss
    exact iff_of_false nofun (not_isOfType_js_of_css hcss)
  · split
    · rename_i hjs
      exact iff_of_true rfl hjs
    · rename_i hjs
      exact iff_of_false nofun hjs

/-! ## The elements in a page -/

theorem toHtml_eq (assets : HeadAssets) : assets.toHtml =
    (assets.urls.filter (IsOfType "css")).flatMap linkElement ++
      (assets.urls.filter (IsOfType "js")).flatMap scriptElement := by
  simp only [toHtml, roleOf_eq_stylesheet_iff, roleOf_eq_script_iff]

theorem injectIntoHead_of_isFirst (assets : HeadAssets) {before : Text} (after : Text)
    (h : Text.IsFirst headEnd before) : assets.injectIntoHead (before ++ headEnd ++ after) =
      before ++ assets.toHtml ++ (headEnd ++ after) := by
  unfold injectIntoHead
  rw [Text.cut?_of_isFirst after h]
  exact List.append_assoc _ headEnd after

theorem injectIntoHead_of_not_infix (assets : HeadAssets) {html : Text} (h : ¬ headEnd <:+: html) :
    assets.injectIntoHead html = html := by
  unfold injectIntoHead
  rw [Text.cut?_eq_none_iff.2 h]

/-- Added addresses are kept each once, in the order in which they were first added. The elements are those of
the stylesheets and then those of the scripts among them, both in this order, and stand in the page before the
first end of a head. -/
theorem injectIntoHead_insertAll (urls : List Text) (html : Text) :
    let assets := empty.insertAll urls
    let link (url : Text) :=
      "<link type=\"text/css\" rel=\"stylesheet\" href=\"".toList ++ url ++ "\" />\n".toList
    let script (url : Text) :=
      "<script type=\"text/javascript\" src=\"".toList ++ url ++ "\"></script>\n".toList
    let stop := "</head>".toList
    FirstOrder urls assets.urls ∧
      assets.toHtml = (assets.urls.filter (IsOfType "css")).flatMap link ++
        (assets.urls.filter (IsOfType "js")).flatMap script ∧
      (stop <:+: html → ∃ before after, html = before ++ (stop ++ after) ∧ Text.IsFirst stop before ∧
        assets.injectIntoHead html = before ++ assets.toHtml ++ (stop ++ after)) ∧
      (¬ stop <:+: html → assets.injectIntoHead html = html) := by
  intro assets link script stop
  have hurls : assets.urls = urls.eraseDups := urls_insertAll empty urls
  refine ⟨hurls ▸ firstOrder_eraseDups urls, toHtml_eq assets, ?_, assets.injectIntoHead_of_not_infix⟩
  intro hinfix
  cases hcut : Text.cut? headEnd html with
  | none => exact absurd hinfix (Text.cut?_eq_none_iff.1 hcut)
  | some parts =>
    obtain ⟨before, after⟩ := parts
    obtain ⟨rfl, hfirst⟩ := Text.cut?_eq_some_iff.1 hcut
    exact ⟨before, after, List.append_assoc _ _ _, hfirst, assets.injectIntoHead_of_isFirst after hfirst⟩

/-- Capital letters, a query with a point in it, an address without points, and a page with two ends of a
head. -/
example :
    let urls := ["a.js?v=1.css".toList, "B.CSS".toList, "css".toList, "a.txt".toList, "B.CSS".toList]
    (empty.insertAll urls).injectIntoHead "</hea</head></head>".toList =
      "</hea<link type=\"text/css\" rel=\"stylesheet\" href=\"B.CSS\" />\n".toList ++
        "<link type=\"text/css\" rel=\"stylesheet\" href=\"css\" />\n".toList ++
        "<script type=\"text/javascript\" src=\"a.js?v=1.css\"></script>\n</head></head>".toList := by
  decide +kernel

end HeadAssets

end Folio
