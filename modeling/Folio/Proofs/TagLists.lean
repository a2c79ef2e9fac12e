import Folio.Content.Tags
import Folio.Proofs.TextLines

/-!
# Lists of tags

The items of a list have no element left, and are what was listed: elements put into an item, blanks around
it and the separators between items are all taken away again.
-/

namespace Folio.Content

open Text (IsBlanks)

/-! ## Elements -/

theorem dropElements_of_ne {c : Char} (hc : c ≠ '<') (t : Text) :
    dropElements (c :: t) = c :: dropElements t := by
  rw [dropElements, if_neg hc]

theorem dropElements_element {u : Text} (hu : '>' ∉ u) (t : Text) :
    dropElements ('<' :: u ++ '>' :: t) = dropElements t := by
  have hcut : Text.cut? ['>'] (u ++ '>' :: t) = some (u, t) := by
    rw [List.append_cons]
    exact Text.cut?_of_isFirst t (Text.isFirst_of_not_mem hu)
  rw [List.cons_append, dropElements, if_pos rfl]
  split
  · rename_i hsome
    obtain ⟨-, rfl⟩ : u = _ ∧ t = _ := by simpa [hcut] using hsome
    rfl
  · rename_i hnone
    rw [hcut] at hnone
    cases hnone

theorem dropElements_append {t : Text} (ht : '<' ∉ t) (u : Text) :
    dropElements (t ++ u) = t ++ dropElements u := by
  induction t with
  | nil => rfl
  | cons c t ih =>
    rw [List.mem_cons, not_or] at ht
    rw [List.cons_append, dropElements_of_ne (Ne.symm ht.1), ih ht.2, List.cons_append]

theorem dropElements_eq_self {t : Text} (ht : '<' ∉ t) : dropElements t = t := by
  simpa [dropElements] using dropElements_append ht []

theorem dropElements_sublist (t : Text) : (dropElements t).Sublist t := by
  fun_induction dropElements t with
  | case1 => exact .slnil
  | case2 t before rest hcut _ ih =>
    have hrest : rest.Sublist t := by
      rw [Text.eq_of_cut? hcut]
      exact List.sublist_append_right _ rest
    exact ih.trans (hrest.cons '<')
  | case3 t hcut ih => exact ih.cons_cons '<'
  | case4 c t hc ih => exact ih.cons_cons c

/-- What is left of a `<` is not followed by a `>`. -/
theorem close_not_mem_of_dropElements {t before after : Text} (h : dropElements t = before ++ '<' :: after) :
    '>' ∉ after := by
  fun_induction dropElements t generalizing before with
  | case1 => simp at h
  | case2 t _ rest hcut _ ih => exact ih h
  | case3 t hcut ih =>
    cases before with
    | nil =>
      obtain ⟨-, rfl⟩ := List.cons.inj h
      exact fun hmem => Text.cut?_singleton_eq_none_iff.1 hcut ((dropElements_sublist t).subset hmem)
    | cons d before => exact ih (List.cons.inj h).2
  | case4 c t hc ih =>
    cases before with
    | nil => exact absurd (List.cons.inj h).1 hc
    | cons d before => exact ih (List.cons.inj h).2

/-! ## Items -/

theorem splitList_singleton (c : Char) (t : Text) : splitList [c] t =
    ((Text.splitAtChar c t).map fun item => Text.trim (dropElements item)).filter (· ≠ []) := by
  rw [splitList, Text.splitOn_singleton]

theorem splitList_append_separator (c : Char) (t u : Text) :
    splitList [c] (t ++ c :: u) = splitList [c] t ++ splitList [c] u := by
  simp only [splitList_singleton, Text.splitAtChar_append_sep, List.map_append, List.filter_append]

theorem splitList_of_not_mem {c : Char} {t : Text} (hc : c ∉ t) :
    splitList [c] t = [Text.trim (dropElements t)].filter (· ≠ []) := by
  rw [splitList_singleton, Text.splitAtChar_of_not_mem hc, List.map_singleton]

theorem open_not_mem_of_isBlanks {t : Text} (h : IsBlanks t) : '<' ∉ t :=
  fun hmem => absurd (h '<' hmem) (by decide)

theorem splitList_blanks (c : Char) {t : Text} (h : IsBlanks t) : splitList [c] t = [] := by
  rw [splitList_singleton, List.filter_eq_nil_iff]
  intro item hitem
  obtain ⟨piece, hpiece, rfl⟩ := List.mem_map.1 hitem
  have hblanks : IsBlanks piece := fun d hd => h d (Text.mem_of_mem_splitAtChar hpiece d hd).1
  rw [dropElements_eq_self (open_not_mem_of_isBlanks hblanks), Text.trim_of_isBlanks hblanks]
  simp

/-- A blank in front is a separator before nothing, or is trimmed away. -/
theorem splitList_cons_blank (c : Char) {b : Char} (hb : Unicode.isBlank b = true) (t : Text) :
    splitList [c] (b :: t) = splitList [c] t := by
  by_cases hbc : b = c
  · subst hbc
    have hnil : splitList [b] [] = [] := splitList_blanks b (List.forall_mem_nil _)
    rw [← List.nil_append (b :: t), splitList_append_separator, hnil, List.nil_append]
  · obtain ⟨piece, pieces, hp⟩ := List.exists_cons_of_ne_nil (Text.splitAtChar_ne_nil c t)
    have hblank : IsBlanks [b] := by simpa [IsBlanks] using hb
    have hitem : Text.trim (dropElements (b :: piece)) = Text.trim (dropElements piece) := by
      rw [← List.singleton_append, dropElements_append (open_not_mem_of_isBlanks hblank),
        Text.trim_blanks_append hblank]
    rw [splitList_singleton, splitList_singleton, Text.splitAtChar_cons_of_ne hbc, hp, List.headD_cons,
      List.tail_cons, List.map_cons, hitem, List.map_cons]

theorem splitList_blanks_append (c : Char) {blanks : Text} (hblanks : IsBlanks blanks) (t : Text) :
    splitList [c] (blanks ++ t) = splitList [c] t := by
  induction blanks with
  | nil => rfl
  | cons b blanks ih =>
    obtain ⟨hb, hblanks⟩ := List.forall_mem_cons.1 hblanks
    rw [List.cons_append, splitList_cons_blank c hb, ih hblanks]

/-! ## Lists as they are written -/

/-- A text is an item with elements put in at any places, none of them with the separator `c` in it. -/
inductive Marked (c : Char) : Text → Text → Prop
  | nil : Marked c [] []
  | char {item text : Text} (a : Char) (h : Marked c item text) : Marked c (a :: item) (a :: text)
  | element {item text u : Text} (hclose : '>' ∉ u) (hc : c ∉ u) (h : Marked c item text) :
    Marked c item ('<' :: u ++ '>' :: text)

def Listed (c : Char) (item text : Text) : Prop :=
  ∃ before marked after, text = before ++ marked ++ after ∧ IsBlanks before ∧ Marked c item marked ∧
    IsBlanks after

structure IsItem (c : Char) (item : Text) : Prop where
  ne_nil : item ≠ []
  trimmed : Text.trim item = item
  separator : c ∉ item
  opening : '<' ∉ item

variable {c : Char} {item text : Text}

theorem Marked.refl (c : Char) (item : Text) : Marked c item item := by
  induction item with
  | nil => exact .nil
  | cons a item ih => exact .char a ih

theorem Marked.dropElements_append (h : Marked c item text) (hopen : '<' ∉ item) (u : Text) :
    dropElements (text ++ u) = item ++ dropElements u := by
  induction h with
  | nil => rfl
  | char a h ih =>
    rw [List.mem_cons, not_or] at hopen
    rw [List.cons_append, dropElements_of_ne (Ne.symm hopen.1), ih hopen.2, List.cons_append]
  | @element item text v hclose hc h ih =>
    have happend : '<' :: v ++ '>' :: text ++ u = '<' :: v ++ '>' :: (text ++ u) := by simp
    rw [happend, dropElements_element hclose, ih hopen]

theorem Marked.not_mem (h : Marked c item text) (hitem : c ∉ item) (hopen : c ≠ '<') (hclose : c ≠ '>') :
    c ∉ text := by
  induction h with
  | nil => exact hitem
  | char a h ih =>
    rw [List.mem_cons, not_or] at hitem ⊢
    exact ⟨hitem.1, ih hitem.2⟩
  | element hu hc h ih => simp [hopen, hclose, hc, ih hitem]

/-- Also if the separator is a blank: the pieces around the item are blank then. -/
theorem Listed.splitList (h : Listed c item text) (hitem : IsItem c item) (hopen : c ≠ '<')
    (hclose : c ≠ '>') : splitList [c] text = [item] := by
  obtain ⟨before, marked, after, rfl, hbefore, hmarked, hafter⟩ := h
  have hread : ∀ blanks : Text, IsBlanks blanks → c ∉ blanks →
      Content.splitList [c] (marked ++ blanks) = [item] := by
    intro blanks hblanks hc
    have hmem : c ∉ marked ++ blanks :=
      List.not_mem_append (hmarked.not_mem hitem.separator hopen hclose) hc
    rw [splitList_of_not_mem hmem, hmarked.dropElements_append hitem.opening,
      dropElements_eq_self (open_not_mem_of_isBlanks hblanks), Text.trim_append_blanks _ hblanks,
      hitem.trimmed]
    simp [hitem.ne_nil]
  rw [List.append_assoc, splitList_blanks_append c hbefore]
  by_cases hc : c ∈ after
  · obtain ⟨first, second, rfl, hfirst⟩ := List.eq_append_cons_of_mem hc
    have hblanks : IsBlanks first := fun d hd => hafter d (List.mem_append_left _ hd)
    have hrest : IsBlanks second := fun d hd =>
      hafter d (List.mem_append_right first (List.mem_cons_of_mem c hd))
    rw [← List.append_assoc, splitList_append_separator, hread first hblanks hfirst,
      splitList_blanks c hrest, List.append_nil]
  · exact hread after hafter hc

theorem splitList_join {items texts : List Text} (h : List.Forall₂ (Listed c) items texts)
    (hitems : ∀ item ∈ items, IsItem c item) (hopen : c ≠ '<') (hclose : c ≠ '>') :
    splitList [c] (Text.join [c] texts) = items := by
  induction h with
  | nil => exact splitList_blanks c (List.forall_mem_nil _)
  | @cons item text items texts hlisted hrest ih =>
    obtain ⟨hitem, hitems⟩ := List.forall_mem_cons.1 hitems
    have hfirst := hlisted.splitList hitem hopen hclose
    by_cases hnil : texts = []
    · subst hnil
      cases hrest
      exact hfirst
    · rw [Text.join_cons_of_ne_nil _ text hnil, List.append_assoc, List.singleton_append,
        splitList_append_separator, hfirst, ih hitems, List.singleton_append]

theorem clean_of_mem_splitList {separator value item : Text} (h : item ∈ splitList separator value) :
    item ≠ [] ∧ Text.trim item = item ∧ ∀ before after, item = before ++ '<' :: after → '>' ∉ after := by
  obtain ⟨hmem, hne⟩ := List.mem_filter.1 h
  obtain ⟨piece, -, rfl⟩ := List.mem_map.1 hmem
  refine ⟨by simpa using hne, Text.trim_trim _, ?_⟩
  intro before after hitem
  obtain ⟨left, right, hpiece⟩ := Text.trim_isInfix (dropElements piece)
  have hleft : dropElements piece = (left ++ before) ++ '<' :: (after ++ right) := by
    rw [← hpiece, hitem]
    simp
  exact fun hclose => close_not_mem_of_dropElements hleft (List.mem_append_left right hclose)

/-- The tags of a page are not empty, have no blanks around them and no element in them; and a list of items
that was written with elements in the items and blanks around them is read as these items. -/
theorem tags_of_listed :
    (∀ (separator : Text) (fields : FieldMap), ∀ tag ∈ tags separator fields,
      tag ≠ [] ∧ Text.trim tag = tag ∧ ∀ before after, tag = before ++ '<' :: after → '>' ∉ after) ∧
    ∀ (c : Char) (items texts : List Text) (fields : FieldMap), c ≠ '<' → c ≠ '>' →
      (∀ item ∈ items, IsItem c item) → List.Forall₂ (Listed c) items texts →
      fields.get? tagsKey = some (Text.join [c] texts) → tags [c] fields = items := by
  constructor
  · intro separator fields tag htag
    rw [tags] at htag
    split at htag
    · exact clean_of_mem_splitList htag
    · cases htag
  · intro c items texts fields hopen hclose hitems hlisted hvalue
    rw [tags, hvalue]
    exact splitList_join hlisted hitems hopen hclose

/-- An element with a `<` in it, and an item with a `>`. -/
theorem tags_of_listed_nested :
    let items := ["x > y".toList, "web".toList]
    let texts := [" <em>x</em <i> > y".toList, "\tweb<br>\n".toList]
    let fields : FieldMap := .ofList [(tagsKey, Text.join [','] texts)]
    (',' ≠ '<' ∧ ',' ≠ '>') ∧ (∀ item ∈ items, IsItem ',' item) ∧ List.Forall₂ (Listed ',') items texts ∧
      fields.get? tagsKey = some (Text.join [','] texts) ∧ tags [','] fields = items ∧
      ∀ tag ∈ tags [','] fields, tag ≠ [] ∧ Text.trim tag = tag ∧
        ∀ before after, tag = before ++ '<' :: after → '>' ∉ after := by
  intro items texts fields
  have hitems : ∀ item ∈ items, IsItem ',' item := by
    intro item hitem
    rcases List.mem_pair.1 hitem with rfl | rfl
    · exact ⟨by decide, by decide, by decide, by decide⟩
    · exact ⟨by decide, by decide, by decide, by decide⟩
  have hfirst : Listed ',' "x > y".toList " <em>x</em <i> > y".toList := by
    have hrest : Marked ',' " > y".toList ('<' :: "/em <i".toList ++ '>' :: " > y".toList) :=
      .element (by decide) (by decide) (.refl ',' _)
    have hmarked : Marked ',' "x > y".toList
        ('<' :: "em".toList ++ '>' :: 'x' :: ('<' :: "/em <i".toList ++ '>' :: " > y".toList)) :=
      .element (by decide) (by decide) (.char 'x' hrest)
    exact ⟨" ".toList, _, [], rfl, by decide, hmarked, by decide⟩
  have hsecond : Listed ',' "web".toList "\tweb<br>\n".toList := by
    have hmarked : Marked ',' "web".toList ('w' :: 'e' :: 'b' :: ('<' :: "br".toList ++ '>' :: [])) :=
      .char 'w' (.char 'e' (.char 'b' (.element (by decide) (by decide) .nil)))
    exact ⟨"\t".toList, _, "\n".toList, rfl, by decide, hmarked, by decide⟩
  have hlisted : List.Forall₂ (Listed ',') items texts := .cons hfirst (.cons hsecond .nil)
  have hvalue : fields.get? tagsKey = some (Text.join [','] texts) := rfl
  exact ⟨by decide, hitems, hlisted, hvalue,
    tags_of_listed.2 ',' items texts fields (by decide) (by decide) hitems hlisted hvalue,
    tags_of_listed.1 [','] fields⟩

end Folio.Content
