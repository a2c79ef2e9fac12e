import Folio.Proofs.FieldOptions

/-!
# Values that arrive intact

Escaping covers quotes and line breaks only. It leaves backslashes and other controls to the reader of
JSON, and the quotes that the notation puts around bare names come after it. So a value arrives as it is
meant to exactly when it has none of these. For the direction that is not obvious: quotes around a bare
name end the string early, and a backslash of the value swallows a character, which makes the string
shorter than the value.
-/

namespace Folio.Options

open Json (Chars)
open Text (IsBlanks)

/-- A value as a call should see it: single quotes are double ones and line breaks are blanks. -/
def softened (value : Text) : Text :=
  value.map fun c => if c = '\'' then '"' else if c = '\n' ∨ c = '\r' then ' ' else c

/-- Somewhere in a text the notation of options takes a word for a name. -/
def HoldsName (value : Text) : Prop :=
  ∃ before c blanks name blanks' after, (c = '{' ∨ c = ',') ∧ IsBlanks blanks ∧ IsWord name ∧
    IsBlanks blanks' ∧ value = before ++ c :: (blanks ++ (name ++ (blanks' ++ ':' :: after)))

structure Intact (value : Text) : Prop where
  backslash : '\\' ∉ value
  control : ∀ c ∈ value, c.toNat < 0x20 → c = '\n' ∨ c = '\r'
  name : ¬ HoldsName value

theorem holdsName_cons_iff {c : Char} {value : Text} :
    HoldsName (c :: value) ↔ ((c = '{' ∨ c = ',') ∧ bareName? value ≠ none) ∨ HoldsName value := by
  constructor
  · rintro ⟨before, d, blanks, name, blanks', after, hd, hblanks, hname, hblanks', heq⟩
    cases before with
    | nil =>
      obtain ⟨rfl, rfl⟩ := List.cons.inj heq
      left
      refine ⟨hd, ?_⟩
      rw [bareName?_eq_some_iff.2 ⟨blanks, blanks', hblanks, hname, hblanks', rfl⟩]
      exact Option.some_ne_none _
    | cons e before =>
      obtain ⟨-, rfl⟩ := List.cons.inj heq
      exact .inr ⟨before, d, blanks, name, blanks', after, hd, hblanks, hname, hblanks', rfl⟩
  · rintro (⟨hc, hname⟩ | ⟨before, d, blanks, name, blanks', after, hd, hblanks, hname, hblanks', rfl⟩)
    · obtain ⟨⟨name, rest⟩, hname⟩ := Option.ne_none_iff_exists'.1 hname
      obtain ⟨blanks, blanks', hblanks, hword, hblanks', rfl⟩ := bareName?_eq_some_iff.1 hname
      exact ⟨[], c, blanks, name, blanks', rest, hc, hblanks, hword, hblanks', rfl⟩
    · exact ⟨c :: before, d, blanks, name, blanks', after, hd, hblanks, hname, hblanks', rfl⟩

/-- How a value without names in it is written, character by character. -/
theorem written_cons {c : Char} {value : Text} (h : ¬ HoldsName (c :: value)) :
    ¬ HoldsName value ∧ written (c :: value) =
      if c = '"' ∨ c = '\'' then '\\' :: '"' :: written value
      else if c = '\n' ∨ c = '\r' then ' ' :: written value else c :: written value := by
  rw [holdsName_cons_iff, not_or] at h
  refine ⟨h.2, ?_⟩
  split
  · rename_i hquote
    exact written_quote hquote value
  · rename_i hquote
    split
    · rename_i hbreak
      exact written_break hbreak value
    · rename_i hbreak
      exact written_other hquote hbreak fun hc => not_not.1 fun hname => h.1 ⟨hc, hname⟩

theorem Intact.tail {c : Char} {value : Text} (h : Intact (c :: value)) : Intact value where
  backslash hmem := h.backslash (List.mem_cons_of_mem c hmem)
  control d hd := h.control d (List.mem_cons_of_mem c hd)
  name hname := h.name (holdsName_cons_iff.2 (.inr hname))

theorem Intact.chars {value : Text} (h : Intact value) : Chars (written value) (softened value) := by
  induction value with
  | nil =>
    rw [written_nil]
    exact .nil
  | cons c value ih =>
    have htail := ih h.tail
    rw [(written_cons h.name).2]
    split
    · rename_i hquote
      have hsoft : softened (c :: value) = '"' :: softened value := by
        rcases hquote with rfl | rfl <;> rfl
      rw [hsoft]
      exact .escape (e := ['"']) (.short rfl) htail
    · rename_i hquote
      rw [not_or] at hquote
      split
      · rename_i hbreak
        have hsoft : softened (c :: value) = ' ' :: softened value := by
          rcases hbreak with rfl | rfl <;> rfl
        rw [hsoft]
        exact .plain (by decide) (by decide) (by decide) htail
      · rename_i hbreak
        have hsoft : softened (c :: value) = c :: softened value := by
          rw [softened, List.map_cons, if_neg hquote.2, if_neg hbreak]
          rfl
        rw [hsoft]
        refine .plain hquote.1 ?_ ?_ htail
        · rintro rfl
          exact h.backslash List.mem_cons_self
        · apply Nat.le_of_not_lt
          intro hctl
          exact hbreak (h.control c List.mem_cons_self hctl)

/-- A name in a value puts a quote behind a brace or a comma. -/
theorem quoted_name {value : Text} (h : HoldsName value) :
    ∃ before c after, (c = '{' ∨ c = ',') ∧ written value = before ++ c :: '"' :: after := by
  induction value with
  | nil =>
    obtain ⟨before, c, blanks, name, blanks', after, -, -, -, -, heq⟩ := h
    exact absurd (List.append_eq_nil_iff.1 heq.symm).2 (List.cons_ne_nil _ _)
  | cons c value ih =>
    -- either the name stands at this very character, or further on
    by_cases hname : (c = '{' ∨ c = ',') ∧ bareName? value ≠ none
    · obtain ⟨hc, hname⟩ := hname
      obtain ⟨⟨name, rest⟩, hname⟩ := Option.ne_none_iff_exists'.1 hname
      exact ⟨[], c, _, hc, written_name hc hname⟩
    · have hvalue := (holdsName_cons_iff.1 h).resolve_left hname
      obtain ⟨before, d, after, hd, hwritten⟩ := ih hvalue
      by_cases hquote : c = '"' ∨ c = '\''
      · refine ⟨'\\' :: '"' :: before, d, after, hd, ?_⟩
        rw [written_quote hquote, hwritten]
        rfl
      by_cases hbreak : c = '\n' ∨ c = '\r'
      · refine ⟨' ' :: before, d, after, hd, ?_⟩
        rw [written_break hbreak, hwritten]
        rfl
      · refine ⟨c :: before, d, after, hd, ?_⟩
        rw [written_other hquote hbreak fun hc => not_not.1 fun hne => hname ⟨hc, hne⟩, hwritten]
        rfl

/-- How long a value without names is written: each of its backslashes saves the half character that it
counts for. -/
theorem length_written {value : Text} (h : ¬ HoldsName value) :
    2 * (written value).length + value.count '\\' =
      2 * value.length + ((written value).count '\\' + (written value).count '"') := by
  induction value with
  | nil => simp
  | cons c value ih =>
    obtain ⟨hvalue, hwritten⟩ := written_cons h
    have htail := ih hvalue
    rw [hwritten]
    split
    · rename_i hquote
      have hback : c ≠ '\\' := by rcases hquote with rfl | rfl <;> decide
      simp [List.count_cons_of_ne, hback]
      omega
    · rename_i hquote
      rw [not_or] at hquote
      split
      · rename_i hbreak
        have hback : c ≠ '\\' := by rcases hbreak with rfl | rfl <;> decide
        simp [List.count_cons_of_ne, hback]
        omega
      · by_cases hback : c = '\\'
        · subst hback
          simp
          omega
        · simp [List.count_cons_of_ne, hback, hquote.1]
          omega

theorem mem_written {value : Text} (h : ¬ HoldsName value) {c : Char} (hc : c ∈ value)
    (hctl : c.toNat < 0x20) (hbreak : ¬ (c = '\n' ∨ c = '\r')) : c ∈ written value := by
  induction value with
  | nil => cases hc
  | cons d value ih =>
    obtain ⟨hvalue, hwritten⟩ := written_cons h
    rw [hwritten]
    rcases List.mem_cons.1 hc with rfl | hc
    · have hquote : ¬ (c = '"' ∨ c = '\'') := by
        rintro (rfl | rfl) <;> exact absurd hctl (by decide)
      rw [if_neg hquote, if_neg hbreak]
      exact List.mem_cons_self
    · have hmem := ih hvalue hc
      split
      · exact List.mem_cons_of_mem _ (List.mem_cons_of_mem _ hmem)
      · split <;> exact List.mem_cons_of_mem _ hmem

theorem intact_of_chars {value : Text} (h : Chars (written value) (softened value)) : Intact value := by
  have hname : ¬ HoldsName value := by
    intro hname
    obtain ⟨before, c, after, hc, hwritten⟩ := quoted_name hname
    obtain rfl := h.before_quote hwritten
    exact absurd hc (by decide)
  refine ⟨?_, ?_, hname⟩
  · have hlength := h.length_le
    have hwritten := length_written hname
    rw [softened, List.length_map] at hlength
    exact List.count_eq_zero.1 (by omega)
  · intro c hc hctl
    apply Decidable.byContradiction
    intro hbreak
    have hprint := h.printable c (mem_written hname hc hctl hbreak)
    omega

/-- The value that is received is the one that is meant exactly for intact values. -/
theorem received?_eq_softened_iff {value : Text} :
    received? value = some (softened value) ↔ Intact value := by
  rw [received?_eq_some_iff]
  constructor
  · exact intact_of_chars
  · exact Intact.chars

theorem ofPayload_single {key : Text} (hkey : IsWord key) (value : Text) :
    ofPayload (object [memberText (key, value)]) =
      match received? value with
      | some (c :: s) => [(key, .string (c :: s))]
      | _ => [] := by
  have hwords : ∀ member ∈ [(key, value)], IsWord member.1 := by simpa using hkey
  split
  · rename_i c s hs
    have harrive : Arrive [(key, value)] := by simp [Arrive, hs]
    rw [← List.map_singleton, ofPayload_object (by simp) hwords harrive]
    simp [arrived, hs, NamedList.ofList, NamedList.insert, Json.isEmptyString]
  · rename_i hnone
    cases hs : received? value with
    | none =>
      have hlost : ¬ Arrive [(key, value)] := by simp [Arrive, hs]
      rw [← List.map_singleton, ofPayload_object_eq_nil (by simp) hwords hlost]
    | some s =>
      cases s with
      | nil =>
        have harrive : Arrive [(key, value)] := by simp [Arrive, hs]
        rw [← List.map_singleton, ofPayload_object (by simp) hwords harrive]
        simp [arrived, hs, NamedList.ofList, NamedList.insert, Json.isEmptyString]
      | cons c s => exact absurd hs (hnone c s)

end Folio.Options

namespace Folio.Render

open Markup
open Options (IsWord Intact softened)

variable {σ : Type} {engine : Engine σ} {fields : Fields}

theorem callOptions_single (hmarkup : engine.markup = {}) {key name value : Text}
    (hkey : IsWord key) (hname : IsName name) (hvalue : fields.page.get? name = some value) :
    engine.callOptions fields (some (payload [⟨key, .page, name⟩])) =
      match Options.received? value with
      | some (c :: s) => [(key, .string (c :: s))]
      | _ => [] := by
  have hoptions : engine.callOptions fields (some (payload [⟨key, .page, name⟩])) =
      Options.ofPayload (Options.object [Options.memberText (key, value)]) := by
    rw [callOptions_eq_ofPayload hmarkup (by simp) (by simpa using hkey) (by simpa using hname)]
    simp [Entry.member, Entry.value, Engine.fieldText, Fields.get?, hvalue]
  rw [hoptions, Options.ofPayload_single hkey]

/-- A call sees the value of a field, with its single quotes as double ones and its line breaks as blanks,
exactly if the value has no backslash, no other control and nothing that is taken for a name. -/
theorem callOptions_eq_softened_iff (hmarkup : engine.markup = {}) {key name value : Text}
    (hkey : IsWord key) (hname : IsName name) (hvalue : fields.page.get? name = some value) :
    engine.callOptions fields (some (payload [⟨key, .page, name⟩])) =
        (if value = [] then [] else [(key, .string (softened value))]) ↔ Intact value := by
  rw [callOptions_single hmarkup hkey hname hvalue, ← Options.received?_eq_softened_iff]
  cases value with
  | nil =>
    have hs : Options.received? [] = some [] := by
      rw [Options.received?_eq_some_iff, Options.written_nil]
      exact .nil
    rw [hs]
    exact iff_of_true rfl rfl
  | cons c value =>
    rw [if_neg (List.cons_ne_nil c value)]
    constructor
    · intro h
      split at h
      · rename_i d s hs
        rw [hs]
        have hsoft : d :: s = softened (c :: value) := by simpa using h
        rw [hsoft]
      · cases h
    · intro h
      rw [h]
      rfl

/-- A value with quotes, braces and a line break arrives. -/
theorem callOptions_eq_softened_iff_quotes :
    let engine : Engine Unit := { files := default }
    let value := "it's \x7ba\x7d\n\"b\"".toList
    let fields : Fields := { page := .ofList [("x".toList, value)] }
    engine.markup = {} ∧ IsWord "title".toList ∧ IsName "x".toList ∧
      fields.page.get? "x".toList = some value ∧ Intact value ∧
      engine.callOptions fields (some (payload [⟨"title".toList, .page, "x".toList⟩])) =
        [("title".toList, .string "it\"s \x7ba\x7d \"b\"".toList)] := by
  intro engine value fields
  have hkey : IsWord "title".toList := by decide
  have hname : IsName "x".toList := by decide
  have hintact : Intact value := Options.received?_eq_softened_iff.1 (by decide +kernel)
  have hmarkup : engine.markup = {} := rfl
  have hvalue : fields.page.get? "x".toList = some value := rfl
  exact ⟨hmarkup, hkey, hname, hvalue, hintact,
    (callOptions_eq_softened_iff hmarkup hkey hname hvalue).2 hintact⟩

/-- The backslash of a path does not reach the call. -/
theorem callOptions_ne_softened_of_path :
    let engine : Engine Unit := { files := default }
    let value := "C:\\dir".toList
    let fields : Fields := { page := .ofList [("t".toList, value)] }
    engine.callOptions fields (some (payload [⟨"title".toList, .page, "t".toList⟩])) ≠
      [("title".toList, .string (softened value))] := by
  intro engine value fields h
  have hkey : IsWord "title".toList := by decide
  have hname : IsName "t".toList := by decide
  have hvalue : fields.page.get? "t".toList = some value := rfl
  rw [callOptions_single rfl hkey hname hvalue] at h
  split at h
  · rename_i c s hs
    have hsoft : c :: s = softened value := by simpa using h
    rw [hsoft] at hs
    exact (Options.received?_eq_softened_iff.1 hs).backslash (by decide)
  · cases h

end Folio.Render
