import Folio.Proofs.PlaceholderGrammar
import Mathlib.Data.List.Infix

/-!
# Scanning is exact

A segmentation of a text takes every placeholder of the grammar that it comes to, from left to right,
and nothing else: no placeholder starts anywhere inside its literal text, not even one that reaches
beyond it. There is one segmentation of each text, and the scanner finds it. The point of the argument is
that scanning on after the colon of an unfinished placeholder skips no start.
-/

namespace Folio.Markup

def Starts (s : Syntax) (t : Text) : Prop :=
  ∃ token raw rest, Placeholder s token raw ∧ t = raw ++ rest

/-- The segments of a text by the leftmost placeholders that do not overlap. -/
structure IsSegmentation (s : Syntax) (t : Text) (segments : List Segment) : Prop where
  source_eq : source segments = t
  placeholders : ∀ token raw, .placeholder token raw ∈ segments → Placeholder s token raw
  texts : ∀ before content after, segments = before ++ .text content :: after →
    content ≠ [] ∧ (∀ next, after.head? ≠ some (.text next)) ∧
      ∀ skipped left, content = skipped ++ left → left ≠ [] → ¬ Starts s (left ++ source after)

theorem source_cons (segment : Segment) (segments : List Segment) :
    source (segment :: segments) = segment.source ++ source segments := by
  simp [source]

theorem source_append (before after : List Segment) :
    source (before ++ after) = source before ++ source after :=
  List.flatMap_append

namespace IsSegmentation

variable {s : Syntax} {t : Text} {segments : List Segment}

theorem nil : IsSegmentation s [] [] where
  source_eq := rfl
  placeholders := by simp
  texts := by simp

theorem tail {segment : Segment} (h : IsSegmentation s t (segment :: segments)) :
    IsSegmentation s (source segments) segments where
  source_eq := rfl
  placeholders token raw hmem := h.placeholders token raw (List.mem_cons_of_mem _ hmem)
  texts before content after heq := h.texts (segment :: before) content after (by rw [heq]; rfl)

theorem placeholder {token : Token} {raw : Text} (hraw : Placeholder s token raw)
    (h : IsSegmentation s t segments) :
    IsSegmentation s (raw ++ t) (.placeholder token raw :: segments) where
  source_eq := by rw [source_cons, h.source_eq]; rfl
  placeholders token' raw' hmem := by
    rcases List.mem_cons.1 hmem with heq | hmem
    · obtain ⟨rfl, rfl⟩ : token' = token ∧ raw' = raw := by simpa using heq
      exact hraw
    · exact h.placeholders token' raw' hmem
  texts before content after heq := by
    cases before with
    | nil => simp at heq
    | cons segment before => exact h.texts before content after (List.cons.inj heq).2

/-- Text in which no placeholder starts may be put in front. -/
theorem prependText {content : Text} (hne : content ≠ [])
    (hno : ∀ skipped left, content = skipped ++ left → left ≠ [] → ¬ Starts s (left ++ t))
    (h : IsSegmentation s t segments) :
    IsSegmentation s (content ++ t) (Markup.prependText content segments) := by
  cases segments with
  | nil =>
    obtain rfl : t = [] := h.source_eq.symm
    refine ⟨source_prependText content [], by simp [Markup.prependText], ?_⟩
    intro before text after heq
    cases before with
    | nil =>
      obtain ⟨rfl, rfl⟩ : content = text ∧ [] = after := by simpa [Markup.prependText] using heq
      exact ⟨hne, by simp, hno⟩
    | cons segment before => simp [Markup.prependText] at heq
  | cons segment segments =>
    cases segment with
    | placeholder token raw =>
      refine ⟨by rw [source_prependText, h.source_eq], ?_, ?_⟩
      · intro token' raw' hmem
        rcases List.mem_cons.1 hmem with heq | hmem
        · cases heq
        · exact h.placeholders token' raw' hmem
      · intro before text after heq
        cases before with
        | nil =>
          obtain ⟨rfl, rfl⟩ : content = text ∧ .placeholder token raw :: segments = after := by
            simpa [Markup.prependText] using heq
          refine ⟨hne, by simp, ?_⟩
          rw [h.source_eq]
          exact hno
        | cons first before => exact h.texts before text after (List.cons.inj heq).2
    -- what follows is literal text, with which the new text becomes one segment
    | text next =>
      obtain ⟨-, hmerged, hnext⟩ := h.texts [] next segments rfl
      refine ⟨by rw [source_prependText, h.source_eq], ?_, ?_⟩
      · intro token' raw' hmem
        rcases List.mem_cons.1 hmem with heq | hmem
        · cases heq
        · exact h.placeholders token' raw' (List.mem_cons_of_mem _ hmem)
      · intro before text after heq
        cases before with
        | nil =>
          obtain ⟨rfl, rfl⟩ : content ++ next = text ∧ segments = after := by
            simpa [Markup.prependText] using heq
          refine ⟨by simp [hne], hmerged, ?_⟩
          intro skipped left hsplit hleft
          rcases List.append_eq_append_iff.1 hsplit with ⟨u, rfl, hu⟩ | ⟨u, hu, rfl⟩
          · exact hnext u left hu hleft
          · by_cases hempty : u = []
            · subst hempty
              exact hnext [] next rfl (by simpa using hleft)
            · have hstart := hno skipped u hu hempty
              rwa [← h.source_eq, source_cons, ← List.append_assoc] at hstart
        | cons first before => exact h.texts (.text next :: before) text after (by
            rw [(List.cons.inj heq).2]; rfl)

theorem eq_nil (h : IsSegmentation s [] segments) : segments = [] := by
  cases segments with
  | nil => rfl
  | cons segment segments =>
    have hsource := h.source_eq
    rw [source_cons, List.append_eq_nil_iff] at hsource
    cases segment with
    | text content => exact absurd hsource.1 (h.texts [] content segments rfl).1
    | placeholder token raw =>
      exact absurd hsource.1 (h.placeholders token raw List.mem_cons_self).ne_nil

/-- Literal text at the start is never longer than in another segmentation: what follows it is a
placeholder, which may not start in literal text. -/
theorem length_le {x y : Text} {a b : List Segment} (h : IsSegmentation s t (.text x :: a))
    (h' : IsSegmentation s t (.text y :: b)) : y.length ≤ x.length := by
  obtain ⟨-, hmerged, -⟩ := h.texts [] x a rfl
  obtain ⟨-, -, hno⟩ := h'.texts [] y b rfl
  have hsource : x ++ source a = y ++ source b := h.source_eq.trans h'.source_eq.symm
  rcases List.append_eq_append_iff.1 hsource with ⟨z, rfl, ha⟩ | ⟨z, rfl, -⟩
  -- the longer text would reach into what follows the shorter one
  · by_cases hz : z = []
    · simp [hz]
    · exfalso
      apply hno x z rfl hz
      cases a with
      | nil =>
        rw [source, List.flatMap_nil] at ha
        exact absurd (List.append_eq_nil_iff.1 ha.symm).1 hz
      | cons segment a =>
        cases segment with
        | text next => exact absurd rfl (hmerged next)
        | placeholder token raw =>
          rw [source_cons] at ha
          exact ⟨token, raw, source a, h.placeholders token raw (by simp), ha.symm⟩
  · simp

theorem not_text_and_placeholder {x raw : Text} {token : Token} {a b : List Segment}
    (h : IsSegmentation s t (.text x :: a)) (h' : IsSegmentation s t (.placeholder token raw :: b)) :
    False := by
  obtain ⟨hne, -, hno⟩ := h.texts [] x a rfl
  apply hno [] x rfl hne
  have hsource : x ++ source a = raw ++ source b := h.source_eq.trans h'.source_eq.symm
  exact ⟨token, raw, source b, h'.placeholders token raw List.mem_cons_self, hsource⟩

/-- A text has one segmentation. -/
theorem unique {a b : List Segment} (h : IsSegmentation {} t a) (h' : IsSegmentation {} t b) :
    a = b := by
  induction a generalizing t b with
  | nil =>
    obtain rfl : t = [] := h.source_eq.symm
    exact h'.eq_nil.symm
  | cons first a ih =>
    cases b with
    | nil =>
      obtain rfl : t = [] := h'.source_eq.symm
      exact h.eq_nil
    | cons second b =>
      have hsource : first.source ++ source a = second.source ++ source b :=
        h.source_eq.trans h'.source_eq.symm
      -- a placeholder is determined by the text, and literal text reaches up to the next placeholder
      have hfirst : first = second := by
        cases first with
        | text x =>
          cases second with
          | text y =>
            have hlength : x.length = y.length := Nat.le_antisymm (h'.length_le h) (h.length_le h')
            exact congrArg Segment.text (List.append_inj hsource hlength).1
          | placeholder token raw => exact (h.not_text_and_placeholder h').elim
        | placeholder token raw =>
          cases second with
          | text y => exact (h'.not_text_and_placeholder h).elim
          | placeholder token' raw' =>
            obtain ⟨rfl, rfl, -⟩ := (h.placeholders token raw List.mem_cons_self).unique
              (h'.placeholders token' raw' List.mem_cons_self) hsource
            rfl
      subst hfirst
      have hrest : source a = source b := List.append_cancel_left hsource
      rw [ih h.tail (hrest ▸ h'.tail)]

end IsSegmentation

/-! ## The scanner -/

theorem not_starts_of_placeholder?_eq_none {t : Text} (h : placeholder? {} t = none) :
    ¬ Starts {} t := by
  rintro ⟨token, raw, rest, hraw, rfl⟩
  rw [placeholder?_of_placeholder hraw rest] at h
  cases h

def mayOpen : Text → Bool
  | '{' :: '{' :: _ => true
  | ['{'] => true
  | _ => false

theorem opens_of_starts {t : Text} (h : Starts {} t) : ∃ rest, t = '{' :: '{' :: rest := by
  obtain ⟨token, raw, rest, ⟨keyword, kind, body, -, -, rfl⟩, rfl⟩ := h
  exact ⟨_, rfl⟩

theorem mayOpen_of_starts {left rest : Text} (hne : left ≠ []) (h : Starts {} (left ++ rest)) :
    mayOpen left = true := by
  obtain ⟨rest', heq⟩ := opens_of_starts h
  cases left with
  | nil => exact absurd rfl hne
  | cons c left =>
    obtain ⟨rfl, htail⟩ := List.cons.inj heq
    cases left with
    | nil => rfl
    | cons d left =>
      obtain ⟨rfl, -⟩ := List.cons.inj htail
      rfl

theorem not_mayOpen_inside_start : ∀ entry ∈ Syntax.keywords {},
    ∀ left ∈ (Syntax.start {} entry.1).tail.tails, mayOpen left = false := by
  decide

/-- No placeholder starts between the first character and the colon of how another one starts. -/
theorem not_starts_inside_start {keyword : Text} {kind : Kind}
    (h : (keyword, kind) ∈ Syntax.keywords {}) {skipped left : Text}
    (heq : Syntax.start {} keyword = skipped ++ left) (hskipped : skipped ≠ []) (hleft : left ≠ [])
    (rest : Text) : ¬ Starts {} (left ++ rest) := by
  intro hstarts
  have hmay := mayOpen_of_starts hleft hstarts
  cases skipped with
  | nil => exact hskipped rfl
  | cons c skipped =>
    have htail : left ∈ (Syntax.start {} keyword).tail.tails := by
      rw [heq, List.mem_tails]
      exact List.suffix_append skipped left
    rw [not_mayOpen_inside_start _ h left htail] at hmay
    cases hmay

theorem isSegmentation_scan (t : Text) : IsSegmentation {} t (scan {} t) := by
  generalize hs : ({} : Syntax) = s
  fun_induction scan s t with
  | case1 => exact .nil
  -- one character is skipped, where nothing starts
  | case2 c rest hnone ih =>
    subst hs
    apply IsSegmentation.prependText (List.cons_ne_nil c []) _ ih
    intro skipped left heq hleft
    obtain rfl : left = [c] := by
      cases skipped with
      | nil => exact heq.symm
      | cons d skipped =>
        have htail := (List.cons.inj heq).2
        exact absurd (List.append_eq_nil_iff.1 htail.symm).2 hleft
    exact not_starts_of_placeholder?_eq_none (by rw [placeholder?, List.singleton_append, hnone]; rfl)
  -- a keyword is skipped whose placeholder is not complete; none starts inside of it either
  | case3 c rest start kind body hstart _ hread ih =>
    subst hs
    obtain ⟨heq, keyword, hmem, rfl⟩ := eq_of_startAmong? hstart
    rw [heq]
    apply ih.prependText (by simp [Syntax.start])
    intro skipped left hsplit hleft
    by_cases hskipped : skipped = []
    · obtain rfl : Syntax.start {} keyword = left := by simpa [hskipped] using hsplit
      rw [← heq]
      exact not_starts_of_placeholder?_eq_none (by rw [placeholder?, hstart]; exact hread)
    · exact not_starts_inside_start hmem hsplit hskipped hleft body
  | case4 c rest start kind body hstart _ token after hread hle ih =>
    subst hs
    obtain ⟨raw, hraw, heq⟩ : ∃ raw, Placeholder {} token raw ∧ c :: rest = raw ++ after :=
      placeholder_of_placeholder? (by rw [placeholder?, hstart]; exact hread)
    have hlength : rest.length + 1 - after.length = raw.length := by
      have := congrArg List.length heq
      rw [List.length_append, List.length_cons] at this
      omega
    rw [hlength, heq, List.take_left]
    exact .placeholder hraw ih

/-- The scanner returns exactly the leftmost placeholders of a template that do not overlap, with the
literal text between them. -/
theorem scan_eq_iff_isSegmentation {t : Text} {segments : List Segment} :
    scan {} t = segments ↔ IsSegmentation {} t segments := by
  constructor
  · rintro rfl
    exact isSegmentation_scan t
  · exact (isSegmentation_scan t).unique

/-- A placeholder inside an unfinished one, a brace in a string of a payload, and each keyword once. -/
example :
    let call := "\x7b\x7btool:T \x7bk: '\x7d'\x7d \x7d\x7d".toList
    scan {} ("\x7b\x7bpage:\x7b\x7bsite:a\x7d\x7d".toList ++ call ++
        "\x7b\x7bext:E\x7d\x7d\x7b\x7binclude: b \x7d\x7d\x7b\x7bpage:c\x7d\x7d".toList) =
      [.text "\x7b\x7bpage:".toList,
        .placeholder (.field .site "a".toList) "\x7b\x7bsite:a\x7d\x7d".toList,
        .placeholder (.call .tool "T".toList "\x7bk: '\x7d'\x7d".toList) call,
        .placeholder (.call .extension "E".toList none) "\x7b\x7bext:E\x7d\x7d".toList,
        .placeholder (.inclusion "b".toList) "\x7b\x7binclude: b \x7d\x7d".toList,
        .placeholder (.field .page "c".toList) "\x7b\x7bpage:c\x7d\x7d".toList] := by
  decide +kernel

/-! ## Cuts between segments -/

theorem Starts.append {s : Syntax} {t : Text} (h : Starts s t) (rest : Text) : Starts s (t ++ rest) := by
  obtain ⟨token, raw, after, hraw, rfl⟩ := h
  exact ⟨token, raw, after ++ rest, hraw, List.append_assoc _ _ _⟩

namespace IsSegmentation

variable {s : Syntax} {t : Text} {before after : List Segment}

theorem of_append_left (h : IsSegmentation s t (before ++ after)) :
    IsSegmentation s (source before) before where
  source_eq := rfl
  placeholders token raw hmem := h.placeholders token raw (List.mem_append_left after hmem)
  texts front content back heq := by
    obtain ⟨hne, hmerged, hno⟩ := h.texts front content (back ++ after) (by rw [heq]; simp)
    refine ⟨hne, ?_, ?_⟩
    · intro next hnext
      apply hmerged next
      rw [List.head?_append, hnext]
      rfl
    -- a placeholder that starts in front of the cut would also start there in the whole text
    · intro skipped left hsplit hleft hstarts
      apply hno skipped left hsplit hleft
      rw [source_append, ← List.append_assoc]
      exact hstarts.append _

end IsSegmentation

/-- Text with no opening brace after its first character starts no placeholder, unless it is a brace
itself. -/
theorem not_starts_in {content skipped left : Text} (hbrace : '{' ∉ content.tail)
    (hlong : content ≠ ['{']) (heq : content = skipped ++ left) (hleft : left ≠ []) (rest : Text) :
    ¬ Starts {} (left ++ rest) := by
  intro h
  have hmay := mayOpen_of_starts hleft h
  unfold mayOpen at hmay
  split at hmay
  · apply hbrace
    rw [heq]
    cases skipped <;> simp
  · apply hbrace
    cases skipped with
    | nil => exact absurd heq hlong
    | cons c skipped =>
      rw [heq]
      simp
  · cases hmay

theorem scan_text {content : Text} (hne : content ≠ []) (hbrace : '{' ∉ content.tail)
    (hlong : content ≠ ['{']) : scan {} content = [.text content] := by
  apply (isSegmentation_scan content).unique
  have h := IsSegmentation.prependText hne
    (fun _ _ heq hleft => not_starts_in hbrace hlong heq hleft []) .nil
  rwa [List.append_nil] at h

theorem scan_text_placeholder {content raw : Text} {token : Token} (hne : content ≠ [])
    (hbrace : '{' ∉ content.tail) (hlong : content ≠ ['{']) (hraw : Placeholder {} token raw) (t : Text) :
    scan {} (content ++ (raw ++ t)) = .text content :: .placeholder token raw :: scan {} t := by
  apply (isSegmentation_scan _).unique
  exact IsSegmentation.prependText hne
    (fun _ _ heq hleft => not_starts_in hbrace hlong heq hleft _) (.placeholder hraw (isSegmentation_scan t))

end Folio.Markup
