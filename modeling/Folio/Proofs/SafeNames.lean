import Folio.Proofs.NamingSteps

/-!
# Safe names

What every safe name looks like, when it starts with a dot, and when a name is its own safe name. The
statements hold for any way to spell a text in ASCII; they go through the steps of naming one after the other.
-/

namespace Folio.SafeName

open Text (HeadAvoids)
open Unicode (isAsciiAlphanumeric)

def IsNameChar (removeDots : Bool) (c : Char) : Prop :=
  c.isLower = true ∨ c.isDigit = true ∨ c = '_' ∨ c = '-' ∨ c = '.' ∧ removeDots = false

/-- The look of a safe name. -/
structure HasShape (removeDots : Bool) (name : Text) : Prop where
  chars : ∀ c ∈ name, IsNameChar removeDots c
  start : ∀ c ∈ name.head?, c ≠ '_' ∧ c ≠ '-'
  stop : ∀ c ∈ name.getLast?, c ≠ '_' ∧ c ≠ '-'
  single : ¬ ['_', '_'] <:+: name ∧ ¬ ['-', '-'] <:+: name

variable {removeDots : Bool} {t : Text} {c : Char}

/-! ## The shape of a name -/

theorem isNameChar_of_isSafe (hupper : c.isUpper = false) (h : isSafe removeDots c = true) :
    IsNameChar removeDots c := by
  simpa [IsNameChar, isSafe, isAsciiAlphanumeric, Char.isAlpha, hupper, or_assoc] using h

theorem hasShape_ofAscii (removeDots : Bool) (t : Text) : HasShape removeDots (ofAscii removeDots t) where
  chars := by
    intro c hc
    have hmem := (trimEnds_isInfix _).subset ((mergeSeparators_sublist _).subset hc)
    obtain ⟨d, hd, rfl⟩ := List.mem_map.1 hmem
    rw [safeChar]
    split
    · rename_i hsafe
      exact isNameChar_of_isSafe (isUpper_of_mem_spellOut hd) hsafe
    · exact isNameChar_of_isSafe rfl (by simp [isSafe])
  start := by
    rw [ofAscii, head?_mergeSeparators]
    intro c hc
    exact isSeparator_eq_false_iff.1 (headAvoids_trimEnds _ c hc)
  stop := by
    rw [ofAscii, getLast?_mergeSeparators]
    intro c hc
    exact isSeparator_eq_false_iff.1 (isSeparator_getLast?_trimEnds _ c hc)
  single := isChain_iff.1 (isChain_mergeSeparators _)

theorem HasShape.head?_ne_dot {name : Text} (h : HasShape true name) : name.head? ≠ some '.' := by
  intro hdot
  exact absurd (h.chars '.' (List.mem_of_head? hdot)) (by simp [IsNameChar])

/-- A safe name has the shape of one, and all letters and digits of the spelled-out text in their order. -/
theorem hasShape_ofTextBy (spell : Text → Text) (removeDots : Bool) (t : Text) :
    HasShape removeDots (ofTextBy spell removeDots t) ∧
      (ofTextBy spell removeDots t).filter isAsciiAlphanumeric =
        (spellOut (spell (Text.trim t))).filter isAsciiAlphanumeric := by
  refine ⟨hasShape_ofAscii removeDots _, ?_⟩
  rw [ofTextBy, ofAscii, filter_mergeSeparators, filter_trimEnds, filter_map_safeChar]

/-! ## Names that start with a dot -/

theorem head?_ofAscii (removeDots : Bool) (t : Text) : (ofAscii removeDots t).head? =
    ((((spellOut t).map (safeChar removeDots)).dropWhile (· = '.')).dropWhile isSeparator).head? := by
  rw [ofAscii, head?_mergeSeparators, head?_trimEnds]

/-- After a run of one class and a run of another, a character of the first class is met exactly if the
second run is not empty. -/
theorem head?_dropWhile_dropWhile_iff {p q : Char → Bool} (hpq : ∀ d, q d = true → p d = false)
    (hp : p c = true) : ((t.dropWhile p).dropWhile q).head? = some c ↔
      ∃ first second rest, t = first ++ second ++ c :: rest ∧ (∀ d ∈ first, p d = true) ∧
        second ≠ [] ∧ ∀ d ∈ second, q d = true := by
  constructor
  · intro h
    obtain ⟨rest, hrest⟩ := List.head?_eq_some_iff.1 h
    refine ⟨t.takeWhile p, (t.dropWhile p).takeWhile q, rest, ?_, fun d hd => List.mem_takeWhile_imp hd, ?_,
      fun d hd => List.mem_takeWhile_imp hd⟩
    · rw [List.append_assoc, ← hrest, List.takeWhile_append_dropWhile, List.takeWhile_append_dropWhile]
    · intro hnil
      -- without a second run the first one would go on with `c`
      have hsame := List.takeWhile_append_dropWhile (p := q) (l := t.dropWhile p)
      rw [hnil, hrest, List.nil_append] at hsame
      have havoids := Text.headAvoids_dropWhile p t
      rw [← hsame, Text.headAvoids_cons, hp] at havoids
      cases havoids
  · rintro ⟨first, second, rest, rfl, hfirst, hne, hsecond⟩
    obtain ⟨d, second, rfl⟩ := List.exists_cons_of_ne_nil hne
    have hc : q c = false := by
      rw [Bool.eq_false_iff]
      intro hq
      rw [hpq c hq] at hp
      cases hp
    have hd : HeadAvoids p (d :: second ++ c :: rest) :=
      Text.headAvoids_cons.2 (hpq d (hsecond d List.mem_cons_self))
    rw [List.append_assoc, Text.dropWhile_run hfirst hd,
      Text.dropWhile_run hsecond (Text.headAvoids_cons.2 hc)]
    rfl

/-- A safe name starts with a dot exactly if dots are kept and the spelled-out text has, after dots at its
start if any, something other than letters, digits and dots right before a dot. -/
theorem head?_ofTextBy_eq_dot_iff (spell : Text → Text) (removeDots : Bool) (t : Text) :
    (ofTextBy spell removeDots t).head? = some '.' ↔ removeDots = false ∧
      ∃ dots gap rest, spellOut (spell (Text.trim t)) = dots ++ gap ++ '.' :: rest ∧
        (∀ c ∈ dots, c = '.') ∧ gap ≠ [] ∧ ∀ c ∈ gap, isAsciiAlphanumeric c = false ∧ c ≠ '.' := by
  cases removeDots with
  | true =>
    exact iff_of_false (hasShape_ofAscii true _).head?_ne_dot (by simp)
  | false =>
    have hdot : (fun c => decide (c = '.')) ∘ safeChar false = fun c => decide (c = '.') :=
      funext fun c => decide_eq_decide.2 safeChar_eq_dot_iff
    have hgap : isSeparator ∘ safeChar false = fun c => !isAsciiAlphanumeric c && decide (c ≠ '.') :=
      funext isSeparator_safeChar
    rw [ofTextBy, head?_ofAscii, List.dropWhile_map, List.dropWhile_map, List.head?_map, hdot, hgap]
    simp only [Option.map_eq_some_iff, safeChar_eq_dot_iff, exists_eq_right, true_and]
    rw [head?_dropWhile_dropWhile_iff (by simp) (by simp)]
    simp

/-- Where a dash becomes the start of a name, the dots after it stay. -/
theorem ofText_slash_dots : ofText false "/..".toList = "..".toList := by decide

/-! ## Names that stay as they are -/

def KeepsAscii (spell : Text → Text) : Prop := ∀ t, (∀ c ∈ t, c.toNat < 0x7F) → spell t = t

theorem keepsAscii_toAscii : KeepsAscii Transliteration.toAscii := by
  intro t ht
  rw [Transliteration.toAscii]
  induction t with
  | nil => rfl
  | cons c t ih =>
    obtain ⟨hc, ht⟩ := List.forall_mem_cons.1 ht
    rw [List.map_cons, Transliteration.spelling?, if_pos hc, Transliteration.assemble, ih ht]
    rfl

namespace IsNameChar

variable (h : IsNameChar removeDots c)
include h

theorem isUpper_eq_false : c.isUpper = false := by
  rcases h with hc | hc | rfl | rfl | ⟨rfl, -⟩
  · exact Bool.eq_false_iff.2 (Char.not_isUpper_of_isLower hc)
  · grind [Char.isDigit, Char.isUpper]
  all_goals rfl

theorem isSafe : isSafe removeDots c = true := by
  rcases h with hc | hc | rfl | rfl | ⟨rfl, rfl⟩
  · simp [SafeName.isSafe, isAsciiAlphanumeric, Char.isAlpha, hc]
  · simp [SafeName.isSafe, isAsciiAlphanumeric, hc]
  · simp [SafeName.isSafe]
  · simp [SafeName.isSafe]
  · rfl

theorem toNat_lt : c.toNat < 0x7F := by
  rcases h with hc | hc | rfl | rfl | ⟨rfl, -⟩
  · have hrange : 97 ≤ c.toNat ∧ c.toNat ≤ 122 := by
      simpa [Char.isLower, UInt32.le_iff_toNat_le, ← Char.toNat_val] using hc
    omega
  · have hrange : 48 ≤ c.toNat ∧ c.toNat ≤ 57 := by
      simpa [Char.isDigit, UInt32.le_iff_toNat_le, ← Char.toNat_val] using hc
    omega
  all_goals decide

theorem isBlank_eq_false : Unicode.isBlank c = false := by
  have hname : Markup.isNameChar c = true := by
    have hascii : c.toNat < 0x80 := Nat.lt_succ_of_lt h.toNat_lt
    have hsafe := h.isSafe
    grind [Markup.isNameChar, Unicode.isAlphanumeric, SafeName.isSafe]
  rw [Bool.eq_false_iff]
  intro hblank
  rw [Unicode.isNameChar_of_isBlank hblank] at hname
  cases hname

end IsNameChar

namespace HasShape

variable {name : Text} (h : HasShape removeDots name)
include h

theorem trim_eq : Text.trim name = name := Text.trim_eq_self fun c hc => (h.chars c hc).isBlank_eq_false

theorem spellOut_eq (hwords : NoArticle isWordChar [] name) : spellOut name = name := by
  have hlower : Text.asciiLower name = name :=
    Text.asciiLower_eq_self fun c hc => (h.chars c hc).isUpper_eq_false
  have hsymbols : name.flatMap spellSymbol = name.flatMap ([·]) :=
    List.flatMap_congr fun c hc => spellSymbol_of_isSafe (h.chars c hc).isSafe
  rw [spellOut, hlower, hwords.dropArticles_eq, hsymbols, List.flatMap_singleton']

theorem map_safeChar_eq : name.map (safeChar removeDots) = name := by
  rw [List.map_congr_left fun c hc => safeChar_of_isSafe (h.chars c hc).isSafe, List.map_id']

theorem mergeSeparators_eq : mergeSeparators name = name := mergeSeparators_eq_self (isChain_iff.2 h.single)

theorem trimEnds_eq (hdot : name.head? ≠ some '.') : trimEnds name = name := by
  have hdots : HeadAvoids (fun c => decide (c = '.')) name := by
    intro c hc
    rw [decide_eq_false_iff_not]
    rintro rfl
    exact hdot hc
  have hstart : HeadAvoids isSeparator name := fun c hc => isSeparator_eq_false_iff.2 (h.start c hc)
  have hstop : HeadAvoids isSeparator name.reverse := by
    intro c hc
    rw [List.head?_reverse] at hc
    exact isSeparator_eq_false_iff.2 (h.stop c hc)
  rw [trimEnds, Text.dropWhile_eq_self hdots, Text.dropWhile_eq_self hstart, Text.dropEndWhile,
    Text.dropWhile_eq_self hstop, List.reverse_reverse]

/-- A name without articles is its own safe name, unless it starts with a dot. -/
theorem ofAscii_eq_self_iff (hwords : NoArticle isWordChar [] name) :
    ofAscii removeDots name = name ↔ name.head? ≠ some '.' := by
  have hname : ofAscii removeDots name = mergeSeparators (trimEnds name) := by
    rw [ofAscii, h.spellOut_eq hwords, h.map_safeChar_eq]
  constructor
  · intro hsame hdot
    obtain ⟨rest, rfl⟩ := List.head?_eq_some_iff.1 hdot
    -- the dot is lost, so the name gets shorter
    have htrim : (trimEnds ('.' :: rest)).Sublist rest := by
      rw [trimEnds, List.dropWhile_cons_of_pos rfl]
      exact (Text.dropEndWhile_isPrefix _ _).sublist.trans
        ((List.dropWhile_sublist _).trans (List.dropWhile_sublist _))
    have hlength := ((mergeSeparators_sublist _).trans htrim).length_le
    rw [← hname, hsame, List.length_cons] at hlength
    omega
  · intro hdot
    rw [hname, h.trimEnds_eq hdot, h.mergeSeparators_eq]

end HasShape

/-! ## Articles in names -/

/-- With low lines, runs of letters and digits join into longer words, but into no article. -/
theorem NoArticle.isWordChar {word grown : Text} (h : NoArticle isAsciiAlphanumeric word t)
    (hgrown : Grown word grown) : NoArticle isWordChar grown t := by
  induction t generalizing word grown with
  | nil => exact hgrown.not_mem h
  | cons c t ih =>
    cases hc : isAsciiAlphanumeric c with
    | true =>
      rw [noArticle_cons_of_pos (by simp [SafeName.isWordChar, hc])]
      exact ih ((noArticle_cons_of_pos hc).1 h) (hgrown.append [c])
    | false =>
      obtain ⟨hword, ht⟩ := (noArticle_cons_of_neg hc).1 h
      by_cases hlow : c = '_'
      · subst hlow
        rw [noArticle_cons_of_pos (by decide)]
        exact ih ht (.of_run grown (List.mem_singleton_self '_') (by decide))
      · rw [noArticle_cons_of_neg (by simp [SafeName.isWordChar, hc, hlow])]
        exact ⟨hgrown.not_mem hword, ih ht (.refl [])⟩

theorem noArticle_ofAscii (removeDots : Bool) (hlow : '_' ∉ t) :
    NoArticle isWordChar [] (ofAscii removeDots t) := by
  have hdropped : NoArticle isAsciiAlphanumeric [] (dropArticles (Text.asciiLower t)) := by
    rw [noArticle_congr (q := isWordChar)]
    · exact noArticle_dropArticles _
    · intro c hc
      have hne : c ≠ '_' := by
        rintro rfl
        exact hlow (Text.mem_of_mem_asciiLower (by decide) (mem_of_mem_dropArticles hc))
      simp [isWordChar, hne]
  have hspelled : NoArticle isAsciiAlphanumeric [] (spellOut t) := hdropped.spellSymbols (.refl [])
  exact ((hspelled.map_safeChar removeDots).trimEnds.mergeSeparators).isWordChar (.refl [])

/-- The safe name of a text whose spelling has no low line has no article that stands alone. It is its own
safe name exactly if it does not start with a dot. -/
theorem ofTextBy_ofTextBy_eq_iff {spell : Text → Text} (hspell : KeepsAscii spell) (removeDots : Bool)
    {t : Text} (hlow : '_' ∉ spell (Text.trim t)) :
    (∀ article ∈ ["a".toList, "an".toList, "the".toList],
        ¬ StandsAlone article (ofTextBy spell removeDots t)) ∧
      (ofTextBy spell removeDots (ofTextBy spell removeDots t) = ofTextBy spell removeDots t ↔
        removeDots = true ∨ (ofTextBy spell removeDots t).head? ≠ some '.') := by
  have hwords := noArticle_ofAscii removeDots hlow
  have hshape := hasShape_ofAscii removeDots (spell (Text.trim t))
  refine ⟨fun article harticle => hwords.not_standsAlone harticle, ?_⟩
  have hspelled : spell (Text.trim (ofAscii removeDots (spell (Text.trim t)))) =
      ofAscii removeDots (spell (Text.trim t)) := by
    rw [hshape.trim_eq]
    exact hspell _ fun c hc => (hshape.chars c hc).toNat_lt
  have hdots : removeDots = true → (ofTextBy spell removeDots t).head? ≠ some '.' := by
    rintro rfl
    exact (hasShape_ofAscii true _).head?_ne_dot
  rw [or_iff_right_of_imp hdots, ofTextBy, ofTextBy, hspelled]
  exact hshape.ofAscii_eq_self_iff hwords

theorem ofTextBy_ofTextBy_eq_iff_title :
    let t := " The \"Quick\" & an @ Brown/Fox.tar.gz ".toList
    let name := ofTextBy Transliteration.toAscii false t
    KeepsAscii Transliteration.toAscii ∧ '_' ∉ Transliteration.toAscii (Text.trim t) ∧
      (∀ article ∈ ["a".toList, "an".toList, "the".toList], ¬ StandsAlone article name) ∧
      ofTextBy Transliteration.toAscii false name = name := by
  intro t name
  have hlow : '_' ∉ Transliteration.toAscii (Text.trim t) := by decide
  obtain ⟨hwords, hsame⟩ := ofTextBy_ofTextBy_eq_iff keepsAscii_toAscii false hlow
  exact ⟨keepsAscii_toAscii, hlow, hwords, hsame.2 (.inr (by decide))⟩

/-- A low line can guard an article, and is then trimmed away. -/
example : ofText false "_a-b".toList = "a-b".toList ∧ ofText false "a-b".toList = "b".toList := by decide

end Folio.SafeName
