import Folio.Proofs.ContentNormalForm

/-!
# Where content is split

The lines of a content file are the lines of its blocks with a gap before each block but the first: a
separator line and the blank lines after it. Nothing else is left out. A gap opens exactly at the lines, the
first one aside, that end a block; in particular the reader, which jumps from a separator line to the next key
line, jumps over no other place to split.
-/

namespace Folio.Content

open Text (IsBlanks)

/-- A separator line and blank lines after it. -/
def IsGap (format : Format) (gap : List Text) : Prop :=
  ∃ line blanks, gap = line :: blanks ∧ IsSeparatorLine format.blockSeparator line ∧
    ∀ blank ∈ blanks, IsBlanks blank

def StartsWithKeyLine (format : Format) (block : List Text) : Prop :=
  ∃ line rest, block = line :: rest ∧ IsKeyLine format.pairSeparator line

/-- A first block and later ones, each of which is paired with the gap before it. -/
def assemble (first : List Text) (later : List (List Text × List Text)) : List Text :=
  first ++ later.flatMap fun part => part.1 ++ part.2

def GapAt (first : List Text) (later : List (List Text × List Text)) (before : List Text) : Prop :=
  ∃ done part rest, later = done ++ part :: rest ∧ before = assemble first done

/-- Lines are split into a first block and later ones at the lines that end a block. -/
structure Splitting (format : Format) (lines first : List Text)
    (later : List (List Text × List Text)) : Prop where
  lines_eq : lines = assemble first later
  first_ne_nil : first ≠ []
  gaps : ∀ part ∈ later, IsGap format part.1
  keys : ∀ part ∈ later, StartsWithKeyLine format part.2
  gapAt_iff : ∀ before line after, before ≠ [] → lines = before ++ line :: after →
    (GapAt first later before ↔ EndsBlock format line after)

theorem assemble_nil (first : List Text) : assemble first [] = first := by simp [assemble]

theorem assemble_cons (first gap block : List Text) (later : List (List Text × List Text)) :
    assemble first ((gap, block) :: later) = first ++ (gap ++ assemble block later) := by
  simp [assemble]

theorem not_gapAt_nil (first before : List Text) : ¬ GapAt first [] before := by
  rintro ⟨done, part, rest, heq, -⟩
  simp at heq

theorem gapAt_cons_iff {first gap block before : List Text} {later : List (List Text × List Text)} :
    GapAt first ((gap, block) :: later) before ↔
      before = first ∨ ∃ rest, before = first ++ (gap ++ rest) ∧ GapAt block later rest := by
  constructor
  · rintro ⟨done, part, rest, heq, rfl⟩
    cases done with
    | nil => exact .inl (assemble_nil first)
    | cons p done =>
      obtain ⟨rfl, rfl⟩ := List.cons.inj heq
      exact .inr ⟨_, assemble_cons first gap block done, done, part, rest, rfl, rfl⟩
  · rintro (rfl | ⟨_, rfl, done, part, rest, rfl, rfl⟩)
    · exact ⟨[], _, _, rfl, (assemble_nil before).symm⟩
    · exact ⟨(gap, block) :: done, part, rest, rfl, (assemble_cons first gap block done).symm⟩

theorem GapAt.exists_append {first before : List Text} {later : List (List Text × List Text)}
    (h : GapAt first later before) : ∃ rest, before = first ++ rest := by
  obtain ⟨done, part, rest, -, rfl⟩ := h
  exact ⟨_, rfl⟩

/-- A place in a list is in the first of its parts or in the second one. -/
theorem append_eq_append_cons_iff {α : Type} {first second before after : List α} {x : α} :
    first ++ second = before ++ x :: after ↔
      (∃ more, first = before ++ x :: more ∧ after = more ++ second) ∨
        ∃ rest, before = first ++ rest ∧ second = rest ++ x :: after := by
  rw [List.append_eq_append_iff]
  constructor
  · rintro (⟨rest, rfl, hsecond⟩ | ⟨rest, rfl, hrest⟩)
    · exact .inr ⟨rest, rfl, hsecond⟩
    · cases rest with
      | nil => exact .inr ⟨[], by simp, by simpa using hrest.symm⟩
      | cons y rest =>
        obtain ⟨rfl, rfl⟩ := List.cons.inj hrest
        exact .inl ⟨rest, rfl, rfl⟩
  · rintro (⟨more, rfl, rfl⟩ | ⟨rest, rfl, rfl⟩)
    · exact .inr ⟨x :: more, rfl, rfl⟩
    · exact .inl ⟨rest, rfl, rfl⟩

namespace Separated

variable {format : Format} {b : Char} (h : Separated format b)
include h

theorem not_endsBlock_of_isBlanks {line : Text} (hline : IsBlanks line) (following : List Text) :
    ¬ EndsBlock format line following := by
  rintro ⟨⟨n, blanks, rfl, -⟩, -⟩
  have hb : Unicode.isBlank b = true := hline b (by rw [h.block_eq]; simp)
  rw [h.not_blank] at hb
  cases hb

/-- A line that ends a block is followed by blank lines and a key line, which starts the next block. -/
theorem blocksFrom_of_endsBlock (current : List Text) {line : Text} {following : List Text}
    (hline : EndsBlock format line following) :
    ∃ blanks key rest, following = blanks ++ key :: rest ∧ (∀ blank ∈ blanks, IsBlanks blank) ∧
      IsKeyLine format.pairSeparator key ∧
      blocksFrom format current (line :: following) = current :: blocksFrom format [key] rest := by
  obtain ⟨-, blanks, key, rest, rfl, hblanks, -, hkey⟩ := id hline
  refine ⟨blanks, key, rest, rfl, hblanks, hkey, ?_⟩
  have hdrop : (blanks ++ key :: rest).dropWhile Text.isBlank = key :: rest := by
    rw [List.dropWhile_append_of_pos fun blank hblank => Text.isBlank_iff.2 (hblanks blank hblank),
      List.dropWhile_cons, hkey.isBlank, if_neg Bool.false_ne_true]
  rw [Content.blocksFrom_of_endsBlock current hline, hdrop,
    blocksFrom_of_not_endsBlock [] (h.not_endsBlock hkey rest), List.nil_append]

end Separated

section

variable {format : Format} {b : Char}

theorem Splitting.startsWithKeyLine {key : Text} {rest first : List Text}
    {later : List (List Text × List Text)} (hkey : IsKeyLine format.pairSeparator key)
    (h : Splitting format (key :: rest) first later) : StartsWithKeyLine format first := by
  obtain ⟨line, more, rfl⟩ := List.exists_cons_of_ne_nil h.first_ne_nil
  obtain ⟨rfl, -⟩ := List.cons.inj h.lines_eq
  exact ⟨key, more, rfl, hkey⟩

/-- Lines that end no block are one block. -/
theorem Splitting.single {lines : List Text} (hne : lines ≠ [])
    (hnone : NoneEndsBefore format [] lines.tail) : Splitting format lines lines [] where
  lines_eq := (assemble_nil lines).symm
  first_ne_nil := hne
  gaps := by simp
  keys := by simp
  gapAt_iff := by
    rintro before line after hbefore rfl
    apply iff_of_false (not_gapAt_nil _ _)
    obtain ⟨first, before, rfl⟩ := List.exists_cons_of_ne_nil hbefore
    have hline := hnone line after (List.suffix_append before _)
    rwa [List.append_nil] at hline

/-- A block in front, with the line that ends it and the blank lines up to the next key line. -/
theorem Splitting.cons (h : Separated format b) {current blanks rest first : List Text}
    {line key : Text} {later : List (List Text × List Text)} (hne : current ≠ [])
    (hcurrent : NoneEndsBefore format (line :: (blanks ++ key :: rest)) current.tail)
    (hline : EndsBlock format line (blanks ++ key :: rest)) (hblanks : ∀ blank ∈ blanks, IsBlanks blank)
    (hkey : IsKeyLine format.pairSeparator key) (hrest : Splitting format (key :: rest) first later) :
    Splitting format (current ++ line :: (blanks ++ key :: rest)) current
      ((line :: blanks, first) :: later) where
  lines_eq := by rw [assemble_cons, ← hrest.lines_eq, List.cons_append]
  first_ne_nil := hne
  gaps := List.forall_mem_cons.2 ⟨⟨line, blanks, rfl, hline.1, hblanks⟩, hrest.gaps⟩
  keys := List.forall_mem_cons.2 ⟨hrest.startsWithKeyLine hkey, hrest.keys⟩
  gapAt_iff := by
    intro before other after hbefore hlines
    rw [gapAt_cons_iff]
    rcases append_eq_append_cons_iff.1 hlines with ⟨more, rfl, rfl⟩ | ⟨middle, rfl, hmiddle⟩
    -- inside of the block
    · constructor
      · rintro (heq | ⟨inner, heq, -⟩)
        · simp at heq
        · simp at heq
      · intro hends
        obtain ⟨x, before, rfl⟩ := List.exists_cons_of_ne_nil hbefore
        exact absurd hends (hcurrent other more (List.suffix_append before _))
    · rw [← List.cons_append] at hmiddle
      rcases append_eq_append_cons_iff.1 hmiddle with ⟨more, hgap, rfl⟩ | ⟨inner, rfl, hinner⟩
      -- at the first line of the gap, or at one of its blank lines
      · cases middle with
        | nil =>
          obtain ⟨rfl, rfl⟩ := List.cons.inj hgap
          exact iff_of_true (.inl (List.append_nil current)) hline
        | cons x middle =>
          obtain ⟨rfl, rfl⟩ := List.cons.inj hgap
          refine iff_of_false ?_ (h.not_endsBlock_of_isBlanks (hblanks other (by simp)) _)
          rintro (heq | ⟨inner, heq, -⟩)
          · simp at heq
          · simp at heq
      -- behind the gap, where the key line comes first
      · have hgapAt : (current ++ (line :: blanks ++ inner) = current ∨
            ∃ rest, current ++ (line :: blanks ++ inner) = current ++ (line :: blanks ++ rest) ∧
              GapAt first later rest) ↔ GapAt first later inner := by simp
        rw [hgapAt]
        cases inner with
        | nil =>
          obtain ⟨rfl, rfl⟩ := List.cons.inj hinner
          refine iff_of_false ?_ (h.not_endsBlock hkey _)
          intro hgap
          obtain ⟨more, hmore⟩ := hgap.exists_append
          exact hrest.first_ne_nil (List.append_eq_nil_iff.1 hmore.symm).1
        | cons x inner => exact hrest.gapAt_iff _ other after (List.cons_ne_nil x inner) hinner

theorem exists_splitting_blocksFrom (h : Separated format b) {current : List Text} (lines : List Text)
    (hne : current ≠ []) (hcurrent : NoneEndsBefore format lines current.tail) :
    ∃ first later, blocksFrom format current lines = first :: later.map Prod.snd ∧
      Splitting format (current ++ lines) first later := by
  -- a gap takes several lines at once, so the induction is on the number of lines
  induction hlength : lines.length using Nat.strongRecOn generalizing current lines with
  | ind length ih =>
    cases lines with
    | nil =>
      refine ⟨current, [], by rw [blocksFrom]; rfl, ?_⟩
      rw [List.append_nil]
      exact .single hne hcurrent
    | cons line lines =>
      by_cases hline : EndsBlock format line lines
      · obtain ⟨blanks, key, rest, rfl, hblanks, hkey, hblocks⟩ := h.blocksFrom_of_endsBlock current hline
        have hshorter : rest.length < length := by
          rw [← hlength, List.length_cons, List.length_append, List.length_cons]
          omega
        obtain ⟨first, later, hfirst, hsplitting⟩ :=
          ih rest.length hshorter rest (List.cons_ne_nil key []) .nil rfl
        refine ⟨current, (line :: blanks, first) :: later, by rw [hblocks, hfirst]; rfl, ?_⟩
        exact .cons h hne hcurrent hline hblanks hkey hsplitting
      · have hcurrent' : NoneEndsBefore format lines (current ++ [line]).tail := by
          rw [List.tail_append_of_ne_nil hne]
          exact hcurrent.concat hline
        obtain ⟨first, later, hfirst, hsplitting⟩ :=
          ih lines.length (by rw [← hlength, List.length_cons]; omega) lines (by simp) hcurrent' rfl
        refine ⟨first, later, by rw [blocksFrom_of_not_endsBlock current hline, hfirst], ?_⟩
        rwa [List.append_assoc] at hsplitting

theorem exists_splitting_splitBlocks (h : Separated format b) {lines : List Text} (hne : lines ≠ []) :
    ∃ first later, splitBlocks format lines = first :: later.map Prod.snd ∧
      Splitting format lines first later := by
  obtain ⟨line, rest, rfl⟩ := List.exists_cons_of_ne_nil hne
  exact exists_splitting_blocksFrom h rest (List.cons_ne_nil line []) .nil

theorem Splitting.ne_nil_of_mem {lines first block : List Text} {later : List (List Text × List Text)}
    (h : Splitting format lines first later) (hblock : block ∈ first :: later.map Prod.snd) :
    block ≠ [] := by
  rcases List.mem_cons.1 hblock with rfl | hblock
  · exact h.first_ne_nil
  · obtain ⟨part, hpart, rfl⟩ := List.mem_map.1 hblock
    obtain ⟨line, rest, heq, -⟩ := h.keys part hpart
    rw [heq]
    exact List.cons_ne_nil line rest

end

/-- With the separators of a valid configuration, the blocks of a content file hold all of its lines but the
gaps between them, and there is a gap wherever a line after the first one is a separator line with a key line
as the next line that is not blank, and nowhere else. -/
theorem blockTexts_splitting {config : Config} (hvalid : config.validate = .ok ())
    (hblock : ∀ c ∈ config.content.blockSeparator, Unicode.isBlank c = false)
    (hpair : ∀ c ∈ config.content.pairSeparator, Unicode.isBlank c = false) (t : Text) :
    ∃ first later, (blockTexts config.content t).map Text.lines = first :: later.map Prod.snd ∧
      Splitting config.content (Text.lines (Text.normalizeLineBreaks t)) first later := by
  obtain ⟨b, h⟩ := Separated.exists_of_validate hvalid hblock hpair
  obtain ⟨first, later, hblocks, hsplitting⟩ :=
    exists_splitting_splitBlocks h (Text.splitAtChar_ne_nil '\n' (Text.normalizeLineBreaks t))
  refine ⟨first, later, ?_, hsplitting⟩
  have hlines : ∀ block ∈ splitBlocks config.content (Text.lines (Text.normalizeLineBreaks t)),
      Text.lines (Text.join ['\n'] block) = block := by
    intro block hmem
    apply Text.lines_join
    · apply hsplitting.ne_nil_of_mem
      rwa [← hblocks]
    · intro line hline
      exact Text.newline_not_mem_of_mem_lines (mem_of_mem_splitBlocks hmem hline)
  rw [blockTexts, List.map_map, ← hblocks]
  exact (List.map_congr_left hlines).trans (List.map_id' _)

/-- Two lines of dashes, of which the second one is split at, a line of dashes before prose and one at the
end. -/
theorem blockTexts_splitting_doubled :
    let config : Config := {}
    let t := "title: a\n--\n---\t\n\n \nurl: x\n-\nprose\n--".toList
    config.validate = .ok () ∧
      (∀ c ∈ config.content.blockSeparator, Unicode.isBlank c = false) ∧
      (∀ c ∈ config.content.pairSeparator, Unicode.isBlank c = false) ∧
      blockTexts config.content t = ["title: a\n--".toList, "url: x\n-\nprose\n--".toList] ∧
      ∃ first later, (blockTexts config.content t).map Text.lines = first :: later.map Prod.snd ∧
        Splitting config.content (Text.lines (Text.normalizeLineBreaks t)) first later := by
  intro config t
  have hvalid : config.validate = .ok () := rfl
  have hblock : ∀ c ∈ config.content.blockSeparator, Unicode.isBlank c = false := by
    intro c hc
    obtain rfl : c = '-' := List.mem_singleton.1 hc
    decide
  have hpair : ∀ c ∈ config.content.pairSeparator, Unicode.isBlank c = false := by
    intro c hc
    obtain rfl : c = ':' := List.mem_singleton.1 hc
    decide
  have hblocks : blockTexts config.content t =
      ["title: a\n--".toList, "url: x\n-\nprose\n--".toList] := by
    decide +kernel
  exact ⟨hvalid, hblock, hpair, hblocks, blockTexts_splitting hvalid hblock hpair t⟩

end Folio.Content
