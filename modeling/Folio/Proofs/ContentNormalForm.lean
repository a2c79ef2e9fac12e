import Folio.Proofs.ContentRoundTrip

/-!
# The normal form of content

What was read from a text can be written in the usual layout and read again: the layout of the text is
lost, and nothing else. The values that a reader gives are parts of blocks, without the blanks at their ends.
A block that was split off has no line but its first one that ends a block, and neither has any part of it.
-/

namespace Folio.Content

/-! ## Parts of a text -/

theorem KeyLineFollows.append {format : Format} {lines : List Text} (h : KeyLineFollows format lines)
    (more : List Text) : KeyLineFollows format (lines ++ more) := by
  obtain ⟨blank, line, rest, rfl, hblank, hline, hkey⟩ := h
  exact ⟨blank, line, rest ++ more, by simp, hblank, hline, hkey⟩

/-- Text behind the last line neither makes a blank line of a key line nor takes its key away. -/
theorem KeyLineFollows.extend_last {format : Format} {init more : List Text} {last : Text} (t : Text)
    (h : KeyLineFollows format (init ++ [last])) :
    KeyLineFollows format (init ++ (last ++ t) :: more) := by
  rw [← keyLineFollows_iff] at h ⊢
  induction init with
  | nil =>
    rw [List.nil_append, keyLineFollows_cons] at h ⊢
    by_cases hlast : Text.isBlank last = true
    · rw [if_pos hlast] at h
      cases h
    · rw [if_neg hlast, isKeyLine_iff] at h
      obtain ⟨key, rest, hkey, heq⟩ := h
      have hline : IsKeyLine format.pairSeparator (last ++ t) :=
        ⟨key, rest ++ t, hkey, by rw [heq, List.append_assoc]⟩
      rw [if_neg (by simp [hline.isBlank]), isKeyLine_iff]
      exact hline
  | cons line init ih =>
    rw [List.cons_append, keyLineFollows_cons] at h ⊢
    by_cases hline : Text.isBlank line = true
    · rw [if_pos hline] at h ⊢
      exact ih h
    · rw [if_neg hline] at h ⊢
      exact h

namespace NoneEnds

variable {format : Format}

theorem of_suffix {lines later : List Text} (h : NoneEnds format lines) (hsuffix : later <:+ lines) :
    NoneEnds format later := by
  intro line following hline
  exact h line following (hline.trans hsuffix)

theorem of_extend_last {init more : List Text} {last t : Text}
    (h : NoneEnds format (init ++ (last ++ t) :: more)) : NoneEnds format (init ++ [last]) := by
  induction init with
  | nil =>
    -- a last line ends nothing, as no key line follows it
    refine noneEnds_cons_iff.2 ⟨?_, noneEnds_nil format⟩
    rintro ⟨-, hfollows⟩
    exact absurd (keyLineFollows_iff.2 hfollows) Bool.false_ne_true
  | cons line init ih =>
    obtain ⟨hline, hinit⟩ := noneEnds_cons_iff.1 h
    refine noneEnds_cons_iff.2 ⟨?_, ih hinit⟩
    rintro ⟨hsep, hfollows⟩
    exact hline ⟨hsep, hfollows.extend_last t⟩

theorem of_part {t part : Text} (h : NoneEnds format (Text.lines t).tail) (hpart : part <:+: t) :
    NoneEnds format (Text.lines part).tail := by
  obtain ⟨before, after, rfl⟩ := hpart
  -- what stands behind the part goes first, and then what stands in front of it
  have hfront : NoneEnds format (Text.lines (before ++ part)).tail := by
    obtain ⟨init, last, hlines, happend⟩ := Text.exists_lines_append (before ++ part)
    rw [happend] at h
    rw [hlines]
    cases init with
    | nil => exact noneEnds_nil format
    | cons first init => exact h.of_extend_last
  obtain ⟨init, last, -, happend⟩ := Text.exists_lines_append before
  rw [happend] at hfront
  cases init with
  | nil => exact hfront
  | cons first init =>
    apply hfront.of_suffix
    exact (List.suffix_cons _ _).trans (List.suffix_append init _)

end NoneEnds

/-! ## Blocks that were split -/

variable {format : Format}

/-- No line of a list ends a block, in view of the lines that follow the list. -/
def NoneEndsBefore (format : Format) (following lines : List Text) : Prop :=
  ∀ line more, line :: more <:+ lines → ¬ EndsBlock format line (more ++ following)

namespace NoneEndsBefore

variable {line : Text} {following lines : List Text}

theorem nil : NoneEndsBefore format following [] := by
  intro line more hsuffix
  exact absurd (List.suffix_nil.1 hsuffix) (List.cons_ne_nil line more)

theorem noneEnds (h : NoneEndsBefore format following lines) : NoneEnds format lines := by
  rintro line more hsuffix ⟨hsep, hfollows⟩
  exact h line more hsuffix ⟨hsep, hfollows.append following⟩

theorem concat (h : NoneEndsBefore format (line :: following) lines)
    (hline : ¬ EndsBlock format line following) : NoneEndsBefore format following (lines ++ [line]) := by
  intro line' more hsuffix
  rcases List.suffix_concat_iff.1 hsuffix with hnil | ⟨earlier, heq, hearlier⟩
  · cases hnil
  · cases earlier with
    | nil =>
      obtain ⟨rfl, rfl⟩ : line' = line ∧ more = [] := by simpa using heq
      exact hline
    | cons first earlier =>
      obtain ⟨rfl, rfl⟩ : line' = first ∧ more = earlier ++ [line] := by simpa using heq
      rw [List.append_assoc]
      exact h line' earlier hearlier

end NoneEndsBefore

theorem noneEnds_of_mem_blocksFrom {current lines block : List Text}
    (hcurrent : NoneEndsBefore format lines current.tail)
    (hblock : block ∈ blocksFrom format current lines) : NoneEnds format block.tail := by
  fun_induction blocksFrom format current lines with
  | case1 current =>
    rw [List.mem_singleton.1 hblock]
    exact hcurrent.noneEnds
  -- a block ends here, and the lines of the next one are collected from scratch
  | case2 current line rest hends hlt ih =>
    rcases List.mem_cons.1 hblock with rfl | hblock
    · exact hcurrent.noneEnds
    · exact ih .nil hblock
  | case3 current line rest hends ih =>
    apply ih _ hblock
    cases current with
    | nil => exact .nil
    | cons first current => exact hcurrent.concat (by rwa [← endsBlock_iff])

theorem mem_of_mem_blocksFrom {current lines block : List Text} {line : Text}
    (hblock : block ∈ blocksFrom format current lines) (hline : line ∈ block) :
    line ∈ current ∨ line ∈ lines := by
  fun_induction blocksFrom format current lines with
  | case1 current =>
    rw [List.mem_singleton.1 hblock] at hline
    exact .inl hline
  | case2 current separator rest hends hlt ih =>
    rcases List.mem_cons.1 hblock with rfl | hblock
    · exact .inl hline
    · rcases ih hblock with hnil | hrest
      · cases hnil
      · exact .inr (List.mem_cons_of_mem separator ((List.dropWhile_suffix _).subset hrest))
  | case3 current other rest hends ih =>
    rcases ih hblock with hcurrent | hrest
    · rcases List.mem_append.1 hcurrent with hcurrent | hother
      · exact .inl hcurrent
      · exact .inr (List.mem_singleton.1 hother ▸ List.mem_cons_self)
    · exact .inr (List.mem_cons_of_mem other hrest)

theorem noneEnds_of_mem_splitBlocks {lines block : List Text} (h : block ∈ splitBlocks format lines) :
    NoneEnds format block.tail := by
  cases lines with
  | nil =>
    rw [List.mem_singleton.1 h]
    exact noneEnds_nil format
  | cons line rest => exact noneEnds_of_mem_blocksFrom .nil h

theorem mem_of_mem_splitBlocks {lines block : List Text} {line : Text}
    (hblock : block ∈ splitBlocks format lines) (hline : line ∈ block) : line ∈ lines := by
  cases lines with
  | nil =>
    rw [List.mem_singleton.1 hblock] at hline
    cases hline
  | cons first rest =>
    rcases mem_of_mem_blocksFrom hblock hline with hfirst | hrest
    · exact List.mem_singleton.1 hfirst ▸ List.mem_cons_self
    · exact List.mem_cons_of_mem first hrest

/-! ## Fields that were read -/

theorem noneEnds_of_mem_blockTexts {t text : Text} (h : text ∈ blockTexts format t) :
    NoneEnds format (Text.lines text).tail := by
  obtain ⟨block, hblock, rfl⟩ := List.mem_map.1 h
  rw [Text.tail_lines_join fun line hline =>
    Text.newline_not_mem_of_mem_lines (mem_of_mem_splitBlocks hblock hline)]
  exact noneEnds_of_mem_splitBlocks hblock

theorem return_not_mem_of_mem_blockTexts {t text : Text} (h : text ∈ blockTexts format t) : '\r' ∉ text := by
  obtain ⟨block, hblock, rfl⟩ := List.mem_map.1 h
  intro hmem
  rcases Text.mem_join hmem with hnewline | ⟨line, hline, hmem⟩
  · exact absurd (List.mem_singleton.1 hnewline) (by decide)
  · have hlines := mem_of_mem_splitBlocks hblock hline
    exact Text.return_not_mem_normalizeLineBreaks t (Text.mem_of_mem_splitAtChar hlines _ hmem).1

theorem of_readBlock_eq_ok {number : Nat} {text : Text} {field : Text × Text}
    (h : readBlock format number text = .ok field) :
    isKey field.1 = true ∧ field.2 <:+: text ∧ Text.trim field.2 = field.2 := by
  rw [readBlock] at h
  split at h
  · cases h
  · rename_i before after hcut
    dsimp only at h
    split at h
    · rename_i hkey
      obtain rfl := Except.ok.inj h
      have hafter : after <:+ text := by
        rw [Text.eq_of_cut? hcut]
        exact List.suffix_append _ after
      exact ⟨hkey, (Text.trim_isInfix after).trans hafter.isInfix, Text.trim_trim after⟩
    · cases h

theorem exists_of_mem_readBlocks {number : Nat} {texts : List Text} {fields : List (Text × Text)}
    (h : readBlocks format number texts = .ok fields) {field : Text × Text} (hfield : field ∈ fields) :
    ∃ number, ∃ text ∈ texts, readBlock format number text = .ok field := by
  induction texts generalizing number fields with
  | nil =>
    obtain rfl := Except.ok.inj h
    cases hfield
  | cons text texts ih =>
    rw [readBlocks] at h
    cases hfirst : readBlock format number text with
    | error error =>
      rw [hfirst] at h
      cases h
    | ok first =>
      cases hrest : readBlocks format (number + 1) texts with
      | error error =>
        rw [hfirst, hrest] at h
        cases h
      | ok rest =>
        rw [hfirst, hrest] at h
        obtain rfl : first :: rest = fields := Except.ok.inj h
        rcases List.mem_cons.1 hfield with rfl | hfield
        · exact ⟨number, text, List.mem_cons_self, hfirst⟩
        · obtain ⟨number', text', htext, hread⟩ := ih hrest hfield
          exact ⟨number', text', List.mem_cons_of_mem text htext, hread⟩

theorem plain_of_parse {t : Text} {m : FieldMap} (h : parse format t = .ok m) {field : Text × Text}
    (hfield : field ∈ m.toList) : isKey field.1 = true ∧ Plain format field.2 := by
  rw [parse] at h
  split at h
  · obtain rfl := Except.ok.inj h
    cases hfield
  · cases hblocks : readBlocks format 1 (blockTexts format t) with
    | error error =>
      rw [hblocks] at h
      cases h
    | ok fields =>
      rw [hblocks] at h
      obtain rfl : FieldMap.ofList fields = m := Except.ok.inj h
      obtain ⟨number, text, htext, hread⟩ :=
        exists_of_mem_readBlocks hblocks (FieldMap.mem_of_mem_ofList hfield)
      obtain ⟨hkey, hpart, htrim⟩ := of_readBlock_eq_ok hread
      refine ⟨hkey, htrim, ?_, (noneEnds_of_mem_blockTexts htext).of_part hpart⟩
      intro hreturn
      exact return_not_mem_of_mem_blockTexts htext (hpart.subset hreturn)

/-- With the separators of a valid configuration, what was read from any text and is written again is
read as the same fields in the same order. -/
theorem parse_write_of_parse {config : Config} (hvalid : config.validate = .ok ())
    (hblock : ∀ c ∈ config.content.blockSeparator, Unicode.isBlank c = false)
    (hpair : ∀ c ∈ config.content.pairSeparator, Unicode.isBlank c = false ∧ isKeyChar c = false)
    {t : Text} {m : FieldMap} (h : parse config.content t = .ok m) :
    parse config.content (write config.content m) = .ok m := by
  obtain ⟨b, hseparated⟩ := Separated.exists_of_validate hvalid hblock fun c hc => (hpair c hc).1
  apply parse_write_of_separated hseparated fun c hc => (hpair c hc).2
  · intro field hfield
    exact (plain_of_parse h hfield).1
  · intro field hfield
    exact (plain_of_parse h hfield).2

/-- Blank lines in front, a key far from its separator, mixed line ends, doubled lines of dashes and a key
that occurs twice. -/
theorem parse_write_of_parse_layout :
    let config : Config := {}
    let t := "\n \n title \n : a\r\n\r\nb: c\n--\n---\n\nurl: x\r--\nno key\n-\ntitle:last\n---".toList
    let m := FieldMap.ofList
      [("title".toList, "last\n---".toList), ("url".toList, "x\n--\nno key".toList)]
    config.validate = .ok () ∧
      (∀ c ∈ config.content.blockSeparator, Unicode.isBlank c = false) ∧
      (∀ c ∈ config.content.pairSeparator, Unicode.isBlank c = false ∧ isKeyChar c = false) ∧
      parse config.content t = .ok m ∧ parse config.content (write config.content m) = .ok m := by
  intro config t m
  have hvalid : config.validate = .ok () := rfl
  have hblock : ∀ c ∈ config.content.blockSeparator, Unicode.isBlank c = false := by
    intro c hc
    obtain rfl : c = '-' := List.mem_singleton.1 hc
    decide
  have hpair : ∀ c ∈ config.content.pairSeparator, Unicode.isBlank c = false ∧ isKeyChar c = false := by
    intro c hc
    obtain rfl : c = ':' := List.mem_singleton.1 hc
    decide
  have hparse : parse config.content t = .ok m := by decide +kernel
  exact ⟨hvalid, hblock, hpair, hparse, parse_write_of_parse hvalid hblock hpair hparse⟩

end Folio.Content
