import Folio.Proofs.BlockLines
import Folio.Proofs.FieldMaps

/-!
# Writing and reading content

Fields that are written as blocks are read back, whatever their values hold: blank lines, key lines, the
pair separator, and lines of block separators where no key line comes next. The only layout a value cannot
have is one in which a line of its own ends a block. The reader looks ahead over blank lines, so the point
is that what follows a value in the text never makes one of its lines end a block.
-/

namespace Folio.Content

open Text (IsBlanks)

structure Plain (format : Format) (value : Text) : Prop where
  trim_eq : Text.trim value = value
  no_return : '\r' ∉ value
  whole : NoneEnds format (Text.lines value).tail

instance (format : Format) (value : Text) : Decidable (Plain format value) :=
  decidable_of_iff
    (Text.trim value = value ∧ '\r' ∉ value ∧ NoneEnds format (Text.lines value).tail)
    ⟨fun ⟨htrim, hreturn, hwhole⟩ => ⟨htrim, hreturn, hwhole⟩,
      fun h => ⟨h.trim_eq, h.no_return, h.whole⟩⟩

/-! ## Splitting -/

/-- Lines that are one block: the first one is a key line, and none ends the block. -/
structure WholeBlock (format : Format) (lines : List Text) : Prop where
  opens : ∃ first rest, lines = first :: rest ∧ IsKeyLine format.pairSeparator first
  whole : NoneEnds format lines

section

variable {format : Format} {b : Char}

theorem blocksFrom_of_not_endsBlock (current : List Text) {line : Text} {rest : List Text}
    (hline : ¬ EndsBlock format line rest) :
    blocksFrom format current (line :: rest) = blocksFrom format (current ++ [line]) rest := by
  rw [blocksFrom, if_neg (by rwa [endsBlock_iff])]

theorem blocksFrom_of_endsBlock (current : List Text) {line : Text} {rest : List Text}
    (hline : EndsBlock format line rest) : blocksFrom format current (line :: rest) =
      current :: blocksFrom format [] (rest.dropWhile Text.isBlank) := by
  rw [blocksFrom, if_pos (endsBlock_iff.2 hline)]

/-- Lines that end no block join the open one, if no key line comes next after them. -/
theorem blocksFrom_append {following : List Text} (hfollowing : keyLineFollows format following = false)
    (current : List Text) {lines : List Text} (hwhole : NoneEnds format lines) :
    blocksFrom format current (lines ++ following) = blocksFrom format (current ++ lines) following := by
  induction lines generalizing current with
  | nil => rw [List.nil_append, List.append_nil]
  | cons line lines ih =>
    obtain ⟨hline, hlines⟩ := noneEnds_cons_iff.1 hwhole
    have hline' : ¬ EndsBlock format line (lines ++ following) := by
      rwa [← endsBlock_iff, keyLineFollows_append lines hfollowing, endsBlock_iff]
    rw [List.cons_append, blocksFrom_of_not_endsBlock current hline', ih _ hlines, List.append_assoc,
      List.singleton_append]

theorem splitBlocks_of_isKeyLine (h : Separated format b) {first : Text} (rest : List Text)
    (hfirst : IsKeyLine format.pairSeparator first) :
    splitBlocks format (first :: rest) = blocksFrom format [] (first :: rest) := by
  rw [splitBlocks, blocksFrom_of_not_endsBlock [] (h.not_endsBlock hfirst rest), List.nil_append]

/-- A line of one block separator ends a block where a block follows. -/
theorem endsBlock_blockSeparator (format : Format) {first : Text} (rest : List Text)
    (hfirst : IsKeyLine format.pairSeparator first) :
    EndsBlock format format.blockSeparator (first :: rest) := by
  refine ⟨⟨0, [], by simp, by simp [IsBlanks]⟩, [], first, rest, rfl, by simp, ?_, hfirst⟩
  rw [← Text.isBlank_iff, hfirst.isBlank]
  exact Bool.false_ne_true

def joinBlocks (format : Format) (texts : List Text) : Text :=
  Text.join (['\n'] ++ format.blockSeparator ++ ['\n']) texts

theorem lines_joinBlocks_cons (h : Separated format b) (text : Text) {texts : List Text}
    (hne : texts ≠ []) : Text.lines (joinBlocks format (text :: texts)) =
      Text.lines text ++ format.blockSeparator :: Text.lines (joinBlocks format texts) := by
  have hnewline : '\n' ∉ format.blockSeparator := by
    rw [h.block_eq, List.mem_singleton]
    rintro rfl
    exact absurd h.not_blank (by decide)
  have heq : joinBlocks format (text :: texts) =
      text ++ '\n' :: (format.blockSeparator ++ '\n' :: joinBlocks format texts) := by
    rw [joinBlocks, Text.join_cons_of_ne_nil _ text hne]
    simp [joinBlocks]
  rw [heq, Text.lines_append_newline, Text.lines_append_newline, Text.lines_of_not_mem hnewline]
  rfl

theorem WholeBlock.of_lines_joinBlocks (h : Separated format b) {texts : List Text} (hne : texts ≠ [])
    (htexts : ∀ text ∈ texts, WholeBlock format (Text.lines text)) :
    ∃ first rest, Text.lines (joinBlocks format texts) = first :: rest ∧
      IsKeyLine format.pairSeparator first := by
  obtain ⟨text, texts, rfl⟩ := List.exists_cons_of_ne_nil hne
  obtain ⟨first, rest, hlines, hfirst⟩ := (htexts text List.mem_cons_self).opens
  by_cases hmore : texts = []
  · subst hmore
    exact ⟨first, rest, hlines, hfirst⟩
  · exact ⟨first, _, by rw [lines_joinBlocks_cons h text hmore, hlines]; rfl, hfirst⟩

/-- The blocks of a text are the ones that it was put together from. -/
theorem blocksFrom_joinBlocks (h : Separated format b) {texts : List Text} (hne : texts ≠ [])
    (htexts : ∀ text ∈ texts, WholeBlock format (Text.lines text)) :
    blocksFrom format [] (Text.lines (joinBlocks format texts)) = texts.map Text.lines := by
  induction texts with
  | nil => exact absurd rfl hne
  | cons text texts ih =>
    obtain ⟨htext, htexts⟩ := List.forall_mem_cons.1 htexts
    by_cases hmore : texts = []
    · subst hmore
      have hnil : keyLineFollows format [] = false := rfl
      have happend := blocksFrom_append hnil [] htext.whole
      rw [List.append_nil, List.nil_append] at happend
      rw [joinBlocks, Text.join, happend, blocksFrom]
      rfl
    -- the line between this block and the next one ends this block and nothing before it does
    · obtain ⟨first, rest, hlines, hfirst⟩ := WholeBlock.of_lines_joinBlocks h hmore htexts
      rw [lines_joinBlocks_cons h text hmore,
        blocksFrom_append (h.keyLineFollows_blockSeparator _) [] htext.whole, hlines,
        blocksFrom_of_endsBlock _ (endsBlock_blockSeparator format rest hfirst),
        List.dropWhile_cons, hfirst.isBlank, if_neg Bool.false_ne_true, ← hlines, ih hmore htexts]
      rfl

theorem splitBlocks_joinBlocks (h : Separated format b) {texts : List Text} (hne : texts ≠ [])
    (htexts : ∀ text ∈ texts, WholeBlock format (Text.lines text)) :
    splitBlocks format (Text.lines (joinBlocks format texts)) = texts.map Text.lines := by
  obtain ⟨first, rest, hlines, hfirst⟩ := WholeBlock.of_lines_joinBlocks h hne htexts
  rw [← blocksFrom_joinBlocks h hne htexts, hlines, splitBlocks_of_isKeyLine h rest hfirst]

/-! ## Blocks of fields -/

theorem newline_not_mem_writeBlock_key (h : Separated format b) {key : Text} (hkey : isKey key = true) :
    '\n' ∉ key ++ format.pairSeparator := by
  rw [List.mem_append]
  rintro (hmem | hmem)
  · exact absurd (isBlank_of_isKeyChar ((isKey_iff.1 hkey).2 _ hmem)) (by decide)
  · exact absurd (h.pair_not_blank _ hmem) (by decide)

theorem wholeBlock_writeBlock (h : Separated format b) {field : Text × Text}
    (hkey : isKey field.1 = true) (hvalue : Plain format field.2) :
    WholeBlock format (Text.lines (writeBlock format field)) := by
  have hlines : Text.lines (writeBlock format field) =
      (field.1 ++ format.pairSeparator ++ (Text.lines field.2).headD []) ::
        (Text.lines field.2).tail :=
    Text.lines_append_of_not_mem (newline_not_mem_writeBlock_key h hkey) field.2
  have hfirst : IsKeyLine format.pairSeparator
      (field.1 ++ format.pairSeparator ++ (Text.lines field.2).headD []) :=
    ⟨field.1, (Text.lines field.2).headD [], hkey, rfl⟩
  refine ⟨⟨_, _, hlines, hfirst⟩, ?_⟩
  rw [hlines, noneEnds_cons_iff]
  exact ⟨h.not_endsBlock hfirst _, hvalue.whole⟩

theorem trim_of_isKey {key : Text} (hkey : isKey key = true) : Text.trim key = key :=
  Text.trim_eq_self fun c hc => isBlank_of_isKeyChar ((isKey_iff.1 hkey).2 c hc)

theorem isFirst_of_isKey (h : Separated format b) (hpair : ∀ c ∈ format.pairSeparator, isKeyChar c = false)
    {key : Text} (hkey : isKey key = true) : Text.IsFirst format.pairSeparator key :=
  Text.isFirst_of_run h.pair_ne_nil hpair (isKey_iff.1 hkey).2

theorem readBlock_writeBlock (h : Separated format b)
    (hpair : ∀ c ∈ format.pairSeparator, isKeyChar c = false) (number : Nat) {field : Text × Text}
    (hkey : isKey field.1 = true) (hvalue : Plain format field.2) :
    readBlock format number (writeBlock format field) = .ok field := by
  have hcut : Text.cut? format.pairSeparator (writeBlock format field) = some field :=
    Text.cut?_of_isFirst field.2 (isFirst_of_isKey h hpair hkey)
  rw [readBlock, hcut]
  dsimp only
  rw [trim_of_isKey hkey, if_pos hkey, hvalue.trim_eq]

theorem readBlocks_map_writeBlock (h : Separated format b)
    (hpair : ∀ c ∈ format.pairSeparator, isKeyChar c = false) (number : Nat)
    {fields : List (Text × Text)} (hkeys : ∀ field ∈ fields, isKey field.1 = true)
    (hvalues : ∀ field ∈ fields, Plain format field.2) :
    readBlocks format number (fields.map (writeBlock format)) = .ok fields := by
  induction fields generalizing number with
  | nil => rfl
  | cons field fields ih =>
    obtain ⟨hkey, hkeys⟩ := List.forall_mem_cons.1 hkeys
    obtain ⟨hvalue, hvalues⟩ := List.forall_mem_cons.1 hvalues
    rw [List.map_cons, readBlocks, readBlock_writeBlock h hpair number hkey hvalue, ih _ hkeys hvalues]
    rfl

theorem return_not_mem_write (h : Separated format b) {m : FieldMap}
    (hkeys : ∀ field ∈ m.toList, isKey field.1 = true)
    (hvalues : ∀ field ∈ m.toList, Plain format field.2) : '\r' ∉ write format m := by
  have hreturn : Unicode.isBlank '\r' = true := by decide
  intro hmem
  rcases Text.mem_join hmem with hsep | ⟨text, htext, hmem⟩
  · rw [h.block_eq] at hsep
    obtain rfl : '\r' = b := by simpa using hsep
    rw [h.not_blank] at hreturn
    cases hreturn
  · obtain ⟨field, hfield, rfl⟩ := List.mem_map.1 htext
    rw [writeBlock, List.mem_append, List.mem_append] at hmem
    rcases hmem with (hkey | hpair) | hvalue
    · rw [isBlank_of_isKeyChar ((isKey_iff.1 (hkeys field hfield)).2 _ hkey)] at hreturn
      cases hreturn
    · rw [h.pair_not_blank _ hpair] at hreturn
      cases hreturn
    · exact (hvalues field hfield).no_return hvalue

theorem isBlank_write (h : Separated format b) {m : FieldMap} (hne : m.toList ≠ [])
    (htexts : ∀ text ∈ m.toList.map (writeBlock format), WholeBlock format (Text.lines text)) :
    Text.isBlank (write format m) = false := by
  obtain ⟨first, rest, hlines, hfirst⟩ := WholeBlock.of_lines_joinBlocks h (by simpa using hne) htexts
  obtain ⟨key, after, hkey, rfl⟩ := hfirst
  obtain ⟨hnil, hchars⟩ := isKey_iff.1 hkey
  obtain ⟨c, key, rfl⟩ := List.exists_cons_of_ne_nil hnil
  have hmem : c ∈ write format m := by
    rw [← Text.join_lines (write format m)]
    change c ∈ Text.join ['\n'] (Text.lines (joinBlocks format (m.toList.map (writeBlock format))))
    rw [hlines]
    cases rest with
    | nil => exact List.mem_cons_self
    | cons line rest => exact List.mem_cons_self
  exact Text.isBlank_eq_false_of_mem hmem (isBlank_of_isKeyChar (hchars c List.mem_cons_self))

theorem parse_write_empty (format : Format) : parse format (write format .empty) = .ok .empty := rfl

/-- Fields with plain values are read block by block. -/
theorem parse_write_of_separated (h : Separated format b)
    (hpair : ∀ c ∈ format.pairSeparator, isKeyChar c = false) {m : FieldMap}
    (hkeys : ∀ field ∈ m.toList, isKey field.1 = true)
    (hvalues : ∀ field ∈ m.toList, Plain format field.2) : parse format (write format m) = .ok m := by
  by_cases hne : m.toList = []
  · obtain rfl : m = .empty := FieldMap.ext hne
    exact parse_write_empty format
  have htexts : ∀ text ∈ m.toList.map (writeBlock format), WholeBlock format (Text.lines text) := by
    intro text htext
    obtain ⟨field, hfield, rfl⟩ := List.mem_map.1 htext
    exact wholeBlock_writeBlock h (hkeys field hfield) (hvalues field hfield)
  have hblocks : blockTexts format (write format m) = m.toList.map (writeBlock format) := by
    have hsplit := splitBlocks_joinBlocks h (by simpa using hne) htexts
    rw [blockTexts, Text.normalizeLineBreaks_eq_self (return_not_mem_write h hkeys hvalues)]
    change (splitBlocks format (Text.lines (joinBlocks format _))).map _ = _
    rw [hsplit, List.map_map]
    exact (List.map_congr_left fun text _ => Text.join_lines text).trans (List.map_id' _)
  rw [parse, isBlank_write h hne htexts, if_neg Bool.false_ne_true, hblocks,
    readBlocks_map_writeBlock h hpair 1 hkeys hvalues]
  exact congrArg Except.ok m.ofList_toList

end

/-- With the separators of a valid configuration, fields with plain values are read from the text that they
are written as, in their order. -/
theorem parse_write {config : Config} (hvalid : config.validate = .ok ())
    (hblock : ∀ c ∈ config.content.blockSeparator, Unicode.isBlank c = false)
    (hpair : ∀ c ∈ config.content.pairSeparator, Unicode.isBlank c = false ∧ isKeyChar c = false)
    {m : FieldMap} (hkeys : ∀ field ∈ m.toList, isKey field.1 = true)
    (hvalues : ∀ field ∈ m.toList, Plain config.content field.2) :
    parse config.content (write config.content m) = .ok m := by
  obtain ⟨b, h⟩ := Separated.exists_of_validate hvalid hblock fun c hc => (hpair c hc).1
  exact parse_write_of_separated h (fun c hc => (hpair c hc).2) hkeys hvalues

/-- A value with a line of dashes before prose, a key line behind a blank one, and a line of dashes at its
end, in front of the next block. -/
theorem parse_write_dashes :
    let config : Config := {}
    let m := FieldMap.ofList
      [("title".toList, ": a".toList),
        ("text".toList, "Intro\n---\nprose\n\nurl: x\n--".toList), ("url".toList, [])]
    config.validate = .ok () ∧
      (∀ c ∈ config.content.blockSeparator, Unicode.isBlank c = false) ∧
      (∀ c ∈ config.content.pairSeparator, Unicode.isBlank c = false ∧ isKeyChar c = false) ∧
      (∀ field ∈ m.toList, isKey field.1 = true) ∧
      (∀ field ∈ m.toList, Plain config.content field.2) ∧
      parse config.content (write config.content m) = .ok m := by
  intro config m
  have hvalid : config.validate = .ok () := rfl
  have hblock : ∀ c ∈ config.content.blockSeparator, Unicode.isBlank c = false := by
    intro c hc
    obtain rfl : c = '-' := List.mem_singleton.1 hc
    decide
  have hpair : ∀ c ∈ config.content.pairSeparator, Unicode.isBlank c = false ∧ isKeyChar c = false := by
    intro c hc
    obtain rfl : c = ':' := List.mem_singleton.1 hc
    decide
  have hkeys : ∀ field ∈ m.toList, isKey field.1 = true := by decide +kernel
  have hvalues : ∀ field ∈ m.toList, Plain config.content field.2 := by decide +kernel
  exact ⟨hvalid, hblock, hpair, hkeys, hvalues, parse_write hvalid hblock hpair hkeys hvalues⟩

end Folio.Content
