import Folio.Proofs.BlockSplitting

/-!
# What content is read as

Each block but the first starts with a key and the pair separator, since it was split off in front of such a
line. So only the first block can be malformed, and a content file that is read gives every key of a block
the value of the last block with that key.
-/

namespace Folio.Content

/-- The key and the value of a block, which lie before and after its first pair separator. -/
def HasField (format : Format) (text : Text) (field : Text × Text) : Prop :=
  ∃ before after, text = before ++ format.pairSeparator ++ after ∧
    Text.IsFirst format.pairSeparator before ∧ field = (Text.trim before, Text.trim after)

structure Collected (fields : List (Text × Text)) (m : FieldMap) : Prop where
  keys_eq : m.keys = (fields.map Prod.fst).eraseDups
  nodup : m.keys.Nodup
  get?_eq : ∀ key, m.get? key = fields.reverse.lookup key
  clean : ∀ field ∈ m.toList, Text.trim field.2 = field.2 ∧ '\r' ∉ field.2

structure ReadAs (format : Format) (text : Text) (texts : List Text)
    (result : Except ParseError FieldMap) : Prop where
  error_iff : ∀ error, result = .error error ↔
    (¬ format.pairSeparator <:+: text ∧ error = .noPair 1 (snippet text)) ∨
      ∃ key value, HasField format text (key, value) ∧ isKey key = false ∧ error = .invalidKey 1 key
  exists_collected : (∃ key value, HasField format text (key, value) ∧ isKey key = true) →
    ∃ fields m, List.Forall₂ (HasField format) (text :: texts) fields ∧ result = .ok m ∧ Collected fields m

variable {format : Format} {t text : Text} {texts : List Text} {field : Text × Text}

/-! ## One block -/

theorem hasField_iff : HasField format text field ↔
    ∃ before after, Text.cut? format.pairSeparator text = some (before, after) ∧
      field = (Text.trim before, Text.trim after) := by
  simp only [HasField, Text.cut?_eq_some_iff, and_assoc]

theorem HasField.unique {field' : Text × Text} (h : HasField format text field)
    (h' : HasField format text field') : field = field' := by
  obtain ⟨before, after, hcut, rfl⟩ := hasField_iff.1 h
  obtain ⟨before', after', hcut', rfl⟩ := hasField_iff.1 h'
  cases hcut.symm.trans hcut'
  rfl

theorem HasField.holds_separator (h : HasField format text field) : format.pairSeparator <:+: text := by
  obtain ⟨before, after, rfl, -, -⟩ := h
  exact ⟨before, after, rfl⟩

theorem exists_hasField (h : format.pairSeparator <:+: text) : ∃ field, HasField format text field := by
  cases hcut : Text.cut? format.pairSeparator text with
  | none => exact absurd h (Text.cut?_eq_none_iff.1 hcut)
  | some parts => exact ⟨_, hasField_iff.2 ⟨parts.1, parts.2, hcut, rfl⟩⟩

theorem HasField.readBlock (h : HasField format text field) (number : Nat) :
    readBlock format number text =
      if isKey field.1 then .ok field else .error (.invalidKey number field.1) := by
  obtain ⟨before, after, hcut, rfl⟩ := hasField_iff.1 h
  rw [Content.readBlock, hcut]

theorem readBlock_eq_error_iff {number : Nat} {error : ParseError} :
    readBlock format number text = .error error ↔
      (¬ format.pairSeparator <:+: text ∧ error = .noPair number (snippet text)) ∨
        ∃ key value, HasField format text (key, value) ∧ isKey key = false ∧
          error = .invalidKey number key := by
  by_cases hpair : format.pairSeparator <:+: text
  · obtain ⟨⟨key, value⟩, hfield⟩ := exists_hasField hpair
    rw [hfield.readBlock]
    constructor
    · intro h
      cases hkey : isKey key <;> simp only [hkey, if_true, Bool.false_eq_true, if_false, reduceCtorEq] at h
      cases h
      exact .inr ⟨key, value, hfield, hkey, rfl⟩
    · rintro (⟨hnone, -⟩ | ⟨key', value', hfield', hkey, rfl⟩)
      · exact absurd hpair hnone
      · cases hfield.unique hfield'
        rw [hkey, if_neg Bool.false_ne_true]
  · rw [readBlock, Text.cut?_eq_none_iff.2 hpair]
    constructor
    · intro h
      cases h
      exact .inl ⟨hpair, rfl⟩
    · rintro (⟨-, rfl⟩ | ⟨key, value, hfield, -⟩)
      · rfl
      · exact absurd hfield.holds_separator hpair

theorem StartsWithKeyLine.exists_hasField {b : Char} (h : Separated format b)
    (hpair : ∀ c ∈ format.pairSeparator, isKeyChar c = false) {block : List Text}
    (hblock : StartsWithKeyLine format block) :
    ∃ field, HasField format (Text.join ['\n'] block) field ∧ isKey field.1 = true := by
  obtain ⟨line, rest, rfl, key, after, hkey, rfl⟩ := hblock
  have htext : ∃ value, Text.join ['\n'] ((key ++ format.pairSeparator ++ after) :: rest) =
      key ++ format.pairSeparator ++ value := by
    by_cases hrest : rest = []
    · exact ⟨after, by rw [hrest]; rfl⟩
    · exact ⟨_, by rw [Text.join_cons_of_ne_nil _ _ hrest, List.append_assoc, List.append_assoc]⟩
  obtain ⟨value, htext⟩ := htext
  refine ⟨(key, Text.trim value), ?_, hkey⟩
  exact ⟨key, value, htext, isFirst_of_isKey h hpair hkey, by rw [trim_of_isKey hkey]⟩

/-! ## All blocks -/

theorem exists_readBlocks (number : Nat)
    (h : ∀ text ∈ texts, ∃ field, HasField format text field ∧ isKey field.1 = true) :
    ∃ fields, List.Forall₂ (HasField format) texts fields ∧ readBlocks format number texts = .ok fields := by
  induction texts generalizing number with
  | nil => exact ⟨[], .nil, rfl⟩
  | cons text texts ih =>
    obtain ⟨⟨field, hfield, hkey⟩, htexts⟩ := List.forall_mem_cons.1 h
    obtain ⟨fields, hfields, hread⟩ := ih (number + 1) htexts
    refine ⟨field :: fields, .cons hfield hfields, ?_⟩
    rw [readBlocks, hfield.readBlock, if_pos hkey, hread]
    rfl

/-- When every later block has a key and a value, only the first one can be malformed. -/
theorem readBlocks_eq_error_iff {number : Nat} {error : ParseError}
    (h : ∀ text ∈ texts, ∃ field, HasField format text field ∧ isKey field.1 = true) :
    readBlocks format number (text :: texts) = .error error ↔
      readBlock format number text = .error error := by
  obtain ⟨fields, -, hread⟩ := exists_readBlocks (number + 1) h
  rw [readBlocks, hread]
  cases readBlock format number text <;>
    simp only [bind, Except.bind, pure, Except.pure, Except.error.injEq, reduceCtorEq]

theorem parse_of_not_isBlank (ht : Text.isBlank t = false) :
    parse format t = (readBlocks format 1 (blockTexts format t)).map .ofList := by
  rw [parse, ht, if_neg Bool.false_ne_true]
  cases readBlocks format 1 (blockTexts format t) <;> rfl

theorem collected_of_parse {fields : List (Text × Text)} (h : parse format t = .ok (.ofList fields)) :
    Collected fields (.ofList fields) where
  keys_eq := FieldMap.keys_ofList fields
  nodup := (FieldMap.ofList fields).nodup_keys
  get?_eq := FieldMap.get?_ofList fields
  clean field hfield := by
    obtain ⟨-, hplain⟩ := plain_of_parse h hfield
    exact ⟨hplain.trim_eq, hplain.no_return⟩

theorem readAs_of_forall_hasField
    (h : ∀ text ∈ texts, ∃ field, HasField format text field ∧ isKey field.1 = true)
    (hblocks : blockTexts format t = text :: texts) (ht : Text.isBlank t = false) :
    ReadAs format text texts (parse format t) := by
  have hparse : parse format t = (readBlocks format 1 (text :: texts)).map .ofList := by
    rw [parse_of_not_isBlank ht, hblocks]
  constructor
  · intro error
    rw [hparse, ← readBlock_eq_error_iff, ← readBlocks_eq_error_iff h]
    cases readBlocks format 1 (text :: texts) <;> simp only [Except.map, Except.error.injEq, reduceCtorEq]
  · rintro ⟨key, value, hfield, hkey⟩
    obtain ⟨fields, hfields, hread⟩ :=
      exists_readBlocks 1 (List.forall_mem_cons.2 ⟨⟨(key, value), hfield, hkey⟩, h⟩)
    have hok : parse format t = .ok (.ofList fields) := by
      rw [hparse, hread]
      rfl
    exact ⟨fields, .ofList fields, hfields, hok, collected_of_parse hok⟩

/-- With the separators of a valid configuration, a content file that is not blank is rejected exactly for its
first block, if that has no pair separator or no key before it; otherwise its fields are those of its
blocks. -/
theorem parse_of_blocks {config : Config} (hvalid : config.validate = .ok ())
    (hblock : ∀ c ∈ config.content.blockSeparator, Unicode.isBlank c = false)
    (hpair : ∀ c ∈ config.content.pairSeparator, Unicode.isBlank c = false ∧ isKeyChar c = false)
    {t : Text} (ht : Text.isBlank t = false) :
    ∃ first later, Splitting config.content (Text.lines (Text.normalizeLineBreaks t)) first later ∧
      ReadAs config.content (Text.join ['\n'] first) (later.map fun part => Text.join ['\n'] part.2)
        (parse config.content t) := by
  obtain ⟨b, h⟩ := Separated.exists_of_validate hvalid hblock fun c hc => (hpair c hc).1
  obtain ⟨first, later, hsplit, hsplitting⟩ :=
    exists_splitting_splitBlocks h (Text.splitAtChar_ne_nil '\n' (Text.normalizeLineBreaks t))
  refine ⟨first, later, hsplitting, readAs_of_forall_hasField ?_ ?_ ht⟩
  · intro text htext
    obtain ⟨part, hpart, rfl⟩ := List.mem_map.1 htext
    exact (hsplitting.keys part hpart).exists_hasField h fun c hc => (hpair c hc).2
  · change (splitBlocks _ (Text.splitAtChar '\n' _)).map _ = _
    rw [hsplit, List.map_cons, List.map_map]
    rfl

theorem parse_of_blocks_repeated :
    let config : Config := {}
    let t := " title : a\r\nb\n--\n\nurl: x: y\r--\nno key\n---\ntitle:last\n".toList
    config.validate = .ok () ∧
      (∀ c ∈ config.content.blockSeparator, Unicode.isBlank c = false) ∧
      (∀ c ∈ config.content.pairSeparator, Unicode.isBlank c = false ∧ isKeyChar c = false) ∧
      Text.isBlank t = false ∧
      parse config.content t = .ok (.ofList
        [("title".toList, "last".toList), ("url".toList, "x: y\n--\nno key".toList)]) ∧
      ∃ first later, Splitting config.content (Text.lines (Text.normalizeLineBreaks t)) first later ∧
        ReadAs config.content (Text.join ['\n'] first) (later.map fun part => Text.join ['\n'] part.2)
          (parse config.content t) := by
  intro config t
  have hvalid : config.validate = .ok () := rfl
  have hblock : ∀ c ∈ config.content.blockSeparator, Unicode.isBlank c = false := by
    intro c hc
    obtain rfl : c = '-' := List.mem_singleton.1 hc
    decide
  have hpair : ∀ c ∈ config.content.pairSeparator, Unicode.isBlank c = false ∧ isKeyChar c = false := by
    intro c hc
    obtain rfl : c = ':' := List.mem_singleton.1 hc
    decide
  have ht : Text.isBlank t = false := by decide +kernel
  exact ⟨hvalid, hblock, hpair, ht, by decide +kernel, parse_of_blocks hvalid hblock hpair ht⟩

end Folio.Content
