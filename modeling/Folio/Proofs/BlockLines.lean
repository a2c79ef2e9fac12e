import Folio.Config.Validation
import Folio.Content.Parse
import Folio.Proofs.TextLines

/-!
# Lines that end and start blocks

A block ends at a separator line if the next line that is not blank starts with a key and the pair
separator. What such lines look like is said without the readers that look for them. With the separators
of a valid configuration no line is of both kinds.
-/

namespace Folio.Config

theorem require_bind_eq_ok_iff {condition : Bool} {field : String}
    {flaw : Flaw} {next : Unit → Except Invalid Unit} :
    require condition field flaw >>= next = .ok () ↔ condition = true ∧ next () = .ok () := by
  cases condition with
  | true => simp [require, bind, Except.bind]
  | false => simp [require, bind, Except.bind]

end Folio.Config

namespace Folio.Content

open Text (IsBlanks)

def IsSeparatorLine (block line : Text) : Prop :=
  ∃ n blanks, line = (List.replicate (n + 1) block).flatten ++ blanks ∧ IsBlanks blanks

def IsKeyLine (pair line : Text) : Prop :=
  ∃ key rest, isKey key = true ∧ line = key ++ pair ++ rest

/-- The first line that is not blank starts with a key and the pair separator. -/
def KeyLineFollows (format : Format) (lines : List Text) : Prop :=
  ∃ blank line rest, lines = blank ++ line :: rest ∧ (∀ l ∈ blank, IsBlanks l) ∧
    ¬ IsBlanks line ∧ IsKeyLine format.pairSeparator line

def EndsBlock (format : Format) (line : Text) (following : List Text) : Prop :=
  IsSeparatorLine format.blockSeparator line ∧ KeyLineFollows format following

/-! ## The readers of lines -/

theorem isKey_iff {t : Text} : isKey t = true ↔ t ≠ [] ∧ ∀ c ∈ t, isKeyChar c = true := by
  simp [isKey]

theorem isSeparatorLine_nil (line : Text) : isSeparatorLine [] line = Text.isBlank line := by
  rw [isSeparatorLine]
  simp [Text.dropPrefix?]

theorem isSeparatorLine_append {block : Text} (hne : block ≠ []) (rest : Text) :
    isSeparatorLine block (block ++ rest) = (Text.isBlank rest || isSeparatorLine block rest) := by
  rw [isSeparatorLine]
  split
  · rename_i hnone
    rw [Text.dropPrefix?_append] at hnone
    cases hnone
  · rename_i rest' hrest
    obtain rfl : rest = rest' := by simpa [Text.dropPrefix?_append] using hrest
    rw [dif_neg hne]

theorem exists_append_of_isSeparatorLine {block line : Text} (h : isSeparatorLine block line = true) :
    ∃ rest, line = block ++ rest := by
  rw [isSeparatorLine] at h
  split at h
  · cases h
  · rename_i rest hrest
    exact ⟨rest, Text.dropPrefix?_eq_some_iff.1 hrest⟩

theorem isSeparatorLine_iff {block line : Text} :
    isSeparatorLine block line = true ↔ IsSeparatorLine block line := by
  by_cases hne : block = []
  · subst hne
    rw [isSeparatorLine_nil, Text.isBlank_iff]
    constructor
    · intro hblanks
      exact ⟨0, line, by simp, hblanks⟩
    · rintro ⟨n, blanks, rfl, hblanks⟩
      simpa using hblanks
  constructor
  · intro h
    -- every copy of the block separator makes the line shorter
    induction hlength : line.length using Nat.strongRecOn generalizing line with
    | ind length ih =>
      obtain ⟨rest, rfl⟩ := exists_append_of_isSeparatorLine h
      rw [isSeparatorLine_append hne, Bool.or_eq_true] at h
      rcases h with hblank | hmore
      · exact ⟨0, rest, by simp, Text.isBlank_iff.1 hblank⟩
      · have hshorter : rest.length < length := by
          have := List.length_pos_iff.2 hne
          rw [List.length_append] at hlength
          omega
        obtain ⟨n, blanks, heq, hblanks⟩ := ih rest.length hshorter hmore rfl
        refine ⟨n + 1, blanks, ?_, hblanks⟩
        rw [heq, List.replicate_succ (n := n + 1), List.flatten_cons, List.append_assoc]
  · rintro ⟨n, blanks, rfl, hblanks⟩
    rw [List.replicate_succ, List.flatten_cons, List.append_assoc, isSeparatorLine_append hne]
    induction n with
    | zero =>
      rw [List.replicate_zero, List.flatten_nil, List.nil_append, Text.isBlank_iff.2 hblanks, Bool.true_or]
    | succ n ih =>
      rw [List.replicate_succ, List.flatten_cons, List.append_assoc, isSeparatorLine_append hne, ih,
        Bool.or_true]

theorem pairFollowsKey_iff {pair t : Text} : pairFollowsKey pair t = true ↔
    ∃ key rest, (∀ c ∈ key, isKeyChar c = true) ∧ t = key ++ pair ++ rest := by
  induction t with
  | nil =>
    rw [pairFollowsKey, decide_eq_true_iff]
    constructor
    · rintro rfl
      exact ⟨[], [], by simp, rfl⟩
    · rintro ⟨key, rest, -, heq⟩
      exact (List.append_eq_nil_iff.1 (List.append_eq_nil_iff.1 heq.symm).1).2
  | cons c t ih =>
    rw [pairFollowsKey, Bool.or_eq_true, Bool.and_eq_true, Text.startsWith_iff, ih]
    constructor
    · rintro (⟨rest, heq⟩ | ⟨hc, key, rest, hkey, rfl⟩)
      · exact ⟨[], rest, by simp, heq⟩
      · exact ⟨c :: key, rest, List.forall_mem_cons.2 ⟨hc, hkey⟩, by simp⟩
    · rintro ⟨key, rest, hkey, heq⟩
      cases key with
      | nil => exact .inl ⟨rest, heq⟩
      | cons d key =>
        obtain ⟨rfl, rfl⟩ := List.cons.inj heq
        obtain ⟨hc, hkey⟩ := List.forall_mem_cons.1 hkey
        exact .inr ⟨hc, key, rest, hkey, rfl⟩

theorem isKeyLine_iff {pair line : Text} : isKeyLine pair line = true ↔ IsKeyLine pair line := by
  cases line with
  | nil =>
    refine iff_of_false (by simp [isKeyLine]) ?_
    rintro ⟨key, rest, hkey, heq⟩
    have hnil := (List.append_eq_nil_iff.1 (List.append_eq_nil_iff.1 heq.symm).1).1
    exact (isKey_iff.1 hkey).1 hnil
  | cons c t =>
    rw [isKeyLine, Bool.and_eq_true, pairFollowsKey_iff]
    constructor
    · rintro ⟨hc, key, rest, hkey, rfl⟩
      exact ⟨c :: key, rest, isKey_iff.2 ⟨by simp, List.forall_mem_cons.2 ⟨hc, hkey⟩⟩, by simp⟩
    · rintro ⟨key, rest, hkey, heq⟩
      obtain ⟨hne, hkey⟩ := isKey_iff.1 hkey
      obtain ⟨d, key, rfl⟩ := List.exists_cons_of_ne_nil hne
      obtain ⟨rfl, rfl⟩ := List.cons.inj heq
      obtain ⟨hc, hkey⟩ := List.forall_mem_cons.1 hkey
      exact ⟨hc, key, rest, hkey, rfl⟩

theorem keyLineFollows_cons (format : Format) (line : Text) (rest : List Text) :
    keyLineFollows format (line :: rest) =
      if Text.isBlank line then keyLineFollows format rest else isKeyLine format.pairSeparator line := by
  rw [keyLineFollows, List.dropWhile_cons]
  cases Text.isBlank line with
  | true => rfl
  | false => rfl

theorem keyLineFollows_iff {format : Format} {lines : List Text} :
    keyLineFollows format lines = true ↔ KeyLineFollows format lines := by
  induction lines with
  | nil =>
    refine iff_of_false (by simp [keyLineFollows]) ?_
    rintro ⟨blank, line, rest, heq, -⟩
    simp at heq
  | cons first lines ih =>
    rw [keyLineFollows_cons]
    by_cases hfirst : IsBlanks first
    · rw [if_pos (Text.isBlank_iff.2 hfirst), ih]
      constructor
      · rintro ⟨blank, line, rest, rfl, hblank, hline⟩
        exact ⟨first :: blank, line, rest, rfl, List.forall_mem_cons.2 ⟨hfirst, hblank⟩, hline⟩
      -- the line that is not blank cannot be the first one
      · rintro ⟨blank, line, rest, heq, hblank, hne, hline⟩
        cases blank with
        | nil =>
          obtain ⟨rfl, -⟩ := List.cons.inj heq
          exact absurd hfirst hne
        | cons l blank =>
          exact ⟨blank, line, rest, (List.cons.inj heq).2, (List.forall_mem_cons.1 hblank).2, hne, hline⟩
    · rw [if_neg (by rwa [Text.isBlank_iff]), isKeyLine_iff]
      constructor
      · intro hline
        exact ⟨[], first, lines, rfl, by simp, hfirst, hline⟩
      · rintro ⟨blank, line, rest, heq, hblank, -, hline⟩
        cases blank with
        | nil =>
          obtain ⟨rfl, -⟩ := List.cons.inj heq
          exact hline
        | cons l blank =>
          obtain ⟨rfl, -⟩ := List.cons.inj heq
          exact absurd (hblank first List.mem_cons_self) hfirst

theorem endsBlock_iff {format : Format} {line : Text} {following : List Text} :
    (isSeparatorLine format.blockSeparator line && keyLineFollows format following) = true ↔
      EndsBlock format line following := by
  rw [Bool.and_eq_true, isSeparatorLine_iff, keyLineFollows_iff, EndsBlock]

instance (format : Format) (line : Text) (following : List Text) :
    Decidable (EndsBlock format line following) := decidable_of_iff _ endsBlock_iff

/-- Lines after which no key line comes next do not change what follows the lines before them. -/
theorem keyLineFollows_append {format : Format} (lines : List Text) {following : List Text}
    (h : keyLineFollows format following = false) :
    keyLineFollows format (lines ++ following) = keyLineFollows format lines := by
  induction lines with
  | nil => rw [List.nil_append, h]; rfl
  | cons line lines ih => rw [List.cons_append, keyLineFollows_cons, keyLineFollows_cons, ih]

def NoneEnds (format : Format) (lines : List Text) : Prop :=
  ∀ line following, line :: following <:+ lines → ¬ EndsBlock format line following

theorem noneEnds_nil (format : Format) : NoneEnds format [] := by
  intro line following h
  exact absurd (List.suffix_nil.1 h) (List.cons_ne_nil line following)

theorem noneEnds_cons_iff {format : Format} {line : Text} {lines : List Text} :
    NoneEnds format (line :: lines) ↔ ¬ EndsBlock format line lines ∧ NoneEnds format lines := by
  constructor
  · intro h
    exact ⟨h line lines List.suffix_rfl, fun line' following hsuffix =>
      h line' following (hsuffix.trans (List.suffix_cons line lines))⟩
  · rintro ⟨hline, hlines⟩ line' following hsuffix
    rcases List.suffix_cons_iff.1 hsuffix with heq | hsuffix
    · obtain ⟨rfl, rfl⟩ := List.cons.inj heq
      exact hline
    · exact hlines line' following hsuffix

instance decidableNoneEnds (format : Format) : (lines : List Text) → Decidable (NoneEnds format lines)
  | [] => isTrue (noneEnds_nil format)
  | _ :: lines =>
    have := decidableNoneEnds format lines
    decidable_of_iff _ noneEnds_cons_iff.symm

theorem isBlank_of_isKeyChar {c : Char} (h : isKeyChar c = true) : Unicode.isBlank c = false := by
  cases hblank : Unicode.isBlank c with
  | false => rfl
  | true =>
    simp only [isKeyChar, Unicode.isWord_of_isBlank hblank, Bool.false_or, Bool.or_eq_true,
      decide_eq_true_eq] at h
    rcases h with rfl | rfl
    · exact absurd hblank (by decide)
    · exact absurd hblank (by decide)

theorem IsKeyLine.isBlank {pair line : Text} (h : IsKeyLine pair line) : Text.isBlank line = false := by
  obtain ⟨key, rest, hkey, rfl⟩ := h
  obtain ⟨hne, hkey⟩ := isKey_iff.1 hkey
  obtain ⟨c, key, rfl⟩ := List.exists_cons_of_ne_nil hne
  exact Text.isBlank_eq_false_of_mem (by simp) (isBlank_of_isKeyChar (hkey c List.mem_cons_self))

/-! ## The separators of a valid configuration -/

/-- A block separator of one character and a pair separator that does not hold it, both without blanks. -/
structure Separated (format : Format) (b : Char) : Prop where
  block_eq : format.blockSeparator = [b]
  not_blank : Unicode.isBlank b = false
  pair_ne_nil : format.pairSeparator ≠ []
  pair_not_blank : ∀ c ∈ format.pairSeparator, Unicode.isBlank c = false
  not_mem_pair : b ∉ format.pairSeparator

theorem Separated.exists_of_validate {config : Config} (h : config.validate = .ok ())
    (hblock : ∀ c ∈ config.content.blockSeparator, Unicode.isBlank c = false)
    (hpair : ∀ c ∈ config.content.pairSeparator, Unicode.isBlank c = false) :
    ∃ b, Separated config.content b := by
  simp only [Config.validate, Config.require_bind_eq_ok_iff] at h
  obtain ⟨-, hne, -, hone, hnot, -⟩ := h
  obtain ⟨b, hb⟩ := List.length_eq_one_iff.1 (of_decide_eq_true hone)
  refine ⟨b, hb, hblock b (hb ▸ List.mem_singleton_self b), of_decide_eq_true hne, hpair, ?_⟩
  rw [hb, Bool.not_eq_true'] at hnot
  exact Text.not_mem_of_contains hnot

namespace Separated

variable {format : Format} {b : Char} (h : Separated format b)
include h

/-- A line with the pair separator in it is no separator line. -/
theorem not_isSeparatorLine {line before after : Text}
    (hline : line = before ++ format.pairSeparator ++ after) :
    isSeparatorLine format.blockSeparator line = false := by
  rw [Bool.eq_false_iff, ne_eq, isSeparatorLine_iff, h.block_eq]
  rintro ⟨n, blanks, heq, hblanks⟩
  obtain ⟨c, rest, hpair⟩ := List.exists_cons_of_ne_nil h.pair_ne_nil
  have hc : c ∈ format.pairSeparator := hpair ▸ List.mem_cons_self
  have hmem : c ∈ line := by
    rw [hline]
    simp [hc]
  rw [heq, List.mem_append] at hmem
  rcases hmem with hmem | hmem
  · obtain rfl : c = b := by simpa using hmem
    exact h.not_mem_pair hc
  · have hblank := hblanks c hmem
    rw [h.pair_not_blank c hc] at hblank
    cases hblank

theorem not_isSeparatorLine_of_isKeyLine {line : Text} (hline : IsKeyLine format.pairSeparator line) :
    isSeparatorLine format.blockSeparator line = false := by
  obtain ⟨key, rest, -, hline⟩ := hline
  exact h.not_isSeparatorLine hline

theorem not_endsBlock {line : Text} (hline : IsKeyLine format.pairSeparator line)
    (following : List Text) : ¬ EndsBlock format line following := by
  rw [EndsBlock, ← isSeparatorLine_iff, h.not_isSeparatorLine_of_isKeyLine hline]
  rintro ⟨hsep, -⟩
  cases hsep

/-- No key line follows a line of one block separator. -/
theorem keyLineFollows_blockSeparator (rest : List Text) :
    keyLineFollows format (format.blockSeparator :: rest) = false := by
  have hblank : Text.isBlank format.blockSeparator = false :=
    Text.isBlank_eq_false_of_mem (by rw [h.block_eq]; exact List.mem_cons_self) h.not_blank
  rw [keyLineFollows_cons, hblank, if_neg Bool.false_ne_true, Bool.eq_false_iff, ne_eq, isKeyLine_iff]
  intro hline
  have hsep := h.not_isSeparatorLine_of_isKeyLine hline
  rw [Bool.eq_false_iff, ne_eq, isSeparatorLine_iff] at hsep
  exact hsep ⟨0, [], by simp, by simp [IsBlanks]⟩

end Separated

end Folio.Content
