import Folio.Proofs.IntactValues
import Folio.Proofs.JsonGrammar
import Folio.Proofs.TextLines

/-!
# Objects in the tolerant notation

Names without quotes and single quotes are turned into strict JSON in one pass over the text, strings
included. The pass puts quotes around every bare name and, where no string looks like one, around nothing
else. So what is written tolerantly is read as if it had been written strictly.
-/

namespace Folio.Options

open Json (Within Written WrittenItems AfterItem WrittenMembers AfterMember IsSpace IsVerbatim isSpace_nil
  strict)
open Text (IsBlanks)

def IsQuoted (s t : Text) : Prop := ∃ q, (q = '"' ∨ q = '\'') ∧ t = q :: (s ++ [q])

def tolerant : Json.Style where
  name name t := (IsWord name ∧ t = name) ∨ IsQuoted name t
  string := IsQuoted

/-- A text that needs no escapes and in which nothing is taken for a name. -/
structure Tame (s : Text) : Prop where
  chars : ∀ c ∈ s, c ≠ '\'' ∧ c ≠ '"' ∧ c ≠ '\\' ∧ 0x20 ≤ c.toNat
  name : ¬ HoldsName s

instance decidableHoldsName : (s : Text) → Decidable (HoldsName s)
  | [] => isFalse fun ⟨_, _, _, _, _, _, _, _, _, _, heq⟩ =>
    List.cons_ne_nil _ _ (List.append_eq_nil_iff.1 heq.symm).2
  | _ :: s =>
    have := decidableHoldsName s
    decidable_of_iff _ holdsName_cons_iff.symm

instance (s : Text) : Decidable (Tame s) :=
  have : Decidable (∀ c ∈ s, c ≠ '\'' ∧ c ≠ '"' ∧ c ≠ '\\' ∧ 0x20 ≤ c.toNat) := List.decidableBAll _ s
  decidable_of_iff (_ ∧ _) ⟨fun h => ⟨h.1, h.2⟩, fun h => ⟨h.chars, h.name⟩⟩

theorem Tame.isVerbatim {s : Text} (h : Tame s) : IsVerbatim s := fun c hc => (h.chars c hc).2

/-- What is put in the place of a text, whatever follows it. -/
def Becomes (t t' : Text) : Prop := ∀ u, quoteBareNames (requote t ++ u) = t' ++ quoteBareNames u

def BecomesInside (t t' : Text) : Prop :=
  ∀ c, c = '{' ∨ c = ',' → ∀ u, quoteBareNames (c :: (requote t ++ u)) = c :: (t' ++ quoteBareNames u)

variable {t t' u u' s : Text} {c : Char} {value : Json}

/-! ## Pieces of text -/

theorem Becomes.append (ht : Becomes t t') (hu : Becomes u u') : Becomes (t ++ u) (t' ++ u') := by
  intro v
  rw [requote_append, List.append_assoc, ht, hu, List.append_assoc]

def isSteady (c : Char) : Bool := c ≠ '\'' && c ≠ '{' && c ≠ ','

theorem becomes_char (h : isSteady c = true) : Becomes [c] [c] := by
  obtain ⟨⟨hquote, hbrace⟩, hcomma⟩ : (c ≠ '\'' ∧ c ≠ '{') ∧ c ≠ ',' := by simpa [isSteady] using h
  intro u
  rw [requote_eq_self (by simpa using hquote)]
  exact quoteBareNames_skip fun hc => absurd hc (not_or.2 ⟨hbrace, hcomma⟩)

theorem becomes_self (h : ∀ c ∈ t, isSteady c = true) : Becomes t t := by
  induction t with
  | nil => exact fun u => rfl
  | cons c t ih =>
    obtain ⟨hc, ht⟩ := List.forall_mem_cons.1 h
    exact (becomes_char hc).append (ih ht)

theorem Becomes.cons (hc : isSteady c = true) (h : Becomes t t') : Becomes (c :: t) (c :: t') :=
  (becomes_char hc).append h

theorem quoteBareNames_of_not_holdsName (h : ¬ HoldsName s) : quoteBareNames s = s := by
  induction s with
  | nil => rw [quoteBareNames]
  | cons c s ih =>
    rw [holdsName_cons_iff, not_or] at h
    rw [quoteBareNames_skip fun hc => not_not.1 fun hname => h.1 ⟨hc, hname⟩, ih h.2]

theorem becomes_quoted (h : Tame s) (ht : IsQuoted s t) : Becomes t ('"' :: (s ++ ['"'])) := by
  obtain ⟨q, hq, rfl⟩ := ht
  have hsingle : ∀ c ∈ s, c ≠ '\'' := fun c hc => (h.chars c hc).1
  have hrequote : requote (q :: (s ++ [q])) = '"' :: (s ++ ['"']) := by
    have hself := requote_eq_self hsingle
    rcases hq with rfl | rfl <;>
    · change '"' :: requote (s ++ [_]) = _
      rw [requote_append, hself]
      rfl
  intro u
  rw [hrequote]
  change quoteBareNames ([] ++ '"' :: (s ++ ['"'] ++ u)) = _
  rw [List.append_assoc, List.singleton_append, quoteBareNames_append_quote, quoteBareNames_append_quote,
    quoteBareNames_of_not_holdsName h.name, quoteBareNames]
  simp

/-! ## Blanks -/

theorem classes_of_isBlank {c : Char} (h : Json.isBlank c = true) :
    Unicode.isBlank c = true ∧ isSteady c = true := by
  simp only [Json.isBlank, Bool.or_eq_true, decide_eq_true_eq] at h
  rcases h with ((rfl | rfl) | rfl) | rfl <;> decide

theorem becomes_space (h : IsSpace t) : Becomes t t :=
  becomes_self fun c hc => (classes_of_isBlank (h c hc)).2

theorem requote_space (h : IsSpace t) : requote t = t ∧ IsBlanks t := by
  constructor
  · apply requote_eq_self
    rintro c hc rfl
    exact absurd (h _ hc) (by decide)
  · exact fun c hc => (classes_of_isBlank (h c hc)).1

/-! ## Where no name stands -/

theorem bareName?_mark {blanks : Text} (hblanks : IsBlanks blanks) (hword : Unicode.isWord c = false)
    (hblank : Unicode.isBlank c = false) (t : Text) : bareName? (blanks ++ c :: t) = none := by
  have htake : (c :: t).takeWhile Unicode.isWord = [] := List.takeWhile_cons_of_neg (by simp [hword])
  have hstart : Text.trimStart (blanks ++ c :: t) = c :: t :=
    Text.trimStart_blanks_append hblanks (Text.headAvoids_cons.2 hblank)
  simp only [bareName?, hstart, htake]
  split
  · rfl
  · rw [if_neg (by simp)]

theorem bareName?_word {blanks word after : Text} (hblanks : IsBlanks blanks) (hword : IsWord word)
    (hafter : IsBlanks after) (hw : Unicode.isWord c = false) (hb : Unicode.isBlank c = false) (hc : c ≠ ':')
    (t : Text) : bareName? (blanks ++ (word ++ (after ++ c :: t))) = none := by
  have hstop : Text.HeadAvoids Unicode.isWord (after ++ c :: t) :=
    Text.headAvoids_run (fun d hd => Unicode.isWord_of_isBlank (hafter d hd)) (Text.headAvoids_cons.2 hw)
  have htrim : Text.trimStart (after ++ c :: t) = c :: t :=
    Text.trimStart_blanks_append hafter (Text.headAvoids_cons.2 hb)
  simp only [bareName?, Text.trimStart_blanks_append hblanks (hword.headAvoids_isBlank _),
    Text.takeWhile_run hword.2 hstop, Text.dropWhile_run hword.2 hstop, htrim]
  rw [if_neg (by simp [hc])]

theorem isWord_of_isDigit (h : c.isDigit = true) : Unicode.isWord c = true := by
  have hle : c.toNat ≤ 57 := by
    rw [Char.isDigit, Bool.and_eq_true, decide_eq_true_iff, decide_eq_true_iff] at h
    exact UInt32.le_iff_toNat_le.1 h.2
  rw [Unicode.isWord, if_pos (by omega), Unicode.isAsciiAlphanumeric, h, Bool.or_true, Bool.true_or]

theorem requote_word (h : ∀ c ∈ t, Unicode.isWord c = true) : requote t = t := by
  apply requote_eq_self
  rintro c hc rfl
  exact absurd (h _ hc) (by decide)

/-- A value is a word, or it starts with a character that stands neither in a word nor between words. -/
theorem isWord_or_mark (h : Written tolerant value t) : IsWord t ∨
    ∃ c u, requote t = c :: u ∧ Unicode.isWord c = false ∧ Unicode.isBlank c = false := by
  cases h with
  | word h =>
    left
    cases h <;> decide
  | int n =>
    rw [Json.intText]
    split
    · exact .inr ⟨'-', _, rfl, by decide, by decide⟩
    · obtain ⟨c, digits, hdigits, -⟩ := Json.ofNat_eq_cons n.natAbs
      exact .inl ⟨by simp [hdigits], fun c hc => isWord_of_isDigit (Json.isDigit_of_mem_ofNat hc)⟩
  | string h =>
    obtain ⟨q, hq, rfl⟩ := h
    right
    rcases hq with rfl | rfl <;> exact ⟨'"', _, rfl, by decide, by decide⟩
  | noItems h => exact .inr ⟨_, _, rfl, by decide, by decide⟩
  | array h => exact .inr ⟨_, _, rfl, by decide, by decide⟩
  | noMembers h => exact .inr ⟨_, _, rfl, by decide, by decide⟩
  | object h hperm => exact .inr ⟨_, _, rfl, by decide, by decide⟩

theorem bareName?_written {before after : Text} (hbefore : IsSpace before) (h : Written tolerant value t)
    (hafter : IsSpace after) (hw : Unicode.isWord c = false) (hb : Unicode.isBlank c = false) (hc : c ≠ ':')
    (u : Text) : bareName? (requote (before ++ (t ++ after)) ++ c :: u) = none := by
  obtain ⟨hbefore, hblanks⟩ := requote_space hbefore
  obtain ⟨hafter, hblanks'⟩ := requote_space hafter
  rw [requote_append, requote_append, hbefore, hafter, List.append_assoc, List.append_assoc]
  rcases isWord_or_mark h with hword | ⟨d, v, hd, hword, hblank⟩
  · rw [requote_word hword.2]
    exact bareName?_word hblanks hword hblanks' hw hb hc u
  · rw [hd]
    exact bareName?_mark hblanks hword hblank _

theorem Becomes.inside (h : Becomes t t') (hname : ∀ u, bareName? (requote t ++ u) = none) :
    BecomesInside t t' := by
  intro c hc u
  rw [quoteBareNames_skip fun _ => hname u, h]

/-! ## Members -/

theorem becomesInside_word {before name between : Text} (hbefore : IsSpace before) (hname : IsWord name)
    (hbetween : IsSpace between) (h : Becomes t t') :
    BecomesInside (before ++ (name ++ (between ++ ':' :: t))) ('"' :: (name ++ ['"']) ++ ':' :: t') := by
  intro c hc u
  obtain ⟨hbefore, hblanks⟩ := requote_space hbefore
  obtain ⟨hbetween, hblanks'⟩ := requote_space hbetween
  have htext : requote (before ++ (name ++ (between ++ ':' :: t))) ++ u =
      before ++ (name ++ (between ++ ':' :: (requote t ++ u))) := by
    rw [requote_append, requote_append, requote_append, hbefore, hbetween, requote_word hname.2]
    simp only [List.append_assoc]
    rfl
  have hfound : bareName? (before ++ (name ++ (between ++ ':' :: (requote t ++ u)))) =
      some (name, requote t ++ u) :=
    bareName?_eq_some_iff.2 ⟨before, between, hblanks, hname, hblanks', rfl⟩
  rw [htext, quoteBareNames_name hc hfound, h]
  simp only [List.cons_append, List.append_assoc, List.nil_append]

theorem IsQuoted.bareName? {n : Text} (h : IsQuoted s n) {before : Text} (hbefore : IsSpace before) (u : Text) :
    bareName? (requote (before ++ (n ++ t)) ++ u) = none := by
  obtain ⟨hbefore, hblanks⟩ := requote_space hbefore
  obtain ⟨q, hq, rfl⟩ := h
  rw [requote_append, hbefore, List.append_assoc]
  rcases hq with rfl | rfl <;> exact bareName?_mark hblanks (by decide) (by decide) _

/-! ## Values -/

theorem isSteady_of_word {word : Text} (h : Json.Word value c word) : ∀ d ∈ c :: word, isSteady d = true := by
  cases h <;> exact List.all_eq_true.1 rfl

theorem isSteady_of_isNumberChar (h : Json.isNumberChar c = true) : isSteady c = true := by
  rw [isSteady, Bool.and_eq_true, Bool.and_eq_true]
  refine ⟨⟨?_, ?_⟩, ?_⟩ <;>
  · rw [decide_eq_true_iff]
    rintro rfl
    exact absurd h (by decide)

theorem becomesInside_space (h : IsSpace t) : BecomesInside (t ++ ['}']) (t ++ ['}']) := by
  apply ((becomes_space h).append (becomes_char (by decide))).inside
  intro u
  obtain ⟨hself, hblanks⟩ := requote_space h
  rw [requote_append, hself, List.append_assoc]
  exact bareName?_mark hblanks (by decide) (by decide) u

theorem exists_afterItem_eq_cons {items : List Json} (h : AfterItem tolerant items t) :
    ∃ c u, t = c :: u ∧ (c = ']' ∨ c = ',') := by
  cases h with
  | close => exact ⟨']', [], rfl, .inl rfl⟩
  | comma h => exact ⟨',', _, rfl, .inr rfl⟩

theorem bareName?_item {before after : Text} {items : List Json} (hbefore : IsSpace before)
    (hitem : Written tolerant value t) (hafter : IsSpace after) (hlater : AfterItem tolerant items u)
    (v : Text) : bareName? (requote (before ++ (t ++ (after ++ u))) ++ v) = none := by
  -- a bare name needs a colon, and behind an item there is a comma or a bracket
  obtain ⟨c, w, rfl, hc⟩ := exists_afterItem_eq_cons hlater
  have htext : requote (before ++ (t ++ (after ++ c :: w))) ++ v =
      requote (before ++ (t ++ after)) ++ c :: (requote w ++ v) := by
    have hcons : requote (c :: w) = c :: requote w := by rcases hc with rfl | rfl <;> rfl
    simp only [requote_append, hcons, List.append_assoc, List.cons_append]
  rw [htext]
  rcases hc with rfl | rfl <;>
    exact bareName?_written hbefore hitem hafter (by decide) (by decide) (by decide) _

mutual

/-- What is written tolerantly becomes a strict text of the same value. -/
theorem exists_strict_of_written {value : Json} {t : Text} : Written tolerant value t → Within Tame value →
    ∃ t', Written strict value t' ∧ Becomes t t'
  | .word h, _ => ⟨_, .word h, becomes_self (isSteady_of_word h)⟩
  | .int n, _ => ⟨_, .int n, becomes_self fun c hc =>
      isSteady_of_isNumberChar (Json.isNumberChar_of_mem_intText c hc)⟩
  | .string h, .string hs => ⟨_, .string rfl, becomes_quoted hs h⟩
  | .noItems h, _ => ⟨_, .noItems h, .cons (by decide) ((becomes_space h).append (becomes_char (by decide)))⟩
  | .array h, .array hitems => by
    obtain ⟨t', ht', hbecomes, -⟩ := exists_strict_of_writtenItems h hitems
    exact ⟨_, .array ht', hbecomes.cons (by decide)⟩
  | .noMembers h, _ => ⟨_, .noMembers h, becomesInside_space h '{' (.inl rfl)⟩
  | .object h hperm, .object _ hnames hmembers => by
    have hinner := fun member hmember =>
      have hmem := hperm.mem_iff.1 hmember
      And.intro (hnames member hmem) (hmembers member hmem)
    obtain ⟨t', ht', hbecomes⟩ := exists_strict_of_writtenMembers h hinner
    exact ⟨_, .object ht' hperm, hbecomes '{' (.inl rfl)⟩

theorem exists_strict_of_writtenItems {items : List Json} {t : Text} : WrittenItems tolerant items t →
    (∀ item ∈ items, Within Tame item) →
      ∃ t', WrittenItems strict items t' ∧ Becomes t t' ∧ ∀ u, bareName? (requote t ++ u) = none
  | .item hbefore hitem hafter hlater, hitems => by
    obtain ⟨hwithin, hitems⟩ := List.forall_mem_cons.1 hitems
    obtain ⟨t', ht', hbecomes⟩ := exists_strict_of_written hitem hwithin
    obtain ⟨u', hu', hrest⟩ := exists_strict_of_afterItem hlater hitems
    refine ⟨_, .item hbefore ht' hafter hu', ?_, bareName?_item hbefore hitem hafter hlater⟩
    exact (becomes_space hbefore).append (hbecomes.append ((becomes_space hafter).append hrest))

theorem exists_strict_of_afterItem {items : List Json} {t : Text} : AfterItem tolerant items t →
    (∀ item ∈ items, Within Tame item) → ∃ t', AfterItem strict items t' ∧ Becomes t t'
  | .close, _ => ⟨_, .close, becomes_char (by decide)⟩
  | .comma h, hitems => by
    obtain ⟨t', ht', hbecomes, hname⟩ := exists_strict_of_writtenItems h hitems
    exact ⟨_, .comma ht', hbecomes.inside hname ',' (.inr rfl)⟩

theorem exists_strict_of_writtenMembers {members : List (Text × Json)} {t : Text} :
    WrittenMembers tolerant members t → (∀ member ∈ members, Tame member.1 ∧ Within Tame member.2) →
      ∃ t', WrittenMembers strict members t' ∧ BecomesInside t t'
  | .member hbefore hname hbetween hbefore' hvalue hafter hlater, hmembers => by
    obtain ⟨⟨htame, hwithin⟩, hmembers⟩ := List.forall_mem_cons.1 hmembers
    obtain ⟨t', ht', hbecomes⟩ := exists_strict_of_written hvalue hwithin
    obtain ⟨u', hu', hrest⟩ := exists_strict_of_afterMember hlater hmembers
    have hbody := (becomes_space hbefore').append (hbecomes.append ((becomes_space hafter).append hrest))
    rcases hname with ⟨hword, rfl⟩ | hquoted
    · exact ⟨_, .member isSpace_nil rfl isSpace_nil hbefore' ht' hafter hu',
        becomesInside_word hbefore hword hbetween hbody⟩
    · have hmember := (becomes_space hbefore).append ((becomes_quoted htame hquoted).append
        ((becomes_space hbetween).append (hbody.cons (c := ':') (by decide))))
      exact ⟨_, .member hbefore rfl hbetween hbefore' ht' hafter hu',
        hmember.inside (hquoted.bareName? hbefore)⟩

theorem exists_strict_of_afterMember {members : List (Text × Json)} {t : Text} :
    AfterMember tolerant members t → (∀ member ∈ members, Tame member.1 ∧ Within Tame member.2) →
      ∃ t', AfterMember strict members t' ∧ Becomes t t'
  | .close, _ => ⟨_, .close, becomes_char (by decide)⟩
  | .comma h, hmembers => by
    obtain ⟨t', ht', hbecomes⟩ := exists_strict_of_writtenMembers h hmembers
    exact ⟨_, .comma ht', hbecomes ',' (.inr rfl)⟩

end

theorem within_isVerbatim (h : Within Tame value) : Within IsVerbatim value := by
  induction h with
  | null => exact .null
  | bool value => exact .bool value
  | int hn => exact .int hn
  | string hs => exact .string hs.isVerbatim
  | array _ ih => exact .array ih
  | object hordered hnames _ ih =>
    exact .object hordered (fun member hmember => (hnames member hmember).isVerbatim) ih

/-- An object in the tolerant notation gives its members but for the empty strings, however it is written. -/
theorem ofPayload_of_written {members : List (Text × Json)} {before text after : Text}
    (hwithin : Within Tame (.object members)) (hdepth : Json.depth (.object members) ≤ Json.maxDepth)
    (htext : Written tolerant (.object members) text) (hbefore : IsSpace before) (hafter : IsSpace after) :
    ofPayload (before ++ text ++ after) = members.filter fun member => !member.2.isEmptyString := by
  obtain ⟨text', hstrict, hbecomes⟩ := exists_strict_of_written htext hwithin
  have hjson : toJsonText (before ++ text ++ after) = before ++ (text' ++ after) := by
    have hwhole := ((becomes_space hbefore).append (hbecomes.append (becomes_space hafter))) []
    rw [List.append_nil, quoteBareNames, List.append_nil, ← List.append_assoc] at hwhole
    exact hwhole
  have hread := Json.read_of_written hstrict (within_isVerbatim hwithin) hdepth hbefore hafter
  have hbrace : '{' ∈ text := by
    cases htext with
    | word h => cases h
    | noMembers h => exact List.mem_cons_self
    | object h hperm => exact List.mem_cons_self
  have hblank : Text.isBlank (before ++ text ++ after) = false :=
    Text.isBlank_eq_false_of_mem (by simp [hbrace]) (by decide : Unicode.isBlank '{' = false)
  rw [ofPayload, decode, hblank, if_neg Bool.false_ne_true, hjson, hread]

theorem ofPayload_of_written_mixed :
    let empty : Text × Json := ("a".toList, .string [])
    let list : Text × Json :=
      ("b".toList, .array [.number (.int (-1)), .object [("e".toList, .string "x, y \x7b".toList)]])
    let flag : Text × Json := ("c d".toList, .bool true)
    let text := "\x7bb :[ -1,\x7be:'x, y \x7b'\x7d\t], \"a\":'',\n'c d': true\x7d".toList
    Within Tame (.object [empty, list, flag]) ∧ Json.depth (.object [empty, list, flag]) ≤ Json.maxDepth ∧
      Written tolerant (.object [empty, list, flag]) text ∧ IsSpace [] ∧ IsSpace ['\n'] ∧
      ofPayload ([] ++ text ++ ['\n']) = [list, flag] := by
  intro empty list flag text
  have hinner : Within Tame (.object [("e".toList, .string "x, y \x7b".toList)]) :=
    .object (List.pairwise_singleton _ _) (List.forall_mem_singleton.2 (by decide))
      (List.forall_mem_singleton.2 (.string (by decide)))
  have hlist : Within Tame list.2 :=
    .array (List.forall_mem_cons.2 ⟨.int (by decide), List.forall_mem_singleton.2 hinner⟩)
  have hwithin : Within Tame (.object [empty, list, flag]) := by
    refine .object (by unfold NamedList.Ordered; decide) ?_ ?_
    · rw [List.forall_mem_cons, List.forall_mem_cons, List.forall_mem_singleton]
      exact ⟨by decide, by decide, by decide⟩
    · rw [List.forall_mem_cons, List.forall_mem_cons, List.forall_mem_singleton]
      exact ⟨.string (by decide), hlist, .bool true⟩
  have hdepth : Json.depth (.object [empty, list, flag]) ≤ Json.maxDepth := by decide
  have hnil : IsSpace [] := isSpace_nil
  have hspace : ∀ c, Json.isBlank c = true → IsSpace [c] := fun c hc => List.forall_mem_singleton.2 hc
  have hb := hspace ' ' (by decide)
  have hline := hspace '\n' (by decide)
  have hvalue : Written tolerant (.string "x, y \x7b".toList) _ := .string ⟨'\'', .inr rfl, rfl⟩
  have hobject : Written tolerant (.object [("e".toList, .string "x, y \x7b".toList)]) _ :=
    .object (.member hnil (.inl ⟨by decide, rfl⟩) hnil hnil hvalue hnil .close) (.refl _)
  have hitems : Written tolerant list.2 _ :=
    .array (.item hb (.int (-1)) hnil (.comma (.item hnil hobject (hspace '\t' (by decide)) .close)))
  have hflag : AfterMember tolerant [flag] _ :=
    .comma (.member hline (.inr ⟨'\'', .inr rfl, rfl⟩) hnil hb (.word .true) hnil .close)
  have hempty : AfterMember tolerant [empty, flag] _ :=
    .comma (.member hb (.inr ⟨'"', .inl rfl, rfl⟩) hnil hnil (.string ⟨'\'', .inr rfl, rfl⟩) hnil hflag)
  have hmembers : WrittenMembers tolerant [list, empty, flag] _ :=
    .member hnil (.inl ⟨by decide, rfl⟩) hb hnil hitems hnil hempty
  have htext : Written tolerant (.object [empty, list, flag]) text := .object hmembers (.swap _ _ _)
  exact ⟨hwithin, hdepth, htext, hnil, hline, ofPayload_of_written hwithin hdepth htext hnil hline⟩

end Folio.Options
