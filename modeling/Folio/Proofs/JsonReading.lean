import Folio.Proofs.JsonNumbers
import Folio.Proofs.JsonStrings
import Folio.Proofs.TextCuts

/-!
# What the readers of JSON values do

For each reader of arrays, members, objects and values, all that a successful run can have done, and which
runs succeed. Later arguments about what is read cite these and never open a reader.
-/

namespace Folio.Json

open Text (Step)

def AfterPlain (t rest : Text) : Prop := ∃ u, t = u ++ rest ∧ ∀ c ∈ u, c ≠ '"' ∧ c ≠ '\\'

theorem AfterNumber.afterPlain {t rest : Text} (h : AfterNumber t rest) : AfterPlain t rest := by
  obtain ⟨u, rfl, hu⟩ := h
  refine ⟨u, rfl, ?_⟩
  intro c hc
  have hnumber := hu c hc
  constructor
  · rintro rfl
    cases hnumber
  · rintro rfl
    cases hnumber

theorem AfterPlain.cons {c : Char} {t rest : Text} (hc : c ≠ '"' ∧ c ≠ '\\') (h : AfterPlain t rest) :
    AfterPlain (c :: t) rest := by
  obtain ⟨u, rfl, hu⟩ := h
  exact ⟨c :: u, rfl, List.forall_mem_cons.2 ⟨hc, hu⟩⟩

theorem skipBlanks_cons {c : Char} {t : Text} (h : isBlank c = false) :
    skipBlanks (c :: t) = c :: t :=
  List.dropWhile_cons_of_neg (by simp [h])

theorem eq_of_readWord {word t rest : Text} (h : readWord word t = .ok rest) : t = word ++ rest := by
  induction word generalizing t with
  | nil =>
    rw [readWord] at h
    exact Except.ok.inj h
  | cons a word ih =>
    cases t with
    | nil => cases h
    | cons b t =>
      rw [readWord] at h
      split at h
      · rename_i hab
        rw [hab, ih h]
        rfl
      · cases h

theorem afterPlain_of_readWord {c : Char} {word t rest : Text} (h : readWord word t = .ok rest)
    (hword : (c :: word).all fun d => d ≠ '"' && d ≠ '\\') : AfterPlain (c :: t) rest := by
  refine ⟨c :: word, by rw [eq_of_readWord h]; rfl, ?_⟩
  intro d hd
  simpa using List.all_eq_true.1 hword d hd

/-! ## Integers -/

/-- Digits that make an integer are read to their end, if no more of a number follows. -/
theorem yields_readNumber_digits {negative : Bool} {n : Nat} {c : Char} {digits rest : Text}
    (hrun : ∀ d ∈ c :: digits, d.isDigit = true) (hzero : c = '0' → c :: digits = ['0'])
    (hread : accumulate maxInteger 0 (c :: digits) = (n, []))
    (hnegative : negative = true → 0 < n ∧ n ≤ 0x8000000000000000)
    (hrest : Text.HeadAvoids isNumberChar rest) :
    Yields (readNumber negative (c :: (digits ++ rest))) (.int (if negative then -n else n)) rest := by
  have hdigit : Text.HeadAvoids Char.isDigit rest := by
    intro d hd
    have hnumber := hrest d hd
    simp only [isNumberChar, Bool.or_eq_false_iff] at hnumber
    exact hnumber.1.1.1.1.1
  have hmark : ∀ d, isNumberChar d = true → rest.head? ≠ some d := by
    intro d hd hhead
    rw [hrest d hhead] at hd
    cases hd
  have htake : (c :: (digits ++ rest)).takeWhile Char.isDigit = c :: digits := Text.takeWhile_run hrun hdigit
  have hdrop : (c :: (digits ++ rest)).dropWhile Char.isDigit = rest := Text.dropWhile_run hrun hdigit
  refine ⟨by simp only [List.length_append, List.length_cons]; omega, ?_⟩
  rw [readNumber, dif_pos (hrun c List.mem_cons_self)]
  simp only [htake, hdrop, hread]
  rw [if_neg (by simpa using hzero), if_neg (hmark '.' (by decide))]
  have he := hmark 'e' (by decide)
  have hE := hmark 'E' (by decide)
  cases negative with
  | false => rw [if_pos (by simp [he, hE])]; rfl
  | true =>
    obtain ⟨hpos, hle⟩ := hnegative rfl
    rw [if_neg (by simp), if_pos (by simp [he, hE, hle]; omega)]
    rfl

theorem yields_readNumber_ofNat (negative : Bool) {n : Nat} {rest : Text} (hn : n ≤ maxInteger)
    (hnegative : negative = true → 0 < n ∧ n ≤ 0x8000000000000000)
    (hrest : Text.HeadAvoids isNumberChar rest) :
    Yields (readNumber negative (Text.ofNat n ++ rest)) (.int (if negative then -n else n)) rest := by
  have hread := accumulate_ofNat hn
  have hrun : ∀ c ∈ Text.ofNat n, c.isDigit = true := fun c hc => isDigit_of_mem_ofNat hc
  obtain ⟨c, digits, hdigits, hzero⟩ := ofNat_eq_cons n
  rw [hdigits] at hread hrun ⊢
  exact yields_readNumber_digits hrun hzero hread hnegative hrest

/-! ## Arrays -/

theorem of_readItems {item : (t : Text) → Except ReadError (Step Json t)} {first : Bool} {t : Text}
    {s : Step (List Json) t} (h : readItems item first t = .ok s) :
    ∃ c rest, skipBlanks t = c :: rest ∧
      ((c = ']' ∧ s.value = [] ∧ s.rest = rest) ∨
        (c ≠ ']' ∧ (first = false → c = ',') ∧ ∃ value mid values,
          Yields (item (if first then t else rest)) value mid ∧ mid.length < t.length ∧
          Yields (readItems item false mid) values s.rest ∧ s.value = value :: values)) := by
  rw [readItems] at h
  split at h
  · cases h
  · rename_i c rest hskip
    refine ⟨c, rest, hskip, ?_⟩
    split at h
    · rename_i hc
      cases h
      exact .inl ⟨hc, rfl, rfl⟩
    · rename_i hc
      split at h
      · cases h
      · rename_i hcomma
        right
        refine ⟨hc, fun hfirst => by simpa [hfirst] using hcomma, ?_⟩
        have hstart : (if first then t else rest).length ≤ t.length := by
          have := length_lt_of_skipBlanks hskip
          split <;> omega
        dsimp only at h
        split at h
        · cases h
        · cases h
        · split at h
          · cases h
          · rename_i step hitem
            obtain ⟨tail, htail, rfl⟩ := eq_ok_of_map h
            have hlt := step.shorter
            exact ⟨step.value, step.rest, tail.value, yields_of_eq_ok hitem, by omega,
              yields_of_eq_ok htail, rfl⟩

theorem yields_readItems_close {item : (t : Text) → Except ReadError (Step Json t)} (first : Bool)
    {t rest : Text} (hskip : skipBlanks t = ']' :: rest) : Yields (readItems item first t) [] rest := by
  refine ⟨length_lt_of_skipBlanks hskip, ?_⟩
  rw [readItems]
  split
  · rename_i hnil
    cases hskip.symm.trans hnil
  · rename_i c u hskip'
    obtain ⟨rfl, rfl⟩ := List.cons.inj (hskip.symm.trans hskip')
    rw [if_pos rfl]

theorem yields_readItems_cons {item : (t : Text) → Except ReadError (Step Json t)} {first : Bool}
    {t u mid rest : Text} {c : Char} {value : Json} {values : List Json} (hskip : skipBlanks t = c :: u)
    (hc : c ≠ ']') (hcomma : first = false → c = ',' ∧ ∃ d v, skipBlanks u = d :: v ∧ d ≠ ']')
    (hitem : Yields (item (if first then t else u)) value mid)
    (htail : Yields (readItems item false mid) values rest) :
    Yields (readItems item first t) (value :: values) rest := by
  obtain ⟨hlt, hitem⟩ := hitem
  obtain ⟨hlt', htail⟩ := htail
  have hstart : (if first then t else u).length ≤ t.length := by
    have := length_lt_of_skipBlanks hskip
    split <;> omega
  refine ⟨by omega, ?_⟩
  rw [readItems]
  split
  · rename_i hnil
    cases hskip.symm.trans hnil
  · rename_i c' u' hskip'
    obtain ⟨rfl, rfl⟩ := List.cons.inj (hskip.symm.trans hskip')
    have hgo : (!first && decide (c ≠ ',')) = false := by
      cases first with
      | true => rfl
      | false => simp [(hcomma rfl).1]
    rw [if_neg hc, if_neg (Bool.not_eq_true _ ▸ hgo)]
    dsimp only
    split
    · rename_i hend
      obtain ⟨-, d, v, hnext, -⟩ := hcomma rfl
      cases hnext.symm.trans hend
    · rename_i after hend
      obtain ⟨-, d, v, hnext, hd⟩ := hcomma rfl
      exact absurd (List.cons.inj (hnext.symm.trans hend)).1 hd
    · rw [hitem]
      dsimp only
      rw [htail]
      rfl

/-! ## Objects -/

theorem of_readMember {item : (t : Text) → Except ReadError (Step Json t)} {t : Text}
    {s : Step (Text × Json) ('"' :: t)} (h : readMember item ('"' :: t) = .ok s) :
    ∃ name mid rest value, Yields (readString t) name mid ∧ skipBlanks mid = ':' :: rest ∧
      Yields (item rest) value s.rest ∧ s.value = (name, value) := by
  unfold readMember at h
  split at h
  · cases h
  · rename_i name hname
    split at h
    · cases h
    · rename_i c rest hskip
      split at h
      · rename_i hc
        obtain ⟨value, hvalue, rfl⟩ := eq_ok_of_map h
        subst hc
        exact ⟨name.value, name.rest, rest, value.value, yields_of_eq_ok hname, hskip,
          yields_of_eq_ok hvalue, rfl⟩
      · cases h

theorem of_readMembers {item : (t : Text) → Except ReadError (Step Json t)} {first : Bool} {t : Text}
    {s : Step (List (Text × Json)) t} (h : readMembers item first t = .ok s) :
    ∃ c rest, skipBlanks t = c :: rest ∧
      ((c = '}' ∧ s.value = [] ∧ s.rest = rest) ∨
        (c ≠ '}' ∧ (first = false → c = ',') ∧ ∃ after member mid members,
          (if first then c :: rest else skipBlanks rest) = '"' :: after ∧
          Yields (readMember item ('"' :: after)) member mid ∧ mid.length < t.length ∧
          Yields (readMembers item false mid) members s.rest ∧ s.value = member :: members)) := by
  rw [readMembers] at h
  split at h
  · cases h
  · rename_i c rest hskip
    refine ⟨c, rest, hskip, ?_⟩
    split at h
    · rename_i hc
      cases h
      exact .inl ⟨hc, rfl, rfl⟩
    · rename_i hc
      split at h
      · cases h
      · rename_i hcomma
        right
        refine ⟨hc, fun hfirst => by simpa [hfirst] using hcomma, ?_⟩
        dsimp only at h
        split at h
        · cases h
        · rename_i d after hle hstart _
          split at h
          · cases h
          · split at h
            · cases h
            · rename_i hquote
              obtain rfl : d = '"' := by simpa using hquote
              split at h
              · cases h
              · rename_i step hmember
                obtain ⟨tail, htail, rfl⟩ := eq_ok_of_map h
                have hlt := Nat.lt_of_lt_of_le step.shorter hle
                exact ⟨after, step.value, step.rest, tail.value, hstart, yields_of_eq_ok hmember, hlt,
                  yields_of_eq_ok htail, rfl⟩

theorem yields_readMember {item : (t : Text) → Except ReadError (Step Json t)} {t u mid name rest : Text}
    {value : Json} (hname : Yields (readString t) name mid) (hcolon : skipBlanks mid = ':' :: u)
    (hvalue : Yields (item u) value rest) : Yields (readMember item ('"' :: t)) (name, value) rest := by
  obtain ⟨hlt, hname⟩ := hname
  obtain ⟨hlt', hvalue⟩ := hvalue
  have hle := length_lt_of_skipBlanks hcolon
  refine ⟨by simp only [List.length_cons]; omega, ?_⟩
  unfold readMember
  split
  · rename_i error herror
    exact absurd (herror.symm.trans hname) (by simp)
  · rename_i step hstep
    obtain rfl := Except.ok.inj (hstep.symm.trans hname)
    dsimp only
    split
    · rename_i hnil
      cases hcolon.symm.trans hnil
    · rename_i c v hskip
      obtain ⟨rfl, rfl⟩ := List.cons.inj (hcolon.symm.trans hskip)
      rw [if_pos rfl, hvalue]
      rfl

theorem yields_readMembers_close {item : (t : Text) → Except ReadError (Step Json t)} (first : Bool)
    {t rest : Text} (hskip : skipBlanks t = '}' :: rest) : Yields (readMembers item first t) [] rest := by
  refine ⟨length_lt_of_skipBlanks hskip, ?_⟩
  rw [readMembers]
  split
  · rename_i hnil
    cases hskip.symm.trans hnil
  · rename_i c u hskip'
    obtain ⟨rfl, rfl⟩ := List.cons.inj (hskip.symm.trans hskip')
    rw [if_pos rfl]

theorem yields_readMembers_cons {item : (t : Text) → Except ReadError (Step Json t)} {first : Bool}
    {t u v mid rest : Text} {c : Char} {member : Text × Json} {members : List (Text × Json)}
    (hskip : skipBlanks t = c :: v) (hc : c ≠ '}') (hcomma : first = false → c = ',')
    (hstart : (if first then c :: v else skipBlanks v) = '"' :: u)
    (hmember : Yields (readMember item ('"' :: u)) member mid)
    (htail : Yields (readMembers item false mid) members rest) :
    Yields (readMembers item first t) (member :: members) rest := by
  obtain ⟨hlt, hmember⟩ := hmember
  obtain ⟨hlt', htail⟩ := htail
  have hopen : ('"' :: u).length ≤ t.length := by
    have := length_lt_of_skipBlanks hskip
    have := length_skipBlanks_le v
    rw [← hstart]
    split
    · rw [List.length_cons]
      omega
    · omega
  refine ⟨by omega, ?_⟩
  rw [readMembers]
  split
  · rename_i hnil
    cases hskip.symm.trans hnil
  · rename_i c' v' hskip'
    obtain ⟨rfl, rfl⟩ := List.cons.inj (hskip.symm.trans hskip')
    have hgo : (!first && decide (c ≠ ',')) = false := by
      cases first with
      | true => rfl
      | false => simp [hcomma rfl]
    rw [if_neg hc, if_neg (Bool.not_eq_true _ ▸ hgo)]
    dsimp only
    split
    · rename_i hnil _
      cases hstart.symm.trans hnil
    · rename_i d after hle hstart' _
      obtain ⟨rfl, rfl⟩ := List.cons.inj (hstart.symm.trans hstart')
      rw [if_neg (by decide), if_neg (by decide), hmember]
      dsimp only
      rw [htail]
      rfl

def separator (first : Bool) : Text := if first then [] else [',']

theorem yields_readMembers_iff {item : (t : Text) → Except ReadError (Step Json t)} {first : Bool}
    {t rest : Text} {members : List (Text × Json)} :
    Yields (readMembers item first (separator first ++ '"' :: t)) members rest ↔
      ∃ member mid tail, Yields (readMember item ('"' :: t)) member mid ∧
        Yields (readMembers item false mid) tail rest ∧ members = member :: tail := by
  constructor
  · rintro ⟨_, hread⟩
    obtain ⟨c, u, hskip, hstep⟩ := of_readMembers hread
    -- both sides have skipped the comma and stand at the opening quote
    have hopen : (if first then c :: u else skipBlanks u) = '"' :: t ∧ c ≠ '}' := by
      cases first with
      | true =>
        obtain ⟨rfl, rfl⟩ := List.cons.inj (hskip.symm.trans (skipBlanks_cons (by decide)))
        exact ⟨rfl, by decide⟩
      | false =>
        obtain ⟨rfl, rfl⟩ := List.cons.inj (hskip.symm.trans (skipBlanks_cons (by decide)))
        exact ⟨skipBlanks_cons (by decide), by decide⟩
    rcases hstep with ⟨hc, -⟩ | ⟨-, -, after, member, mid, tail, hstart, hmember, -, htail, hmembers⟩
    · exact absurd hc hopen.2
    · obtain rfl : t = after := (List.cons.inj (hopen.1.symm.trans hstart)).2
      exact ⟨member, mid, tail, hmember, htail, hmembers⟩
  · rintro ⟨member, mid, tail, hmember, htail, rfl⟩
    cases first with
    | true => exact yields_readMembers_cons (skipBlanks_cons (by decide)) (by decide) nofun rfl hmember htail
    | false =>
      exact yields_readMembers_cons (skipBlanks_cons (by decide)) (by decide) (fun _ => rfl)
        (skipBlanks_cons (by decide)) hmember htail

/-! ## Values -/

theorem yields_map_iff {α β : Type} {t u rest : Text} {result : Except ReadError (Step α u)} {f : α → β}
    {value : β} (h : u.length ≤ t.length) :
    Yields (result.map fun s => (s.map f).widen h) value rest ↔ ∃ a, Yields result a rest ∧ value = f a := by
  constructor
  · rintro ⟨_, hresult⟩
    obtain ⟨step, hstep, heq⟩ := eq_ok_of_map hresult
    cases heq
    exact ⟨step.value, yields_of_eq_ok hstep, rfl⟩
  · rintro ⟨a, ⟨hlt, hresult⟩, rfl⟩
    rw [hresult]
    exact ⟨Nat.lt_of_lt_of_le hlt h, rfl⟩

/-- What the reader of values does at the first character of a value, and what it makes of the result. -/
inductive Branch : Nat → Char → Text → {α : Type} → {u : Text} → Except ReadError (Step α u) →
    (α → Json) → Prop where
  | string {depth : Nat} {t : Text} : Branch depth '"' t (readString t) .string
  | minus {depth : Nat} {t : Text} : Branch depth '-' t (readNumber true t) .number
  | digit {depth : Nat} {c : Char} {t : Text} : c.isDigit = true →
      Branch depth c t (readNumber false (c :: t)) .number
  | array {depth : Nat} {t : Text} : Branch (depth + 1) '[' t (readItems (readValue depth) true t) .array
  | object {depth : Nat} {t : Text} : Branch (depth + 1) '{' t (readMembers (readValue depth) true t)
      fun members => .object (NamedList.ofList members)

theorem Branch.length_le {depth : Nat} {c : Char} {t v : Text} {α : Type} {result : Except ReadError (Step α v)}
    {f : α → Json} (h : Branch depth c t result f) : v.length ≤ (c :: t).length := by
  cases h with
  | digit hc => exact Nat.le_refl _
  | _ => exact Nat.le_succ _

theorem yields_readValue_iff {depth : Nat} {c : Char} {t u v rest : Text} {α : Type}
    {result : Except ReadError (Step α v)} {f : α → Json} {value : Json} (h : Branch depth c t result f)
    (hskip : skipBlanks u = c :: t) :
    Yields (readValue depth u) value rest ↔ ∃ a, Yields result a rest ∧ value = f a := by
  have hle : v.length ≤ u.length := Nat.le_trans h.length_le (length_lt_of_skipBlanks hskip)
  have hread : readValue depth u = result.map fun s => (s.map f).widen hle := by
    unfold readValue
    split
    · rename_i hnil
      cases hskip.symm.trans hnil
    · rename_i c' t' hskip'
      obtain ⟨rfl, rfl⟩ := List.cons.inj (hskip.symm.trans hskip')
      cases h with
      | digit hc =>
        have hne : ∀ d, d.isDigit = false → c ≠ d := by
          rintro d hd rfl
          rw [hc] at hd
          cases hd
        dsimp only
        rw [if_neg (hne 'n' (by decide)), if_neg (hne 't' (by decide)), if_neg (hne 'f' (by decide)),
          if_neg (hne '-' (by decide)), if_pos hc]
      | _ => rfl
  rw [hread]
  exact yields_map_iff hle

theorem readWord_append (word t : Text) : readWord word (word ++ t) = .ok t := by
  induction word with
  | nil => rfl
  | cons a word ih =>
    rw [List.cons_append, readWord, if_pos rfl]
    exact ih

inductive Word : Json → Char → Text → Prop where
  | null : Word .null 'n' "ull".toList
  | true : Word (.bool Bool.true) 't' "rue".toList
  | false : Word (.bool Bool.false) 'f' "alse".toList

theorem yields_readValue_word {depth : Nat} {u word rest : Text} {c : Char} {value : Json}
    (h : Word value c word) (hskip : skipBlanks u = c :: (word ++ rest)) :
    Yields (readValue depth u) value rest := by
  have hlt := length_lt_of_skipBlanks hskip
  rw [List.length_append] at hlt
  refine ⟨by omega, ?_⟩
  unfold readValue
  split
  · rename_i hnil
    cases hskip.symm.trans hnil
  · rename_i c' v hskip'
    obtain ⟨rfl, rfl⟩ := List.cons.inj (hskip.symm.trans hskip')
    have hword := readWord_append word rest
    cases h <;>
    · simp only [Char.reduceEq, if_true, if_false]
      split
      · rename_i error herror
        cases herror.symm.trans hword
      · rename_i after hafter
        cases hafter.symm.trans hword
        rfl

/-- Every integer of 64 bits is read back. -/
theorem yields_readValue_int {depth : Nat} {n : Int} {u rest : Text}
    (hn : -0x8000000000000000 ≤ n ∧ n < 0x8000000000000000) (hskip : skipBlanks u = intText n ++ rest)
    (hrest : Text.HeadAvoids isNumberChar rest) : Yields (readValue depth u) (.number (.int n)) rest := by
  have hsize : n.natAbs ≤ 0x8000000000000000 := by omega
  have hlimit : n.natAbs ≤ maxInteger := Nat.le_trans hsize (by decide)
  rw [intText] at hskip
  split at hskip
  · rename_i hneg
    have hread := yields_readNumber_ofNat true hlimit (fun _ => ⟨by omega, hsize⟩) hrest
    have hvalue : -(n.natAbs : Int) = n := by omega
    rw [if_pos rfl, hvalue] at hread
    exact (yields_readValue_iff .minus hskip).2 ⟨_, hread, rfl⟩
  · rename_i hpos
    have hread := yields_readNumber_ofNat false hlimit nofun hrest
    have hvalue : (n.natAbs : Int) = n := by omega
    rw [if_neg Bool.false_ne_true, hvalue] at hread
    obtain ⟨c, digits, hdigits, -⟩ := ofNat_eq_cons n.natAbs
    have hc : c.isDigit = true := isDigit_of_mem_ofNat (by rw [hdigits]; exact List.mem_cons_self)
    rw [hdigits] at hskip hread
    exact (yields_readValue_iff (.digit hc) hskip).2 ⟨_, hread, rfl⟩

theorem of_readValue {depth : Nat} {t : Text} {s : Step Json t} (h : readValue depth t = .ok s) :
    ∃ c rest, skipBlanks t = c :: rest ∧
      (AfterPlain (c :: rest) s.rest ∨
        (c = '"' ∧ ∃ value, Yields (readString rest) value s.rest ∧ s.value = .string value) ∨
        (c = '[' ∧ ∃ inner items, depth = inner + 1 ∧
          Yields (readItems (readValue inner) true rest) items s.rest ∧ s.value = .array items) ∨
        (c = '{' ∧ ∃ inner members, depth = inner + 1 ∧
          Yields (readMembers (readValue inner) true rest) members s.rest ∧
          s.value = .object (NamedList.ofList members))) := by
  unfold readValue at h
  split at h
  · cases h
  · rename_i c rest hskip
    refine ⟨c, rest, hskip, ?_⟩
    extract_lets hrest word at h
    have hplain : ∀ {name : String} {value : Json}, word name value = .ok s →
        ((c :: name.toList).all fun d => d ≠ '"' && d ≠ '\\') → AfterPlain (c :: rest) s.rest := by
      intro name value hread hname
      unfold word at hread
      split at hread
      · cases hread
      · rename_i hword
        cases hread
        exact afterPlain_of_readWord hword hname
    -- neither a word nor a number has a quote or a backslash in it
    split at h
    · rename_i hc
      exact .inl (hplain h (by rw [hc]; decide))
    split at h
    · rename_i hc
      exact .inl (hplain h (by rw [hc]; decide))
    split at h
    · rename_i hc
      exact .inl (hplain h (by rw [hc]; decide))
    split at h
    · rename_i hc
      obtain ⟨step, hstep, rfl⟩ := eq_ok_of_map h
      exact .inl ((afterNumber_of_readNumber hstep).afterPlain.cons (by rw [hc]; decide))
    split at h
    · obtain ⟨step, hstep, rfl⟩ := eq_ok_of_map h
      exact .inl (afterNumber_of_readNumber hstep).afterPlain
    right
    split at h
    · rename_i hc
      obtain ⟨step, hstep, rfl⟩ := eq_ok_of_map h
      exact .inl ⟨hc, step.value, yields_of_eq_ok hstep, rfl⟩
    right
    split at h
    · rename_i hc
      split at h
      · cases h
      · rename_i inner
        obtain ⟨step, hstep, rfl⟩ := eq_ok_of_map h
        exact .inl ⟨hc, inner, step.value, rfl, yields_of_eq_ok hstep, rfl⟩
    right
    split at h
    · rename_i hc
      split at h
      · cases h
      · rename_i inner
        obtain ⟨step, hstep, rfl⟩ := eq_ok_of_map h
        exact ⟨hc, inner, step.value, rfl, yields_of_eq_ok hstep, rfl⟩
    · cases h

theorem read_eq_ok_iff {t : Text} {value : Json} :
    read t = .ok value ↔ ∃ rest, Yields (readValue maxDepth t) value rest ∧ skipBlanks rest = [] := by
  unfold read
  constructor
  · intro h
    split at h
    · cases h
    · rename_i step hstep
      split at h
      · rename_i hend
        obtain rfl := Except.ok.inj h
        exact ⟨step.rest, yields_of_eq_ok hstep, hend⟩
      · cases h
  · rintro ⟨rest, ⟨_, h⟩, hend⟩
    simp only [h, hend]

end Folio.Json
