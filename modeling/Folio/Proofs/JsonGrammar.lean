import Folio.Proofs.JsonReading
import Folio.Proofs.NamedLists

/-!
# The grammar of JSON values

How values are written: blanks may stand between any two parts, and the members of an object in any order.
How names and strings are written is left open, so the grammar fits the strict notation and others. The reader
of values reads back whatever is written strictly.
-/

namespace Folio.Json

def IsSpace (t : Text) : Prop := ∀ c ∈ t, isBlank c = true

structure Style where
  name : Text → Text → Prop
  string : Text → Text → Prop

mutual

inductive Written (style : Style) : Json → Text → Prop where
  | word {value : Json} {c : Char} {word : Text} : Word value c word → Written style value (c :: word)
  | int (n : Int) : Written style (.number (.int n)) (intText n)
  | string {s t : Text} : style.string s t → Written style (.string s) t
  | noItems {blanks : Text} : IsSpace blanks → Written style (.array []) ('[' :: (blanks ++ [']']))
  | array {items : List Json} {t : Text} : WrittenItems style items t →
      Written style (.array items) ('[' :: t)
  | noMembers {blanks : Text} : IsSpace blanks → Written style (.object []) ('{' :: (blanks ++ ['}']))
  | object {members written : List (Text × Json)} {t : Text} : WrittenMembers style written t →
      written.Perm members → Written style (.object members) ('{' :: t)

inductive WrittenItems (style : Style) : List Json → Text → Prop where
  | item {before t after u : Text} {item : Json} {items : List Json} : IsSpace before →
      Written style item t → IsSpace after → AfterItem style items u →
      WrittenItems style (item :: items) (before ++ (t ++ (after ++ u)))

inductive AfterItem (style : Style) : List Json → Text → Prop where
  | close : AfterItem style [] [']']
  | comma {items : List Json} {t : Text} : WrittenItems style items t → AfterItem style items (',' :: t)

inductive WrittenMembers (style : Style) : List (Text × Json) → Text → Prop where
  | member {before n between before' t after u name : Text} {value : Json} {members : List (Text × Json)} :
      IsSpace before → style.name name n → IsSpace between → IsSpace before' → Written style value t →
      IsSpace after → AfterMember style members u →
      WrittenMembers style ((name, value) :: members)
        (before ++ (n ++ (between ++ ':' :: (before' ++ (t ++ (after ++ u))))))

inductive AfterMember (style : Style) : List (Text × Json) → Text → Prop where
  | close : AfterMember style [] ['}']
  | comma {members : List (Text × Json)} {t : Text} : WrittenMembers style members t →
      AfterMember style members (',' :: t)

end

mutual

def depth : Json → Nat
  | .array items => depthItems items + 1
  | .object members => depthMembers members + 1
  | _ => 0

def depthItems : List Json → Nat
  | [] => 0
  | item :: items => max (depth item) (depthItems items)

def depthMembers : List (Text × Json) → Nat
  | [] => 0
  | member :: members => max (depth member.2) (depthMembers members)

end

theorem depth_le_of_mem_items {item : Json} {items : List Json} (h : item ∈ items) :
    depth item ≤ depthItems items := by
  induction items with
  | nil => cases h
  | cons first items ih =>
    rw [depthItems]
    rcases List.mem_cons.1 h with rfl | h
    · exact Nat.le_max_left _ _
    · exact Nat.le_trans (ih h) (Nat.le_max_right _ _)

theorem depth_le_of_mem_members {member : Text × Json} {members : List (Text × Json)}
    (h : member ∈ members) : depth member.2 ≤ depthMembers members := by
  induction members with
  | nil => cases h
  | cons first members ih =>
    rw [depthMembers]
    rcases List.mem_cons.1 h with rfl | h
    · exact Nat.le_max_left _ _
    · exact Nat.le_trans (ih h) (Nat.le_max_right _ _)

/-- Integers have 64 bits, the members of objects are in the order of their names, and all names and strings
are of a kind. -/
inductive Within (kind : Text → Prop) : Json → Prop where
  | null : Within kind .null
  | bool (value : Bool) : Within kind (.bool value)
  | int {n : Int} : -0x8000000000000000 ≤ n ∧ n < 0x8000000000000000 → Within kind (.number (.int n))
  | string {s : Text} : kind s → Within kind (.string s)
  | array {items : List Json} : (∀ item ∈ items, Within kind item) → Within kind (.array items)
  | object {members : List (Text × Json)} : NamedList.Ordered members → (∀ member ∈ members, kind member.1) →
      (∀ member ∈ members, Within kind member.2) → Within kind (.object members)

def IsVerbatim (s : Text) : Prop := ∀ c ∈ s, c ≠ '"' ∧ c ≠ '\\' ∧ 0x20 ≤ c.toNat

theorem IsVerbatim.chars {s : Text} (h : IsVerbatim s) : Chars s s := by
  induction s with
  | nil => exact .nil
  | cons c s ih =>
    obtain ⟨⟨hquote, hback, hprint⟩, hs⟩ := List.forall_mem_cons.1 h
    exact .plain hquote hback hprint (ih hs)

def strict : Style where
  name name t := t = '"' :: (name ++ ['"'])
  string s t := t = '"' :: (s ++ ['"'])

/-! ## Blanks -/

theorem isSpace_nil : IsSpace [] := fun _ hc => absurd hc List.not_mem_nil

theorem skipBlanks_append {blanks t : Text} (hblanks : IsSpace blanks) (ht : Text.HeadAvoids isBlank t) :
    skipBlanks (blanks ++ t) = t :=
  Text.dropWhile_run hblanks ht

theorem isNumberChar_of_isBlank {c : Char} (h : isBlank c = true) : isNumberChar c = false := by
  simp only [isBlank, Bool.or_eq_true, decide_eq_true_eq] at h
  rcases h with ((rfl | rfl) | rfl) | rfl <;> decide

theorem headAvoids_isNumberChar {blanks t : Text} {c : Char} (hblanks : IsSpace blanks)
    (hc : isNumberChar c = false) : Text.HeadAvoids isNumberChar (blanks ++ c :: t) :=
  Text.headAvoids_run (fun d hd => isNumberChar_of_isBlank (hblanks d hd)) (Text.headAvoids_cons.2 hc)

/-! ## Reading -/

variable {value : Json} {items : List Json} {members : List (Text × Json)} {t u rest : Text} {d : Nat}

theorem exists_intText_eq_cons (n : Int) :
    ∃ c t, intText n = c :: t ∧ isNumberChar c = true := by
  cases htext : intText n with
  | nil =>
    rw [intText] at htext
    split at htext
    · cases htext
    · obtain ⟨c, digits, hdigits, -⟩ := ofNat_eq_cons n.natAbs
      rw [hdigits] at htext
      cases htext
  | cons c t => exact ⟨c, t, rfl, isNumberChar_of_mem_intText c (htext ▸ List.mem_cons_self)⟩

/-- What is written starts neither with a blank nor with the end of an array. -/
theorem Written.head (h : Written strict value t) : ∃ c u, t = c :: u ∧ isBlank c = false ∧ c ≠ ']' := by
  cases h with
  | word h => cases h <;> exact ⟨_, _, rfl, by decide, by decide⟩
  | int n =>
    obtain ⟨c, u, heq, hc⟩ := exists_intText_eq_cons n
    refine ⟨c, u, heq, ?_, ?_⟩
    · cases hblank : isBlank c with
      | false => rfl
      | true =>
        rw [isNumberChar_of_isBlank hblank] at hc
        cases hc
    · rintro rfl
      cases hc
  | string h => exact ⟨_, _, h, by decide, by decide⟩
  | noItems h => exact ⟨_, _, rfl, by decide, by decide⟩
  | array h => exact ⟨_, _, rfl, by decide, by decide⟩
  | noMembers h => exact ⟨_, _, rfl, by decide, by decide⟩
  | object h hperm => exact ⟨_, _, rfl, by decide, by decide⟩

theorem Written.exists_skipBlanks_append (h : Written strict value t) {blanks : Text}
    (hblanks : IsSpace blanks) :
    ∃ c u, c ≠ ']' ∧ ∀ rest, skipBlanks (blanks ++ (t ++ rest)) = c :: (u ++ rest) := by
  obtain ⟨c, u, rfl, hc, hclose⟩ := h.head
  exact ⟨c, u, hclose, fun rest => Json.skipBlanks_append hblanks (Text.headAvoids_cons.2 hc)⟩

theorem Written.skipBlanks_append (h : Written strict value t) {blanks : Text} (hblanks : IsSpace blanks)
    (rest : Text) : skipBlanks (blanks ++ (t ++ rest)) = t ++ rest := by
  obtain ⟨c, u, rfl, hc, -⟩ := h.head
  exact Json.skipBlanks_append hblanks (Text.headAvoids_cons.2 hc)

theorem AfterItem.headAvoids (h : AfterItem strict items t) {blanks : Text} (hblanks : IsSpace blanks)
    (rest : Text) : Text.HeadAvoids isNumberChar (blanks ++ (t ++ rest)) := by
  cases h with
  | close => exact headAvoids_isNumberChar hblanks (by decide)
  | comma h => exact headAvoids_isNumberChar hblanks (by decide)

theorem AfterMember.headAvoids (h : AfterMember strict members t) {blanks : Text} (hblanks : IsSpace blanks)
    (rest : Text) : Text.HeadAvoids isNumberChar (blanks ++ (t ++ rest)) := by
  cases h with
  | close => exact headAvoids_isNumberChar hblanks (by decide)
  | comma h => exact headAvoids_isNumberChar hblanks (by decide)

section

variable {item : (t : Text) → Except ReadError (Text.Step Json t)} {mid : Text}

/-- An item is read as the first one of an array and behind a comma. -/
theorem yields_readItems_item {c : Char} (hskip : skipBlanks t = c :: u) (hc : c ≠ ']')
    (hitem : Yields (item t) value mid) (hlater : Yields (readItems item false mid) items rest) :
    Yields (readItems item true t) (value :: items) rest ∧
      ∀ v, skipBlanks v = ',' :: t → Yields (readItems item false v) (value :: items) rest := by
  constructor
  · exact yields_readItems_cons hskip hc nofun hitem hlater
  · intro v hcomma
    exact yields_readItems_cons hcomma (by decide) (fun _ => ⟨rfl, c, u, hskip, hc⟩) hitem hlater

/-- A member is read as the first one of an object and behind a comma. -/
theorem yields_readMembers_member {before name between : Text} (hbefore : IsSpace before)
    (hname : IsVerbatim name) (hbetween : IsSpace between) (hvalue : Yields (item u) value mid)
    (hlater : Yields (readMembers item false mid) members rest)
    (ht : t = before ++ '"' :: (name ++ '"' :: (between ++ ':' :: u))) :
    Yields (readMembers item true t) ((name, value) :: members) rest ∧
      ∀ v, skipBlanks v = ',' :: t → Yields (readMembers item false v) ((name, value) :: members) rest := by
  have hmember := yields_readMember (readString_of_chars hname.chars (between ++ ':' :: u))
    (skipBlanks_append hbetween (Text.headAvoids_cons.2 (by decide))) hvalue
  have hskip : skipBlanks t = '"' :: (name ++ '"' :: (between ++ ':' :: u)) := by
    rw [ht]
    exact skipBlanks_append hbefore (Text.headAvoids_cons.2 (by decide))
  constructor
  · exact yields_readMembers_cons hskip (by decide) nofun rfl hmember hlater
  · intro v hcomma
    exact yields_readMembers_cons hcomma (by decide) (fun _ => rfl) hskip hmember hlater

end

mutual

/-- What is written strictly is read back, if it nests no deeper than the reader goes. -/
theorem yields_of_written {value : Json} {t : Text} : Written strict value t → Within IsVerbatim value →
    ∀ {d u rest}, depth value ≤ d → skipBlanks u = t ++ rest → Text.HeadAvoids isNumberChar rest →
      Yields (readValue d u) value rest
  | .word h, _, _, _, _, _, hskip, _ => yields_readValue_word h hskip
  | .int n, .int hn, _, _, _, _, hskip, hrest => yields_readValue_int hn hskip hrest
  | .string h, .string hs, _, _, rest, _, hskip, _ => by
    obtain rfl := h
    rw [List.cons_append, List.append_assoc] at hskip
    exact (yields_readValue_iff .string hskip).2 ⟨_, readString_of_chars hs.chars rest, rfl⟩
  | .noItems hblanks, _, d + 1, _, rest, _, hskip, _ => by
    rw [List.cons_append, List.append_assoc] at hskip
    have hclose := Json.skipBlanks_append hblanks (t := ']' :: rest) (Text.headAvoids_cons.2 (by decide))
    exact (yields_readValue_iff .array hskip).2 ⟨[], yields_readItems_close true hclose, rfl⟩
  | .array h, .array hitems, d + 1, _, rest, hdepth, hskip, _ => by
    have hinner := fun item hitem => And.intro (hitems item hitem)
      (Nat.le_trans (depth_le_of_mem_items hitem) (Nat.le_of_succ_le_succ hdepth))
    exact (yields_readValue_iff .array hskip).2 ⟨_, (yields_of_writtenItems h hinner rest).1, rfl⟩
  | .noMembers hblanks, _, d + 1, _, rest, _, hskip, _ => by
    rw [List.cons_append, List.append_assoc] at hskip
    have hclose := Json.skipBlanks_append hblanks (t := '}' :: rest) (Text.headAvoids_cons.2 (by decide))
    exact (yields_readValue_iff .object hskip).2 ⟨[], yields_readMembers_close true hclose, rfl⟩
  | .object h hperm, .object hordered hnames hmembers, d + 1, _, rest, hdepth, hskip, _ => by
    have hinner := fun member hmember =>
      have hmem := hperm.mem_iff.1 hmember
      And.intro (hnames member hmem) (And.intro (hmembers member hmem)
        (Nat.le_trans (depth_le_of_mem_members hmem) (Nat.le_of_succ_le_succ hdepth)))
    refine (yields_readValue_iff .object hskip).2 ⟨_, (yields_of_writtenMembers h hinner rest).1, ?_⟩
    rw [hordered.ofList_eq hperm]

theorem yields_of_writtenItems {items : List Json} {t : Text} {d : Nat} : WrittenItems strict items t →
    (∀ item ∈ items, Within IsVerbatim item ∧ depth item ≤ d) → ∀ rest,
      Yields (readItems (readValue d) true (t ++ rest)) items rest ∧
        ∀ u, skipBlanks u = ',' :: (t ++ rest) → Yields (readItems (readValue d) false u) items rest
  | .item hbefore hitem hafter hlater, hitems, rest => by
    obtain ⟨⟨hwithin, hdepth⟩, hitems⟩ := List.forall_mem_cons.1 hitems
    obtain ⟨c, u, hclose, hstart⟩ := hitem.exists_skipBlanks_append hbefore
    have hskip := hitem.skipBlanks_append hbefore
    have hfirst := yields_of_written hitem hwithin hdepth (hskip _) (hlater.headAvoids hafter rest)
    have hrest := yields_of_afterItem hlater hitems hafter rest
    rw [List.append_assoc, List.append_assoc, List.append_assoc]
    exact yields_readItems_item (hstart _) hclose hfirst hrest

theorem yields_of_afterItem {items : List Json} {t u : Text} {d : Nat} : AfterItem strict items t →
    (∀ item ∈ items, Within IsVerbatim item ∧ depth item ≤ d) → IsSpace u → ∀ rest,
      Yields (readItems (readValue d) false (u ++ (t ++ rest))) items rest
  | .close, _, hu, _ =>
    yields_readItems_close false (Json.skipBlanks_append hu (Text.headAvoids_cons.2 (by decide)))
  | .comma h, hitems, hu, rest =>
    (yields_of_writtenItems h hitems rest).2 _
      (Json.skipBlanks_append hu (Text.headAvoids_cons.2 (by decide)))

theorem yields_of_writtenMembers {members : List (Text × Json)} {t : Text} {d : Nat} :
    WrittenMembers strict members t →
    (∀ member ∈ members, IsVerbatim member.1 ∧ Within IsVerbatim member.2 ∧ depth member.2 ≤ d) → ∀ rest,
      Yields (readMembers (readValue d) true (t ++ rest)) members rest ∧
        ∀ u, skipBlanks u = ',' :: (t ++ rest) → Yields (readMembers (readValue d) false u) members rest
  | .member hbefore hname hbetween hbefore' hvalue hafter hlater, hmembers, rest => by
    obtain ⟨⟨hverbatim, hwithin, hdepth⟩, hmembers⟩ := List.forall_mem_cons.1 hmembers
    have hskip := hvalue.skipBlanks_append hbefore'
    have hfirst := yields_of_written hvalue hwithin hdepth (hskip _) (hlater.headAvoids hafter rest)
    have hrest := yields_of_afterMember hlater hmembers hafter rest
    apply yields_readMembers_member hbefore hverbatim hbetween hfirst hrest
    rw [hname]
    simp only [List.append_assoc, List.cons_append, List.nil_append]

theorem yields_of_afterMember {members : List (Text × Json)} {t u : Text} {d : Nat} :
    AfterMember strict members t →
    (∀ member ∈ members, IsVerbatim member.1 ∧ Within IsVerbatim member.2 ∧ depth member.2 ≤ d) →
    IsSpace u → ∀ rest, Yields (readMembers (readValue d) false (u ++ (t ++ rest))) members rest
  | .close, _, hu, _ =>
    yields_readMembers_close false (Json.skipBlanks_append hu (Text.headAvoids_cons.2 (by decide)))
  | .comma h, hmembers, hu, rest =>
    (yields_of_writtenMembers h hmembers rest).2 _
      (Json.skipBlanks_append hu (Text.headAvoids_cons.2 (by decide)))

end

theorem IsSpace.headAvoids {blanks : Text} (h : IsSpace blanks) : Text.HeadAvoids isNumberChar blanks :=
  fun c hc => isNumberChar_of_isBlank (h c (List.mem_of_mem_head? hc))

/-- A whole text that is written strictly is read back. -/
theorem read_of_written {before after : Text} (h : Written strict value t) (hwithin : Within IsVerbatim value)
    (hdepth : depth value ≤ maxDepth) (hbefore : IsSpace before) (hafter : IsSpace after) :
    read (before ++ (t ++ after)) = .ok value := by
  apply read_eq_ok_iff.2
  refine ⟨after, ?_, ?_⟩
  · exact yields_of_written h hwithin hdepth (h.skipBlanks_append hbefore after) hafter.headAvoids
  · exact List.dropWhile_eq_nil_iff.2 hafter

end Folio.Json
