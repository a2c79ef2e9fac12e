import Folio.Proofs.StrayText

/-!
# Reading stray text

A reader that starts in stray text ends in stray text or in front of a word. The proof follows the
readers: items and members by the length of the text, values by the depth that is left. In front of a word
no array and no object goes on, and stray text is never used up, so a text that leads into stray text is
no JSON text.
-/

namespace Folio.Options

open Json (Chars Yields AfterPlain)
open Text (Step)

def Lost (after t : Text) : Prop := Stray after t ∨ AtWord t

/-- A reader of values that stays out of step. -/
def Strays (after : Text) (item : (t : Text) → Except Json.ReadError (Step Json t)) : Prop :=
  ∀ {t value rest}, Yields (item t) value rest → Stray after t → Lost after rest

variable {after : Text}

theorem Stray.of_plain {c : Char} {t : Text} (h : Stray after (c :: t)) (hc : c ≠ '"' ∧ c ≠ '\\') :
    Stray after t := by
  cases h with
  | close => exact absurd rfl hc.1
  | char _ _ ht => exact ht
  | backslash => exact absurd rfl hc.2
  | name => exact absurd rfl hc.1

theorem Stray.of_afterPlain {t rest : Text} (h : Stray after t) (hrest : AfterPlain t rest) :
    Stray after rest := by
  obtain ⟨u, rfl, hu⟩ := hrest
  induction u with
  | nil => exact h
  | cons c u ih =>
    obtain ⟨hc, hu⟩ := List.forall_mem_cons.1 hu
    exact ih hu (h.of_plain hc)

theorem isBlank_ne {c : Char} (h : Json.isBlank c = true) : c ≠ '"' ∧ c ≠ '\\' := by
  constructor
  · rintro rfl
    cases h
  · rintro rfl
    cases h

theorem Stray.skipBlanks {t : Text} (h : Stray after t) : Stray after (Json.skipBlanks t) :=
  h.of_afterPlain ⟨t.takeWhile Json.isBlank, List.takeWhile_append_dropWhile.symm,
    fun _ hc => isBlank_ne (List.mem_takeWhile_imp hc)⟩

theorem Stray.skipBlanks_ne_nil {t : Text} (h : Stray after t) : Json.skipBlanks t ≠ [] := by
  intro hnil
  have hstray := h.skipBlanks
  rw [hnil] at hstray
  cases hstray

theorem AtWord.isWord {t rest : Text} {c : Char} (h : AtWord t) (hskip : Json.skipBlanks t = c :: rest) :
    Unicode.isWord c = true := by
  rw [h.skipBlanks] at hskip
  obtain ⟨d, u, rfl, hd⟩ := h
  rw [← (List.cons.inj hskip).1]
  exact hd

/-- A string in stray text is a name that got its quotes from the notation, or it starts at the closing
quote of the value. -/
theorem Stray.of_readString {t s rest : Text} (hafter : EndsAtWord after) (h : Stray after ('"' :: t))
    (hread : Yields (Json.readString t) s rest) :
    AtWord rest ∨ ∃ t', rest = ':' :: t' ∧ Stray after t' := by
  cases h with
  | close =>
    obtain ⟨u, hu, heq⟩ := Json.yields_readString_iff.1 hread
    exact .inl (hafter u s rest hu heq)
  | char hquote => exact absurd rfl hquote
  | @name name t hword ht =>
    obtain ⟨_, hread⟩ := hread
    obtain ⟨_, hname⟩ := Json.readString_of_chars (IsWord.chars hword.2) (':' :: t)
    rw [hname] at hread
    cases hread
    exact .inr ⟨t, rfl, ht⟩

/-! ## Arrays and objects -/

variable {item : (t : Text) → Except Json.ReadError (Step Json t)}

theorem not_atWord_of_readItems {t rest : Text} {values : List Json}
    (hread : Yields (Json.readItems item false t) values rest) : ¬ AtWord t := by
  intro h
  obtain ⟨_, hread⟩ := hread
  obtain ⟨c, u, hskip, hstep⟩ := Json.of_readItems hread
  have hword := h.isWord hskip
  rcases hstep with ⟨rfl, -⟩ | ⟨-, hcomma, -⟩
  · exact absurd hword (by decide)
  · rw [hcomma rfl] at hword
    exact absurd hword (by decide)

theorem not_atWord_of_readMembers {t rest : Text} {members : List (Text × Json)}
    (hread : Yields (Json.readMembers item false t) members rest) : ¬ AtWord t := by
  intro h
  obtain ⟨_, hread⟩ := hread
  obtain ⟨c, u, hskip, hstep⟩ := Json.of_readMembers hread
  have hword := h.isWord hskip
  rcases hstep with ⟨rfl, -⟩ | ⟨-, hcomma, -⟩
  · exact absurd hword (by decide)
  · rw [hcomma rfl] at hword
    exact absurd hword (by decide)

theorem stray_of_readItems (hitem : Strays after item) {first : Bool} {t rest : Text}
    {values : List Json} (hread : Yields (Json.readItems item first t) values rest)
    (h : Stray after t) : Stray after rest := by
  induction hn : t.length using Nat.strongRecOn generalizing t first values rest with
  | ind n ih =>
    subst hn
    obtain ⟨_, hread⟩ := hread
    obtain ⟨c, u, hskip, hstep⟩ := Json.of_readItems hread
    have hstray := h.skipBlanks
    rw [hskip] at hstray
    rcases hstep with ⟨rfl, -, rfl⟩ | ⟨-, hcomma, value, mid, values, hvalue, hlt, htail, -⟩
    · exact hstray.of_plain (by decide)
    · have hstart : Stray after (if first then t else u) := by
        cases first with
        | true => exact h
        | false =>
          obtain rfl := hcomma rfl
          exact hstray.of_plain (by decide)
      rcases hitem hvalue hstart with hmid | hmid
      · exact ih mid.length hlt htail hmid rfl
      · exact absurd hmid (not_atWord_of_readItems htail)

theorem lost_of_readMember (hafter : EndsAtWord after) (hitem : Strays after item) {t rest : Text}
    {member : Text × Json} (hread : Yields (Json.readMember item ('"' :: t)) member rest)
    (h : Stray after ('"' :: t)) : Lost after rest := by
  obtain ⟨_, hread⟩ := hread
  obtain ⟨name, mid, u, value, hname, hskip, hvalue, -⟩ := Json.of_readMember hread
  rcases h.of_readString hafter hname with hmid | ⟨v, rfl, hv⟩
  · exact absurd (hmid.isWord hskip) (by decide)
  · obtain rfl : v = u := by
      rw [Json.skipBlanks, List.dropWhile_cons_of_neg (by decide)] at hskip
      exact (List.cons.inj hskip).2
    exact hitem hvalue hv

theorem stray_of_readMembers (hafter : EndsAtWord after) (hitem : Strays after item) {first : Bool}
    {t rest : Text} {members : List (Text × Json)}
    (hread : Yields (Json.readMembers item first t) members rest) (h : Lost after t)
    (hfirst : first = true → Stray after t) : Stray after rest := by
  induction hn : t.length using Nat.strongRecOn generalizing t first members rest with
  | ind n ih =>
    subst hn
    -- where no member has been read yet the text is stray; later no word may follow a member
    have h : Stray after t := by
      cases first with
      | true => exact hfirst rfl
      | false => exact h.resolve_right (not_atWord_of_readMembers hread)
    obtain ⟨_, hread⟩ := hread
    obtain ⟨c, u, hskip, hstep⟩ := Json.of_readMembers hread
    have hstray := h.skipBlanks
    rw [hskip] at hstray
    rcases hstep with ⟨rfl, -, rfl⟩ | ⟨-, hcomma, v, member, mid, members, hv, hmember, hlt, htail, -⟩
    · exact hstray.of_plain (by decide)
    · have hstart : Stray after ('"' :: v) := by
        rw [← hv]
        cases first with
        | true => exact hstray
        | false =>
          obtain rfl := hcomma rfl
          exact (hstray.of_plain (by decide)).skipBlanks
      exact ih mid.length hlt htail (lost_of_readMember hafter hitem hmember hstart)
        (fun h => by cases h) rfl

/-! ## Values -/

/-- Readers of values stay out of step. -/
theorem strays_readValue (hafter : EndsAtWord after) (depth : Nat) :
    Strays after (Json.readValue depth) := by
  induction depth using Nat.strongRecOn with
  | ind depth ih =>
    intro t value rest hread h
    obtain ⟨_, hread⟩ := hread
    obtain ⟨c, u, hskip, hstep⟩ := Json.of_readValue hread
    have hstray := h.skipBlanks
    rw [hskip] at hstray
    rcases hstep with hplain | ⟨rfl, s, hs, -⟩ | ⟨rfl, inner, items, rfl, hitems, -⟩ |
      ⟨rfl, inner, members, rfl, hmembers, -⟩
    · exact .inl (hstray.of_afterPlain hplain)
    · rcases hstray.of_readString hafter hs with hrest | ⟨t', rfl, ht'⟩
      · exact .inr hrest
      · exact .inl (.char (by decide) (by decide) ht')
    · have hu := hstray.of_plain (by decide)
      exact .inl (stray_of_readItems (ih inner (by omega)) hitems hu)
    · have hu := hstray.of_plain (by decide)
      exact .inl (stray_of_readMembers hafter (ih inner (by omega)) hmembers (.inl hu) fun _ => hu)

end Folio.Options
