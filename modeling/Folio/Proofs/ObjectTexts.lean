import Folio.Proofs.NamedLists
import Folio.Proofs.StrayReading

/-!
# Objects of strings in the notation of options

What is read from an object whose names are bare words and whose values are quoted texts. Each value
either arrives as a string, which depends on nothing else, or breaks out of its quotes. One value that
breaks out is enough for the whole object to be rejected, whatever the other values are.
-/

namespace Folio.Options

open Json (Chars Yields separator)
open Text (IsBlanks)

/-- An object in the notation of options, by the texts of its members. -/
def object (members : List Text) : Text := '{' :: Text.join ", ".toList members ++ ['}']

def memberText (member : Text × Text) : Text := member.1 ++ ": ".toList ++ quoted member.2

def further (members : List Text) : Text := members.flatMap (fun member => ", ".toList ++ member) ++ ['}']

theorem object_cons (member : Text) (members : List Text) :
    object (member :: members) = '{' :: (member ++ further members) := by
  induction members generalizing member with
  | nil => rfl
  | cons next members ih =>
    have hnext : Text.join ", ".toList (next :: members) ++ ['}'] = next ++ further members :=
      (List.cons.inj (ih next)).2
    simp only [object, Text.join, further, List.flatMap_cons, List.append_assoc, List.cons_append]
    rw [hnext, further]

theorem not_isBlank_object (members : List Text) : Text.isBlank (object members) = false := by
  rw [Text.isBlank, object, List.cons_append, List.all_cons]
  rfl

/-! ## In JSON -/

theorem requote_append (t u : Text) : requote (t ++ u) = requote t ++ requote u := List.map_append

theorem requote_eq_self {t : Text} (h : ∀ c ∈ t, c ≠ '\'') : requote t = t := by
  induction t with
  | nil => rfl
  | cons c t ih =>
    obtain ⟨hc, ht⟩ := List.forall_mem_cons.1 h
    rw [requote, List.map_cons, if_neg hc]
    exact congrArg (List.cons c) (ih ht)

theorem toJsonText_member {c : Char} (hc : c = '{' ∨ c = ',') {before : Text}
    (hbefore : IsBlanks before) {key : Text} (hkey : IsWord key) (value t : Text) :
    toJsonText (c :: (before ++ (memberText (key, value) ++ t))) =
      c :: '"' :: (key ++ '"' :: ':' :: ' ' :: '"' :: (written value ++ '"' :: toJsonText t)) := by
  have hquote : ∀ d ∈ c :: (before ++ (key ++ ": ".toList)), d ≠ '\'' := by
    rintro d hd rfl
    simp only [List.mem_cons, List.mem_append] at hd
    rcases hd with rfl | hd | hd | hd
    · exact absurd hc (by decide)
    · exact absurd (hbefore _ hd) (by decide)
    · exact absurd (hkey.2 _ hd) (by decide)
    · exact absurd hd (by decide)
  have hrequote : requote (c :: (before ++ (memberText (key, value) ++ t))) =
      c :: (before ++ (key ++ ": ".toList)) ++ '"' :: (shielded value ++ '"' :: requote t) := by
    have hsplit : c :: (before ++ (memberText (key, value) ++ t)) =
        c :: (before ++ (key ++ ": ".toList)) ++ (['"'] ++ escape value ++ ['"'] ++ t) := by
      simp [memberText, quoted]
    rw [hsplit, requote_append, requote_eq_self hquote, requote_append, requote_append, requote_append]
    simp [shielded, requote_eq_self]
  -- the quote that opens the value also ends the search for a name, so the rest is rewritten by itself
  have hname : bareName? (before ++ (key ++ ": ".toList)) = some (key, [' ']) :=
    bareName?_eq_some_iff.2 ⟨before, [], hbefore, hkey, by simp [IsBlanks], rfl⟩
  have hblank : quoteBareNames [' '] = [' '] := by
    rw [quoteBareNames_skip fun h => absurd h (by decide), quoteBareNames]
  change quoteBareNames (requote _) = _
  rw [hrequote, quoteBareNames_append_quote, quoteBareNames_append_quote, quoteBareNames_name hc hname,
    hblank]
  simp [written, toJsonText, requote]

def furtherJson (members : List (Text × Text)) : Text := toJsonText (further (members.map memberText))

theorem furtherJson_nil : furtherJson [] = ['}'] := by
  change quoteBareNames ['}'] = _
  rw [quoteBareNames_skip fun h => absurd h (by decide), quoteBareNames]

def membersJson (member : Text × Text) (members : List (Text × Text)) : Text :=
  '"' :: (member.1 ++ '"' :: ':' :: ' ' :: '"' :: (written member.2 ++ '"' :: furtherJson members))

theorem furtherJson_cons {member : Text × Text} (h : IsWord member.1) (members : List (Text × Text)) :
    furtherJson (member :: members) = separator false ++ membersJson member members := by
  have hfurther : further ((member :: members).map memberText) =
      ',' :: ([' '] ++ (memberText member ++ further (members.map memberText))) := by
    simp [further]
  have hblank : IsBlanks [' '] := by
    intro c hc
    rw [List.mem_singleton.1 hc]
    decide
  rw [furtherJson, hfurther]
  exact toJsonText_member (.inr rfl) hblank h member.2 _

theorem toJsonText_object {member : Text × Text} (h : IsWord member.1) (members : List (Text × Text)) :
    toJsonText (object ((member :: members).map memberText)) = '{' :: membersJson member members := by
  rw [List.map_cons, object_cons]
  have hblanks : IsBlanks [] := by simp [IsBlanks]
  exact toJsonText_member (.inl rfl) hblanks h member.2 _

/-! ## Reading -/

theorem endsAtWord_furtherJson {members : List (Text × Text)}
    (h : ∀ member ∈ members, IsWord member.1) : EndsAtWord (furtherJson members) := by
  intro u s rest hu heq
  cases members with
  | nil =>
    rw [furtherJson_nil] at heq
    cases u with
    | nil => cases heq
    | cons c u =>
      have htail := (List.cons.inj heq).2
      exact absurd (List.append_eq_nil_iff.1 htail.symm).2 (by simp)
  | cons member members =>
    -- the string that starts behind a value ends at the name that follows
    have hword := h member List.mem_cons_self
    rw [furtherJson_cons hword] at heq
    have hread := Json.yields_readString_iff.2 ⟨u, hu, heq⟩
    have hcomma : Chars [','] [','] := .plain (by decide) (by decide) (by decide) .nil
    obtain ⟨-, rfl⟩ := hread.unique (Json.readString_of_chars hcomma _)
    exact hword.atWord _

def Arrive (members : List (Text × Text)) : Prop := ∀ member ∈ members, received? member.2 ≠ none

def arrived (members : List (Text × Text)) : List (Text × Json) :=
  members.map fun member => (member.1, .string ((received? member.2).getD []))

theorem readMember_received {member : Text × Text} (hword : IsWord member.1) {s : Text}
    (h : received? member.2 = some s) (depth : Nat) (members : List (Text × Text)) :
    Yields (Json.readMember (Json.readValue depth) (membersJson member members))
      (member.1, .string s) (furtherJson members) := by
  apply Json.yields_readMember
  · exact Json.readString_of_chars (IsWord.chars hword.2) _
  · exact Json.skipBlanks_cons (by decide)
  · exact (Json.yields_readValue_iff .string rfl).2
      ⟨s, Json.readString_of_chars (received?_eq_some_iff.1 h) _, rfl⟩

theorem readMember_lost {member : Text × Text} (hword : IsWord member.1)
    {members : List (Text × Text)} (hmembers : ∀ member ∈ members, IsWord member.1)
    (h : received? member.2 = none) {depth : Nat} {read : Text × Json} {rest : Text}
    (hread : Yields (Json.readMember (Json.readValue depth) (membersJson member members)) read rest) :
    Lost (furtherJson members) rest := by
  obtain ⟨_, hread⟩ := hread
  obtain ⟨name, mid, u, value, hname, hskip, hvalue, -⟩ := Json.of_readMember hread
  have hname' := Json.readString_of_chars (IsWord.chars hword.2)
    (':' :: ' ' :: '"' :: (written member.2 ++ '"' :: furtherJson members))
  obtain ⟨-, rfl⟩ := hname.unique hname'
  obtain rfl := (List.cons.inj (hskip.symm.trans (Json.skipBlanks_cons (by decide)))).2
  obtain ⟨s, hs, -⟩ := (Json.yields_readValue_iff .string rfl).1 hvalue
  obtain ⟨v, hv, heq⟩ := Json.yields_readString_iff.1 hs
  have hafter := endsAtWord_furtherJson hmembers
  rcases (shown_written member.2 _).rest_of_chars hafter hv heq with hrest | hlost
  · rw [hrest] at heq
    rw [← List.append_cancel_right heq] at hv
    rw [received?_eq_some_iff.2 hv] at h
    cases h
  · exact hlost

theorem readMembers_arrived {member : Text × Text} {members : List (Text × Text)}
    (hwords : ∀ m ∈ member :: members, IsWord m.1) (harrive : Arrive (member :: members)) (depth : Nat)
    (first : Bool) :
    Yields (Json.readMembers (Json.readValue depth) first (separator first ++ membersJson member members))
      (arrived (member :: members)) [] := by
  induction members generalizing member first with
  | nil =>
    obtain ⟨s, hs⟩ := Option.ne_none_iff_exists'.1 (harrive member List.mem_cons_self)
    have hmember := readMember_received (hwords member List.mem_cons_self) hs depth []
    apply Json.yields_readMembers_iff.2
    refine ⟨_, _, [], hmember, ?_, by simp [arrived, hs]⟩
    rw [furtherJson_nil]
    exact Json.yields_readMembers_close false rfl
  | cons next members ih =>
    obtain ⟨s, hs⟩ := Option.ne_none_iff_exists'.1 (harrive member List.mem_cons_self)
    have hmember := readMember_received (hwords member List.mem_cons_self) hs depth (next :: members)
    have hrest := ih (fun m hm => hwords m (List.mem_cons_of_mem _ hm))
      (fun m hm => harrive m (List.mem_cons_of_mem _ hm)) false
    apply Json.yields_readMembers_iff.2
    refine ⟨_, _, arrived (next :: members), hmember, ?_, by simp [arrived, hs]⟩
    rw [furtherJson_cons (hwords next (by simp))]
    exact hrest

theorem readMembers_lost_first {member : Text × Text} {members : List (Text × Text)}
    (hwords : ∀ m ∈ member :: members, IsWord m.1) (hlost : received? member.2 = none) {depth : Nat}
    {first : Bool} {read : List (Text × Json)} {rest : Text}
    (hread : Yields
      (Json.readMembers (Json.readValue depth) first (separator first ++ membersJson member members))
      read rest) : ∃ after, Stray after rest := by
  obtain ⟨hword, hwords⟩ := List.forall_mem_cons.1 hwords
  obtain ⟨m, mid, tail, hmember, htail, -⟩ := Json.yields_readMembers_iff.1 hread
  have hafter := endsAtWord_furtherJson hwords
  have hmid := readMember_lost hword hwords hlost hmember
  exact ⟨_, stray_of_readMembers hafter (strays_readValue hafter depth) htail hmid fun h => by cases h⟩

theorem readMembers_lost {member : Text × Text} {members : List (Text × Text)}
    (hwords : ∀ m ∈ member :: members, IsWord m.1) (hlost : ¬ Arrive (member :: members)) {depth : Nat}
    {first : Bool} {read : List (Text × Json)} {rest : Text}
    (hread : Yields
      (Json.readMembers (Json.readValue depth) first (separator first ++ membersJson member members))
      read rest) : ∃ after, Stray after rest := by
  induction members generalizing member first read with
  | nil =>
    apply readMembers_lost_first hwords _ hread
    apply Decidable.byContradiction
    intro hs
    exact hlost fun m hm => List.mem_singleton.1 hm ▸ hs
  | cons next members ih =>
    cases hs : received? member.2 with
    | none => exact readMembers_lost_first hwords hs hread
    | some s =>
      obtain ⟨m, mid, tail, hmember, htail, -⟩ := Json.yields_readMembers_iff.1 hread
      obtain ⟨hword, hwords⟩ := List.forall_mem_cons.1 hwords
      -- this member arrives, so the reader goes on where the next one starts
      obtain ⟨-, rfl⟩ := hmember.unique (readMember_received hword hs depth (next :: members))
      rw [furtherJson_cons (hwords next List.mem_cons_self)] at htail
      apply ih hwords _ htail
      intro harrive
      apply hlost
      intro m hm
      rcases List.mem_cons.1 hm with rfl | hm
      · rw [hs]
        exact Option.some_ne_none s
      · exact harrive m hm

/-! ## Whole objects -/

variable {members : List (Text × Text)}

theorem read_object (hne : members ≠ []) (hwords : ∀ m ∈ members, IsWord m.1) (harrive : Arrive members) :
    Json.read (toJsonText (object (members.map memberText))) =
      .ok (.object (NamedList.ofList (arrived members))) := by
  cases members with
  | nil => exact absurd rfl hne
  | cons member members =>
    have hmembers := readMembers_arrived hwords harrive 126 true
    rw [toJsonText_object (hwords member List.mem_cons_self)]
    apply Json.read_eq_ok_iff.2
    exact ⟨[], (Json.yields_readValue_iff .object rfl).2 ⟨_, hmembers, rfl⟩, rfl⟩

theorem not_read_object (hne : members ≠ []) (hwords : ∀ m ∈ members, IsWord m.1)
    (hlost : ¬ Arrive members) (json : Json) :
    Json.read (toJsonText (object (members.map memberText))) ≠ .ok json := by
  cases members with
  | nil => exact absurd rfl hne
  | cons member members =>
    rw [toJsonText_object (hwords member List.mem_cons_self)]
    intro hread
    obtain ⟨rest, hvalue, hend⟩ := Json.read_eq_ok_iff.1 hread
    obtain ⟨read, hmembers, -⟩ := (Json.yields_readValue_iff .object rfl).1 hvalue
    obtain ⟨after, hstray⟩ : ∃ after, Stray after rest := by
      apply readMembers_lost hwords hlost
      exact hmembers
    exact hstray.skipBlanks_ne_nil hend

theorem ofPayload_object (hne : members ≠ []) (hwords : ∀ m ∈ members, IsWord m.1)
    (harrive : Arrive members) : ofPayload (object (members.map memberText)) =
      (NamedList.ofList (arrived members)).filter fun member => !member.2.isEmptyString := by
  rw [ofPayload, decode, if_neg (by simp [not_isBlank_object]), read_object hne hwords harrive]

theorem ofPayload_object_eq_nil (hne : members ≠ []) (hwords : ∀ m ∈ members, IsWord m.1)
    (hlost : ¬ Arrive members) : ofPayload (object (members.map memberText)) = [] := by
  rw [ofPayload, decode, if_neg (by simp [not_isBlank_object])]
  cases hread : Json.read (toJsonText (object (members.map memberText))) with
  | error error => rfl
  | ok json => exact absurd hread (not_read_object hne hwords hlost json)

theorem keys_arrived (members : List (Text × Text)) :
    (arrived members).map Prod.fst = members.map Prod.fst := by
  simp [arrived, Function.comp_def]

section

variable (hne : members ≠ []) (hwords : ∀ m ∈ members, IsWord m.1) (harrive : Arrive members)
  (hnames : (members.map Prod.fst).Nodup)

include hnames in
theorem perm_ofList_arrived : (NamedList.ofList (arrived members)).Perm (arrived members) := by
  apply NamedList.perm_ofList
  rwa [keys_arrived]

include hne hwords harrive hnames in
theorem nodup_keys_ofPayload_object :
    ((ofPayload (object (members.map memberText))).map Prod.fst).Nodup := by
  rw [ofPayload_object hne hwords harrive]
  apply (List.filter_sublist.map Prod.fst).nodup
  apply ((perm_ofList_arrived hnames).map Prod.fst).nodup_iff.2
  rwa [keys_arrived]

include hne hwords harrive hnames in
theorem mem_ofPayload_object {name : Text} {value : Json} :
    (name, value) ∈ ofPayload (object (members.map memberText)) ↔
      (name, value) ∈ arrived members ∧ value.isEmptyString = false := by
  rw [ofPayload_object hne hwords harrive, List.mem_filter, (perm_ofList_arrived hnames).mem_iff]
  simp

include hne hwords harrive hnames in
theorem lookup_ofPayload_object {member : Text × Text} (hmember : member ∈ members) {s : Text}
    (hs : received? member.2 = some s) : (ofPayload (object (members.map memberText))).lookup member.1 =
      if s = [] then none else some (.string s) := by
  have hnodup := nodup_keys_ofPayload_object hne hwords harrive hnames
  have hmem : (member.1, Json.string s) ∈ arrived members :=
    List.mem_map.2 ⟨member, hmember, by rw [hs, Option.getD_some]⟩
  split
  · rename_i hempty
    cases hlookup : (ofPayload (object (members.map memberText))).lookup member.1 with
    | none => rfl
    | some value =>
      -- the only value that was written under the name is the empty string, which is dropped
      have hvalue := (NamedList.lookup_eq_some_iff_mem hnodup).1 hlookup
      obtain ⟨hvalue, hfull⟩ := (mem_ofPayload_object hne hwords harrive hnames).1 hvalue
      have hkeys : ((arrived members).map Prod.fst).Nodup := by rwa [keys_arrived]
      have hfirst := (NamedList.lookup_eq_some_iff_mem hkeys).2 hmem
      rw [(NamedList.lookup_eq_some_iff_mem hkeys).2 hvalue, hempty] at hfirst
      obtain rfl := Option.some.inj hfirst
      cases hfull
  · rename_i hfull
    apply (NamedList.lookup_eq_some_iff_mem hnodup).2
    apply (mem_ofPayload_object hne hwords harrive hnames).2
    refine ⟨hmem, ?_⟩
    cases s with
    | nil => exact absurd rfl hfull
    | cons c s => rfl

end

end Folio.Options
