import Folio.Proofs.ObjectTexts
import Folio.Proofs.Scanning
import Folio.Render.Engine

/-!
# Options that take their values from fields

A call may take each of its options from a field of the site or the page. The values of fields come from
content files, so they are any texts at all. The main statement says that such values do no harm to each
other: each option is a string that its own value determines, or the call has no options.
-/

namespace Folio.Render

open Markup
open Options (IsWord received? Arrive memberText further object)

/-- An option that takes its value from a field. -/
structure Entry where
  key : Text
  scope : Scope
  field : Text

namespace Entry

def keyword (entry : Entry) : Text :=
  match entry.scope with
  | .site => Syntax.siteWord {}
  | .page => Syntax.pageWord {}

def placeholder (entry : Entry) : Text :=
  Syntax.start {} entry.keyword ++ entry.field ++ Syntax.closing {}

def value (entry : Entry) (fields : Fields) : Text := Engine.fieldText fields entry.scope entry.field

def text (entry : Entry) : Text := entry.key ++ ": ".toList ++ entry.placeholder

def member (entry : Entry) (fields : Fields) : Text × Text := (entry.key, entry.value fields)

end Entry

/-- The payload of a call with options that take their values from fields. -/
def payload (entries : List Entry) : Text := object (entries.map Entry.text)

variable {σ : Type} {engine : Engine σ} {fields : Fields}

theorem Entry.placeholder_isField {entry : Entry} (h : IsName entry.field) :
    Placeholder {} (.field entry.scope entry.field) entry.placeholder := by
  refine ⟨entry.keyword, .field entry.scope, entry.field, ?_, .field h, rfl⟩
  unfold Entry.keyword
  cases entry.scope with
  | site => exact .site
  | page => exact .page

theorem resolvePayload_text (hmarkup : engine.markup = {}) {content : Text} (hne : content ≠ [])
    (hbrace : '{' ∉ content.tail) (hlong : content ≠ ['{']) :
    engine.resolvePayload fields content = content := by
  rw [Engine.resolvePayload, substitute, hmarkup, scan_text hne hbrace hlong]
  exact List.append_nil content

theorem resolvePayload_entry (hmarkup : engine.markup = {}) (fields : Fields) {entry : Entry}
    (hword : IsWord entry.key) (hname : IsName entry.field) (c : Char) {before : Text}
    (hbefore : '{' ∉ before) (t : Text) :
    engine.resolvePayload fields (c :: (before ++ (entry.text ++ t))) =
      c :: (before ++ (memberText (entry.member fields) ++ engine.resolvePayload fields t)) := by
  -- the scanner takes all up to the placeholder as one literal text
  have hsplit : c :: (before ++ (entry.text ++ t)) =
      c :: (before ++ (entry.key ++ ": ".toList)) ++ (entry.placeholder ++ t) := by
    simp [Entry.text]
  have hbrace : '{' ∉ (c :: (before ++ (entry.key ++ ": ".toList))).tail := by
    intro hmem
    simp only [List.tail_cons, List.mem_append] at hmem
    rcases hmem with hmem | hmem | hmem
    · exact hbefore hmem
    · exact absurd (hword.2 _ hmem) (by decide)
    · exact absurd hmem (by decide)
  have hlong : c :: (before ++ (entry.key ++ ": ".toList)) ≠ ['{'] := by simp
  have hscan := scan_text_placeholder (by simp) hbrace hlong (Entry.placeholder_isField hname) t
  rw [Engine.resolvePayload, substitute, hmarkup, hsplit, hscan]
  rw [Engine.resolvePayload, substitute, hmarkup]
  simp [fill, memberText, Entry.member, Entry.value, Engine.fieldString]

theorem resolvePayload_further (hmarkup : engine.markup = {}) {entries : List Entry}
    (hwords : ∀ entry ∈ entries, IsWord entry.key) (hnames : ∀ entry ∈ entries, IsName entry.field) :
    engine.resolvePayload fields (further (entries.map Entry.text)) =
      further ((entries.map (Entry.member · fields)).map memberText) := by
  induction entries with
  | nil => exact resolvePayload_text hmarkup (by decide) (by decide) (by decide)
  | cons entry entries ih =>
    obtain ⟨hword, hwords⟩ := List.forall_mem_cons.1 hwords
    obtain ⟨hname, hnames⟩ := List.forall_mem_cons.1 hnames
    have hblank : '{' ∉ [' '] := by decide
    have hentry := resolvePayload_entry hmarkup fields hword hname ',' hblank
      (further (entries.map Entry.text))
    rw [ih hwords hnames] at hentry
    simpa [further] using hentry

theorem resolvePayload_payload (hmarkup : engine.markup = {}) {entries : List Entry} (hne : entries ≠ [])
    (hwords : ∀ entry ∈ entries, IsWord entry.key) (hnames : ∀ entry ∈ entries, IsName entry.field) :
    engine.resolvePayload fields (payload entries) =
      object ((entries.map (Entry.member · fields)).map memberText) := by
  cases entries with
  | nil => exact absurd rfl hne
  | cons entry entries =>
    obtain ⟨hword, hwords⟩ := List.forall_mem_cons.1 hwords
    obtain ⟨hname, hnames⟩ := List.forall_mem_cons.1 hnames
    have hentry := resolvePayload_entry hmarkup fields hword hname '{' List.not_mem_nil
      (further (entries.map Entry.text))
    rw [resolvePayload_further hmarkup hwords hnames] at hentry
    rw [payload, List.map_cons, Options.object_cons, List.map_cons, List.map_cons, Options.object_cons]
    exact hentry

/-- The options of a call are read from the object of the values of its fields. -/
theorem callOptions_eq_ofPayload (hmarkup : engine.markup = {}) {entries : List Entry}
    (hne : entries ≠ []) (hwords : ∀ entry ∈ entries, IsWord entry.key)
    (hnames : ∀ entry ∈ entries, IsName entry.field) :
    engine.callOptions fields (some (payload entries)) =
      Options.ofPayload (object ((entries.map (Entry.member · fields)).map memberText)) := by
  rw [← resolvePayload_payload hmarkup hne hwords hnames]
  rfl

/-- No value of a field reaches beyond its own option. -/
theorem callOptions_payload (hmarkup : engine.markup = {}) (fields : Fields) {entries : List Entry}
    (hne : entries ≠ []) (hkeys : (entries.map Entry.key).Nodup)
    (hwords : ∀ entry ∈ entries, IsWord entry.key) (hnames : ∀ entry ∈ entries, IsName entry.field) :
    let options := engine.callOptions fields (some (payload entries))
    (options = [] ∧ ∃ entry ∈ entries, received? (entry.value fields) = none) ∨
      ((options.map Prod.fst).Nodup ∧ (∀ option ∈ options, option.1 ∈ entries.map Entry.key) ∧
        ∀ entry ∈ entries, ∃ s, received? (entry.value fields) = some s ∧
          options.lookup entry.key = if s = [] then none else some (.string s)) := by
  intro options
  have hoptions : options = Options.ofPayload (object ((entries.map (Entry.member · fields)).map memberText)) :=
    callOptions_eq_ofPayload hmarkup hne hwords hnames
  rw [hoptions]
  have hne' : entries.map (Entry.member · fields) ≠ [] := by simpa using hne
  have hwords' : ∀ member ∈ entries.map (Entry.member · fields), IsWord member.1 := by
    intro member hmember
    obtain ⟨entry, hentry, rfl⟩ := List.mem_map.1 hmember
    exact hwords entry hentry
  have hkeys' : ((entries.map (Entry.member · fields)).map Prod.fst) = entries.map Entry.key := by
    rw [List.map_map]
    rfl
  -- one value that does not arrive costs the call all its options
  by_cases harrive : Arrive (entries.map (Entry.member · fields))
  · right
    have hnodup : ((entries.map (Entry.member · fields)).map Prod.fst).Nodup := hkeys' ▸ hkeys
    refine ⟨Options.nodup_keys_ofPayload_object hne' hwords' harrive hnodup, ?_, ?_⟩
    · rintro ⟨key, value⟩ hoption
      obtain ⟨hmem, -⟩ := (Options.mem_ofPayload_object hne' hwords' harrive hnodup).1 hoption
      rw [← hkeys', ← Options.keys_arrived]
      exact List.mem_map.2 ⟨_, hmem, rfl⟩
    · intro entry hentry
      have hmember : entry.member fields ∈ entries.map (Entry.member · fields) :=
        List.mem_map.2 ⟨entry, hentry, rfl⟩
      obtain ⟨s, hs⟩ := Option.ne_none_iff_exists'.1 (harrive _ hmember)
      exact ⟨s, hs, Options.lookup_ofPayload_object hne' hwords' harrive hnodup hmember hs⟩
  · left
    refine ⟨Options.ofPayload_object_eq_nil hne' hwords' harrive, ?_⟩
    simpa [Arrive, Entry.member] using harrive

/-- A value that ends in a backslash, one that tries to go on as a member of its own and one that tries to end
its string. The first two lose the options of their call, the last one arrives. -/
theorem callOptions_payload_hostile :
    let engine : Engine Unit := { files := default }
    let fields : Fields :=
      { page := .ofList
          [("x".toList, ['\\']), ("y".toList, ", admin: true, z: ".toList), ("z".toList, "\"\x7d, 'b\n".toList)] }
    let lost : List Entry := [⟨"title".toList, .page, "x".toList⟩, ⟨"text".toList, .page, "y".toList⟩]
    let kept : List Entry := [⟨"title".toList, .page, "z".toList⟩, ⟨"text".toList, .site, "z".toList⟩]
    let options := engine.callOptions fields (some (payload kept))
    (engine.markup = {} ∧ ∀ entries ∈ [lost, kept], entries ≠ [] ∧ (entries.map Entry.key).Nodup ∧
        (∀ entry ∈ entries, IsWord entry.key) ∧ ∀ entry ∈ entries, IsName entry.field) ∧
      engine.callOptions fields (some (payload lost)) = [] ∧
      ((options.map Prod.fst).Nodup ∧ (∀ option ∈ options, option.1 ∈ ["title".toList, "text".toList]) ∧
        options.lookup "title".toList = some (.string "\"\x7d, \"b ".toList) ∧
        options.lookup "text".toList = none) := by
  intro engine fields lost kept options
  have hmarkup : engine.markup = {} := rfl
  have hlost : lost ≠ [] ∧ (lost.map Entry.key).Nodup ∧ (∀ entry ∈ lost, IsWord entry.key) ∧
      ∀ entry ∈ lost, IsName entry.field := by decide
  have hkept : kept ≠ [] ∧ (kept.map Entry.key).Nodup ∧ (∀ entry ∈ kept, IsWord entry.key) ∧
      ∀ entry ∈ kept, IsName entry.field := by decide
  refine ⟨⟨hmarkup, ?_⟩, ?_, ?_⟩
  · intro entries hentries
    rcases List.mem_pair.1 hentries with rfl | rfl
    · exact hlost
    · exact hkept
  · obtain ⟨hne, hkeys, hwords, hnames⟩ := hlost
    rcases callOptions_payload hmarkup fields hne hkeys hwords hnames with ⟨hnil, -⟩ | ⟨-, -, hvalues⟩
    · exact hnil
    · obtain ⟨s, hs, -⟩ := hvalues _ List.mem_cons_self
      have hnone : received? ['\\'] = none := by decide +kernel
      exact absurd (hs.symm.trans hnone) (Option.some_ne_none s)
  · obtain ⟨hne, hkeys, hwords, hnames⟩ := hkept
    have hz : received? "\"\x7d, 'b\n".toList = some "\"\x7d, \"b ".toList := by decide +kernel
    have hempty : received? [] = some [] := by decide +kernel
    rcases callOptions_payload hmarkup fields hne hkeys hwords hnames with
      ⟨-, entry, hentry, hnone⟩ | ⟨hnodup, hmem, hvalues⟩
    · rcases List.mem_pair.1 hentry with rfl | rfl
      · exact absurd (hz.symm.trans hnone) (Option.some_ne_none _)
      · exact absurd (hempty.symm.trans hnone) (Option.some_ne_none _)
    · refine ⟨hnodup, hmem, ?_, ?_⟩
      · obtain ⟨s, hs, hlookup⟩ := hvalues ⟨"title".toList, .page, "z".toList⟩ List.mem_cons_self
        obtain rfl := Option.some.inj (hs.symm.trans hz)
        exact hlookup
      · obtain ⟨s, hs, hlookup⟩ := hvalues ⟨"text".toList, .site, "z".toList⟩ (by simp [kept])
        obtain rfl := Option.some.inj (hs.symm.trans hempty)
        exact hlookup

end Folio.Render
