import Folio.Proofs.FieldMaps
import Folio.Proofs.NamedLists
import Folio.Site

/-!
# Maps laid over one another

What the keys and the values of a map are follows from the operations that it comes from: a key stands where it
was first written, and its value is what was last written there. A map is determined by both, so that laws of
laying maps over one another hold for the order of the keys as well. The fields of a site are such an overlay.
-/

namespace Folio

namespace FieldMap

/-! ## Keys and values -/

theorem toList_eq_map_keys (m : FieldMap) :
    m.toList = m.keys.map fun key => (key, (m.get? key).getD []) := by
  rw [keys, List.map_map]
  refine (List.map_id m.toList).symm.trans (List.map_congr_left fun field hfield => ?_)
  have hget : m.get? field.1 = some field.2 := (NamedList.lookup_eq_some_iff_mem m.nodup_keys).2 hfield
  simp [hget]

/-- A map is given by its keys in their order and the value of each. -/
theorem ext_get? {m n : FieldMap} (hkeys : m.keys = n.keys) (hget : ∀ key, m.get? key = n.get? key) :
    m = n := by
  apply ext
  rw [toList_eq_map_keys m, toList_eq_map_keys n, hkeys]
  simp only [hget]

theorem lookup_reverse_toList (m : FieldMap) (key : Text) : m.toList.reverse.lookup key = m.get? key := by
  have hnodup : (m.toList.reverse.map Prod.fst).Nodup :=
    ((List.reverse_perm m.toList).map Prod.fst).nodup_iff.2 m.nodup_keys
  apply Option.ext
  intro value
  rw [get?, NamedList.lookup_eq_some_iff_mem hnodup, NamedList.lookup_eq_some_iff_mem m.nodup_keys,
    List.mem_reverse]

theorem keys_merge (m n : FieldMap) : (m.merge n).keys = (m.keys ++ n.keys).eraseDups :=
  keys_insertAll m n.toList

theorem get?_merge (m n : FieldMap) (key : Text) : (m.merge n).get? key = (n.get? key).or (m.get? key) := by
  rw [merge, get?_insertAll, lookup_reverse_toList]

theorem keys_mapValues (f : Text → Text) (m : FieldMap) : (m.mapValues f).keys = m.keys := by
  simp [keys, mapValues]

theorem get?_mapValues (f : Text → Text) (m : FieldMap) (key : Text) :
    (m.mapValues f).get? key = (m.get? key).map f := by
  change (m.toList.map fun field => (field.1, f field.2)).lookup key = (m.toList.lookup key).map f
  induction m.toList with
  | nil => rfl
  | cons field fields ih =>
    rw [List.map_cons, List.lookup_cons, List.lookup_cons, ih]
    cases key == field.1 <;> rfl

/-! ## Merging -/

theorem merge_empty (m : FieldMap) : m.merge empty = m := rfl

theorem empty_merge (m : FieldMap) : empty.merge m = m := ofList_toList m

theorem merge_self (m : FieldMap) : m.merge m = m := by
  apply ext_get?
  · have hnone : m.keys.removeAll m.keys = [] := by simp [List.removeAll]
    rw [keys_merge, List.eraseDups_append, hnone, List.eraseDups_nil, List.append_nil]
    exact eraseDups_of_nodup m.nodup_keys
  · intro key
    rw [get?_merge, Option.or_self]

theorem merge_insert (m n : FieldMap) (key value : Text) :
    m.merge (n.insert key value) = (m.merge n).insert key value := by
  apply ext_get?
  · have hmem : key ∈ (m.merge n).keys ↔ key ∈ m.keys ++ n.keys := by
      rw [keys_merge, List.mem_eraseDups]
    rw [keys_insert, keys_merge, keys_insert]
    simp only [hmem]
    by_cases hn : key ∈ n.keys
    · rw [if_pos hn, if_pos (List.mem_append_right _ hn), keys_merge]
    · rw [if_neg hn, ← List.append_assoc, eraseDups_append_singleton, keys_merge]
  · intro name
    rw [get?_merge, get?_insert, get?_insert, get?_merge]
    split <;> rfl

theorem merge_insertAll (m n : FieldMap) (fields : List (Text × Text)) :
    m.merge (n.insertAll fields) = (m.merge n).insertAll fields := by
  induction fields generalizing n with
  | nil => rfl
  | cons field fields ih =>
    change m.merge ((n.insert field.1 field.2).insertAll fields) = _
    rw [ih, merge_insert]
    rfl

theorem merge_assoc (l m n : FieldMap) : (l.merge m).merge n = l.merge (m.merge n) :=
  (merge_insertAll l m n.toList).symm

/-! ## Operations one after another -/

inductive Operation where
  | insert (key value : Text)
  | merge (other : FieldMap)
  | mapValues (f : Text → Text)

namespace Operation

def apply (m : FieldMap) : Operation → FieldMap
  | .insert key value => m.insert key value
  | .merge other => m.merge other
  | .mapValues f => m.mapValues f

def keys : Operation → List Text
  | .insert key _ => [key]
  | .merge other => other.keys
  | .mapValues _ => []

def write? (name : Text) : Operation → Option Text
  | .insert key value => if name = key then some value else none
  | .merge other => other.get? name
  | .mapValues _ => none

def change : Operation → Text → Text
  | .mapValues f, value => f value
  | _, value => value

theorem keys_apply (m : FieldMap) (operation : Operation) :
    (operation.apply m).keys = (m.keys ++ operation.keys).eraseDups := by
  cases operation with
  | insert key value => exact keys_insertAll m [(key, value)]
  | merge other => exact keys_merge m other
  | mapValues f =>
    rw [apply, keys_mapValues, keys, List.append_nil]
    exact (eraseDups_of_nodup m.nodup_keys).symm

theorem get?_apply (m : FieldMap) (operation : Operation) (name : Text) :
    (operation.apply m).get? name = (operation.write? name).or ((m.get? name).map operation.change) := by
  have hkept : (m.get? name).map id = m.get? name := Option.map_id_apply
  cases operation with
  | insert key value =>
    rw [apply, get?_insert, write?]
    split
    · rfl
    · exact hkept.symm
  | merge other => exact (get?_merge m other name).trans (congrArg _ hkept.symm)
  | mapValues f => exact get?_mapValues f m name

end Operation

def run (operations : List Operation) : FieldMap := operations.foldl Operation.apply empty

/-- A value was written to a key, and no later operation wrote to the key; what they made of it is left. -/
def LastWritten (operations : List Operation) (key value : Text) : Prop :=
  ∃ before operation after written, operations = before ++ operation :: after ∧
    operation.write? key = some written ∧ (∀ later ∈ after, later.write? key = none) ∧
    value = after.foldl (fun kept later => later.change kept) written

theorem run_append_singleton (operations : List Operation) (last : Operation) :
    run (operations ++ [last]) = last.apply (run operations) := by
  rw [run, List.foldl_concat, run]

theorem lastWritten_append_singleton_iff {operations : List Operation} {last : Operation}
    {key value : Text} : LastWritten (operations ++ [last]) key value ↔
      last.write? key = some value ∨
        last.write? key = none ∧ ∃ kept, LastWritten operations key kept ∧ last.change kept = value := by
  constructor
  · rintro ⟨before, operation, after, written, hsplit, hwrite, hafter, rfl⟩
    -- either the last operation wrote the value, or it came after the one that did
    rcases List.eq_nil_or_concat after with rfl | ⟨after, final, rfl⟩
    · obtain ⟨-, hlast⟩ := List.append_inj' hsplit rfl
      cases hlast
      exact .inl hwrite
    · rw [List.concat_eq_append] at hsplit hafter ⊢
      rw [← List.cons_append, ← List.append_assoc] at hsplit
      obtain ⟨hoperations, hlast⟩ := List.append_inj' hsplit rfl
      cases hlast
      rw [List.foldl_concat]
      refine .inr ⟨hafter last (by simp), _, ⟨before, operation, after, written, hoperations, hwrite, ?_, rfl⟩,
        rfl⟩
      exact fun later hlater => hafter later (List.mem_append_left _ hlater)
  · rintro (hwrite | ⟨hnone, -, ⟨before, operation, after, written, rfl, hwrite, hafter, rfl⟩, rfl⟩)
    · exact ⟨operations, last, [], value, rfl, hwrite, List.forall_mem_nil _, rfl⟩
    · refine ⟨before, operation, after ++ [last], written, by simp, hwrite, ?_, ?_⟩
      · intro later hlater
        rcases List.mem_append.1 hlater with hlater | hlater
        · exact hafter later hlater
        · rwa [List.mem_singleton.1 hlater]
      · rw [List.foldl_concat]

theorem keys_run (operations : List Operation) :
    (run operations).keys = (operations.flatMap Operation.keys).eraseDups := by
  induction operations using List.reverseRecOn with
  | nil => rfl
  | append_singleton operations last ih =>
    rw [run_append_singleton, Operation.keys_apply, ih, List.flatMap_append, List.flatMap_singleton,
      eraseDups_eraseDups_append]

theorem get?_run_eq_some_iff {operations : List Operation} {key value : Text} :
    (run operations).get? key = some value ↔ LastWritten operations key value := by
  induction operations using List.reverseRecOn generalizing value with
  | nil =>
    refine iff_of_false nofun ?_
    rintro ⟨before, operation, after, written, hsplit, -⟩
    simp at hsplit
  | append_singleton operations last ih =>
    rw [run_append_singleton, Operation.get?_apply, Option.or_eq_some_iff, Option.map_eq_some_iff,
      lastWritten_append_singleton_iff]
    simp only [ih]

end FieldMap

/-! ## The fields of a site -/

namespace Site

/-- A value that a field of a site has before its settings are read: the name in the configuration, and the
theme whose name is the least. -/
inductive IsDefault (files : FileTree) (config : Config) : Text → Text → Prop
  | name : IsDefault files config nameKey config.site.name
  | theme {theme : Text} (hmem : theme ∈ files.subdirectories config.site.themes)
      (hleast : ∀ other ∈ files.subdirectories config.site.themes, theme ≤ other) :
    IsDefault files config themeKey theme

/-- The fields of the settings file, of which a site without the file has none. -/
def HasSettings (files : FileTree) (config : Config) (settings : FieldMap) : Prop :=
  if files.isFile config.site.settings then
    Content.load files config.content config.site.settings = .ok settings
  else settings = .empty

variable {files : FileTree} {config : Config} {fields : FieldMap} {key value : Text}

theorem firstTheme?_eq_some_iff {themes : Path} {theme : Text} : firstTheme? files themes = some theme ↔
    theme ∈ files.subdirectories themes ∧ ∀ other ∈ files.subdirectories themes, theme ≤ other := by
  rw [firstTheme?, NamedList.name_head?_ofList_eq_some_iff, List.map_map]
  simp only [Function.comp_def, List.map_id']

theorem get?_defaults_eq_some_iff :
    (defaults files config).get? key = some value ↔ IsDefault files config key value := by
  have hname : (FieldMap.empty.insert nameKey config.site.name).get? key = some value ↔
      key = nameKey ∧ config.site.name = value := by
    rw [FieldMap.get?_insert]
    split
    · rename_i hkey
      simp [hkey]
    · rename_i hkey
      exact iff_of_false nofun fun h => hkey h.1
  have hiff : IsDefault files config key value ↔ key = nameKey ∧ config.site.name = value ∨
      key = themeKey ∧ firstTheme? files config.site.themes = some value := by
    constructor
    · rintro (_ | ⟨hmem, hleast⟩)
      · exact .inl ⟨rfl, rfl⟩
      · exact .inr ⟨rfl, firstTheme?_eq_some_iff.2 ⟨hmem, hleast⟩⟩
    · rintro (⟨rfl, rfl⟩ | ⟨rfl, htheme⟩)
      · exact .name
      · obtain ⟨hmem, hleast⟩ := firstTheme?_eq_some_iff.1 htheme
        exact .theme hmem hleast
  rw [hiff, defaults]
  cases htheme : firstTheme? files config.site.themes with
  | none => simp [hname]
  | some theme =>
    have hne : themeKey ≠ nameKey := by decide
    rw [FieldMap.get?_insert]
    split
    · rename_i hkey
      simp [hkey, hne]
    · rename_i hkey
      simp [hname, hkey]

theorem load_eq_ok_iff : load files config = .ok fields ↔
    ∃ settings, HasSettings files config settings ∧ fields = (defaults files config).merge settings := by
  unfold load HasSettings
  split
  · cases Content.load files config.content config.site.settings with
    | error error => exact iff_of_false nofun nofun
    | ok settings =>
      simp only [Except.map, Except.ok.injEq]
      exact ⟨fun h => ⟨settings, rfl, h.symm⟩, fun ⟨_, hsettings, hfields⟩ => hsettings ▸ hfields.symm⟩
  · simp only [Except.ok.injEq, exists_eq_left, FieldMap.merge_empty]
    exact eq_comm

theorem get?_load (h : load files config = .ok fields) : ∃ settings, HasSettings files config settings ∧
    (∀ key value, fields.get? key = some value ↔ settings.get? key = some value ∨
      settings.get? key = none ∧ IsDefault files config key value) ∧
    ∃ name, fields.get? nameKey = some name := by
  obtain ⟨settings, hsettings, rfl⟩ := load_eq_ok_iff.1 h
  have hvalues : ∀ key value, ((defaults files config).merge settings).get? key = some value ↔
      settings.get? key = some value ∨
        settings.get? key = none ∧ IsDefault files config key value := by
    intro key value
    rw [FieldMap.get?_merge, Option.or_eq_some_iff, get?_defaults_eq_some_iff]
  refine ⟨settings, hsettings, hvalues, ?_⟩
  cases hname : settings.get? nameKey with
  | some name => exact ⟨name, (hvalues nameKey name).2 (.inl hname)⟩
  | none => exact ⟨config.site.name, (hvalues nameKey _).2 (.inr ⟨hname, .name⟩)⟩

end Site

namespace FieldMap

/-- After any operations the keys of a map stand in the order in which they were first written, and have the
values that were last written to them. Laying maps over one another is associative and idempotent, with the empty
map as its identity. A site has the values of its settings, and where these have none its defaults. -/
theorem overlay_laws :
    (∀ operations : List Operation,
      FirstOrder (operations.flatMap Operation.keys) (run operations).keys ∧
        ∀ key value, (run operations).get? key = some value ↔ LastWritten operations key value) ∧
    ((∀ l m n : FieldMap, (l.merge m).merge n = l.merge (m.merge n)) ∧ (∀ m : FieldMap, m.merge m = m) ∧
      ∀ m : FieldMap, m.merge empty = m ∧ empty.merge m = m) ∧
    ∀ (files : FileTree) (config : Config) (fields : FieldMap), Site.load files config = .ok fields →
      ∃ settings, Site.HasSettings files config settings ∧
        (∀ key value, fields.get? key = some value ↔ settings.get? key = some value ∨
          settings.get? key = none ∧ Site.IsDefault files config key value) ∧
        ∃ name, fields.get? Site.nameKey = some name := by
  refine ⟨fun operations => ⟨?_, fun key value => get?_run_eq_some_iff⟩,
    ⟨merge_assoc, merge_self, fun m => ⟨merge_empty m, empty_merge m⟩⟩, fun files config fields => Site.get?_load⟩
  rw [keys_run]
  exact firstOrder_eraseDups _

/-- A site whose settings give it a name and leave it the first one of two themes. -/
theorem overlay_laws_themes :
    let config : Config := {}
    let files : FileTree :=
      { root := .directory
          [("shared".toList, .directory
              [("site.txt".toList, .file (some "sitename: Acme\n-\nfooter: Since 1999".toList))]),
            ("themes".toList, .directory
              [("zen".toList, .directory []), ("aaa.txt".toList, .file none), ("basic".toList, .directory [])])]
        workingDirectory := ['/'] }
    let fields : FieldMap := .ofList
      [("sitename".toList, "Acme".toList), ("theme".toList, "basic".toList), ("footer".toList, "Since 1999".toList)]
    Site.load files config = .ok fields ∧
      ∃ settings, Site.HasSettings files config settings ∧
        (∀ key value, fields.get? key = some value ↔ settings.get? key = some value ∨
          settings.get? key = none ∧ Site.IsDefault files config key value) ∧
        ∃ name, fields.get? Site.nameKey = some name := by
  intro config files fields
  have hload : Site.load files config = .ok fields := by decide +kernel
  exact ⟨hload, overlay_laws.2.2 files config fields hload⟩

end FieldMap

end Folio
