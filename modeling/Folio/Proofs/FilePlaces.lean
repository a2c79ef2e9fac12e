import Folio.Proofs.CanonicalPaths
import Mathlib.Logic.Function.Basic

/-!
# Places in a file tree

The place of a node is the names that lead to it from the root. A path walks from place to place, part by
part, and what stands where it ends is looked up from the root. So a path may be spelled in many ways, and
its canonical form is the one that spells the place.
-/

namespace Folio

namespace FileTree

structure Place where
  names : List Text
  plain : ∀ name ∈ names, Path.isIdlePart name = false ∧ '/' ∉ name
deriving DecidableEq

namespace Place

def path (place : Place) : Path := '/' :: Text.join ['/'] place.names

theorem names_path (place : Place) : place.path.names = place.names := by
  have hparts : place.path.parts = [] :: Text.splitAtChar '/' (Text.join ['/'] place.names) :=
    Text.splitAtChar_append_sep '/' [] _
  have hplain : place.names.filter (fun name => !Path.isIdlePart name) = place.names :=
    List.filter_eq_self.2 fun name hname => by simp [(place.plain name hname).1]
  rw [Path.names, hparts, List.filter_cons_of_neg (by decide)]
  by_cases hnil : place.names = []
  · rw [hnil]
    rfl
  · rw [Text.splitAtChar_join hnil fun name hname => (place.plain name hname).2]
    exact hplain

theorem path_injective : Function.Injective path := by
  intro place place' h
  have hnames : place.names = place'.names := by rw [← names_path place, h, names_path place']
  cases place
  cases place'
  congr

end Place

end FileTree

namespace Node

def at? : Node → List Text → Option Node
  | node, [] => some node
  | .directory entries, name :: names => (entries.lookup name).bind fun next => next.at? names
  | .file _, _ :: _ => none

def IsDirectoryAt (root : Node) (place : List Text) : Prop :=
  ∃ entries, root.at? place = some (.directory entries)

/-- Parts of a path lead from one place to another. Only a directory is left for another place, and nothing is
above the root. -/
inductive Walk (root : Node) : List Text → List Text → List Text → Prop where
  | stop {place : List Text} : Walk root place [] place
  | idle {place parts target : List Text} {part : Text} : root.IsDirectoryAt place →
    part = [] ∨ part = ['.'] → Walk root place parts target → Walk root place (part :: parts) target
  | up {place parts target : List Text} : root.IsDirectoryAt place →
    Walk root place.dropLast parts target → Walk root place (['.', '.'] :: parts) target
  | down {place parts target : List Text} {name : Text} {next : Node} : IsName name →
    root.at? (place ++ [name]) = some next → Walk root (place ++ [name]) parts target →
    Walk root place (name :: parts) target

variable {root node reached : Node} {trail way : List (Text × Node)} {place parts target : List Text}

theorem at?_append (node : Node) (place names : List Text) :
    node.at? (place ++ names) = (node.at? place).bind fun next => next.at? names := by
  induction place generalizing node with
  | nil => rfl
  | cons name place ih =>
    cases node with
    | file content => rfl
    | directory entries =>
      simp only [List.cons_append, at?]
      cases entries.lookup name with
      | none => rfl
      | some next => exact ih next

theorem isIdlePart_iff {part : Text} : Path.isIdlePart part = true ↔ part = [] ∨ part = ['.'] := by
  simp [Path.isIdlePart]

def namesOf (way : List (Text × Node)) : List Text := way.reverse.map Prod.fst

theorem namesOf_cons (name : Text) (node : Node) (way : List (Text × Node)) :
    namesOf ((name, node) :: way) = namesOf way ++ [name] := by
  simp [namesOf]

theorem Reached.at? (h : Reached root trail node) : root.at? (namesOf trail) = some node := by
  induction h with
  | root => rfl
  | step h hname hnext ih =>
    rw [namesOf_cons, at?_append, ih]
    simp [Node.at?, hnext]

theorem Reached.isIdlePart_eq_false (h : Reached root trail node) :
    ∀ name ∈ namesOf trail, Path.isIdlePart name = false := by
  induction h with
  | root => exact fun name hname => absurd hname List.not_mem_nil
  | step h hname hnext ih =>
    rw [namesOf_cons]
    intro name hmem
    rcases List.mem_append.1 hmem with hmem | hmem
    · exact ih name hmem
    · obtain rfl := List.mem_singleton.1 hmem
      exact hname.notIdle

/-! ## Walking and following -/

theorem Reached.walk (h : Reached root trail node) (hfollow : Node.follow trail node parts = .ok (way, reached)) :
    Walk root (namesOf trail) parts (namesOf way) := by
  induction parts generalizing trail node with
  | nil =>
    cases hfollow
    exact .stop
  | cons part parts ih =>
    have happend : Node.follow trail node ([part] ++ parts) = .ok (way, reached) := hfollow
    obtain ⟨between, stop, hpart, hparts⟩ := exists_of_follow_append happend
    have hwalk := ih (h.follow_singleton hpart) hparts
    obtain ⟨entries, rfl, hcases⟩ := follow_singleton_cases hpart
    have hdirectory : root.IsDirectoryAt (namesOf trail) := ⟨entries, h.at?⟩
    rcases hcases with ⟨hidle, rfl, rfl⟩ | ⟨rfl, rfl, rfl, rfl⟩ | ⟨rfl, name, rfl⟩ | ⟨hname, hnext, rfl⟩
    · exact .idle hdirectory (isIdlePart_iff.1 hidle) hwalk
    · exact .up hdirectory hwalk
    · rw [namesOf_cons] at hdirectory ⊢
      refine .up hdirectory ?_
      rwa [List.dropLast_concat]
    · have hat := (h.step hname hnext).at?
      rw [namesOf_cons] at hwalk hat
      exact .down hname hat hwalk

theorem Walk.follow (h : Walk root place parts target) (hreached : Reached root trail node)
    (hplace : namesOf trail = place) :
    ∃ way reached, Node.follow trail node parts = .ok (way, reached) ∧ namesOf way = target := by
  -- where the trail is known, so is the directory that the walk has at its place
  have hnode : ∀ {trail node place entries}, Reached root trail node → namesOf trail = place →
      root.at? place = some (.directory entries) → node = .directory entries := by
    rintro trail node place entries hreached rfl hat
    exact Option.some.inj (hreached.at?.symm.trans hat)
  induction h generalizing trail node with
  | stop => exact ⟨trail, node, rfl, hplace⟩
  | idle hdirectory hidle _ ih =>
    obtain ⟨entries, hat⟩ := hdirectory
    obtain rfl := hnode hreached hplace hat
    simp only [Node.follow, isIdlePart_iff.2 hidle, if_true]
    exact ih hreached hplace
  | up hdirectory _ ih =>
    obtain ⟨entries, hat⟩ := hdirectory
    obtain rfl := hnode hreached hplace hat
    cases hreached with
    | root =>
      subst hplace
      exact ih .root rfl
    | step habove hname hnext =>
      rw [namesOf_cons] at hplace
      subst hplace
      exact ih habove List.dropLast_concat.symm
  | @down place parts target name next hname hat _ ih =>
    subst hplace
    rw [at?_append, hreached.at?] at hat
    cases node with
    | file content => cases hat
    | directory entries =>
      have hnext : entries.lookup name = some next := by simpa [Node.at?] using hat
      have hfollow := follow_append trail (.directory entries) [name] parts
      rw [follow_name hname hnext] at hfollow
      rw [← List.singleton_append, hfollow]
      exact ih (hreached.step hname hnext) (namesOf_cons _ _ _)

end Node

namespace FileTree

/-- A path, as seen from the working directory, leads to a node at a place. -/
structure LeadsTo (files : FileTree) (p : Path) (place : Place) (node : Node) : Prop where
  noNul : '\x00' ∉ p
  nonempty : p ≠ []
  walk : files.root.Walk [] (Path.join files.workingDirectory p).parts place.names
  at?_eq : files.root.at? place.names = some node

variable {files : FileTree} {p q : Path} {place place' : Place} {node node' : Node}

theorem find_eq_ok_iff_leadsTo :
    files.find p = .ok (q, node) ↔ ∃ place, files.LeadsTo p place node ∧ place.path = q := by
  rw [find_eq_ok_iff]
  constructor
  · rintro ⟨hnul, hne, way, hfollow, rfl⟩
    have hreached := Node.Reached.root.follow hfollow
    have hplain : ∀ name ∈ Node.namesOf way, Path.isIdlePart name = false ∧ '/' ∉ name := by
      intro name hname
      refine ⟨hreached.isIdlePart_eq_false name hname, ?_⟩
      obtain ⟨entry, hentry, rfl⟩ := List.mem_map.1 hname
      exact slash_not_mem_of_follow hfollow entry (List.mem_reverse.1 hentry)
    exact ⟨⟨Node.namesOf way, hplain⟩, ⟨hnul, hne, Node.Reached.root.walk hfollow, hreached.at?⟩, rfl⟩
  · rintro ⟨place, ⟨hnul, hne, hwalk, hat⟩, rfl⟩
    -- what the walk ends at is looked up once on the way and once from the root
    obtain ⟨way, reached, hfollow, hway⟩ := hwalk.follow .root rfl
    have hreached := (Node.Reached.root.follow hfollow).at?
    rw [hway, hat] at hreached
    obtain rfl := Option.some.inj hreached
    refine ⟨hnul, hne, way, hfollow, ?_⟩
    rw [Place.path, ← hway]
    rfl

theorem LeadsTo.find_eq (h : files.LeadsTo p place node) : files.find p = .ok (place.path, node) :=
  find_eq_ok_iff_leadsTo.2 ⟨place, h, rfl⟩

theorem LeadsTo.unique (h : files.LeadsTo p place node) (h' : files.LeadsTo p place' node') :
    place = place' ∧ node = node' := by
  have heq : (place.path, node) = (place'.path, node') := Except.ok.inj (h.find_eq.symm.trans h'.find_eq)
  obtain ⟨hpath, rfl⟩ := Prod.mk.inj heq
  exact ⟨Place.path_injective hpath, rfl⟩

/-- The canonical form of a path spells the place that it leads to. -/
theorem LeadsTo.canonical_eq (h : files.LeadsTo p place node) : files.canonical p = place.path := by
  rw [canonical, canonical?, h.find_eq, Option.getD_some]

theorem isFile_iff : files.isFile p = true ↔ ∃ place content, files.LeadsTo p place (.file content) := by
  constructor
  · intro h
    unfold isFile at h
    split at h
    · rename_i q content hfind
      obtain ⟨place, hleads, -⟩ := find_eq_ok_iff_leadsTo.1 hfind
      exact ⟨place, content, hleads⟩
    · cases h
  · rintro ⟨place, content, h⟩
    rw [isFile, h.find_eq]

theorem LeadsTo.read_eq {content : Option Text} (h : files.LeadsTo p place (.file content)) :
    files.read p = content.elim (.error .notText) .ok := by
  rw [read, h.find_eq]
  cases content <;> rfl

end FileTree

end Folio
