import Folio.Files.FileTree
import Folio.Proofs.TextLines

/-!
# Canonical paths

The parts of a path can be followed in two stretches, and the names on the way to a node lead to it from the
root. So a path that is joined to another one leads on from where that one leads, and a canonical path is its
own canonical form.
-/

namespace Folio

namespace Path

/-- What a path consists of: the root or the current directory if it is written at the start, and what is named
from there on. Further slashes and points do not count. -/
def components (p : Path) : List Text :=
  if p.isAbsolute then ['/'] :: p.names
  else if p.parts.head? = some ['.'] then ['.'] :: p.names
  else p.names

variable {base p : Path}

theorem join_of_isAbsolute (h : p.isAbsolute = true) : join base p = p := by
  rw [join, h, Bool.true_or, if_pos rfl]

theorem ne_nil_of_isAbsolute (h : p.isAbsolute = true) : p ≠ [] := by
  rintro rfl
  cases h

theorem isAbsolute_append (h : base.isAbsolute = true) (p : Path) : isAbsolute (base ++ p) = true := by
  cases base with
  | nil => cases h
  | cons c base => exact h

theorem isAbsolute_join (h : base.isAbsolute = true) (p : Path) : (join base p).isAbsolute = true := by
  rw [join]
  split
  · rename_i hp
    rcases Bool.or_eq_true_iff.1 hp with hp | hnil
    · exact hp
    · exact absurd (by simpa using hnil) (ne_nil_of_isAbsolute h)
  · split
    · exact isAbsolute_append h p
    · exact isAbsolute_append h _

/-- A relative path follows a base path, from which a slash at its end is taken away. -/
theorem parts_join (hbase : base ≠ []) (hp : p.isAbsolute = false) :
    ∃ stem, (join base p).parts = stem ++ p.parts ∧ (base.parts = stem ∨ base.parts = stem ++ [[]]) := by
  have hrelative : ¬ (p.isAbsolute || decide (base = [])) = true := by simp [hp, hbase]
  rw [join, if_neg hrelative]
  split
  · rename_i hslash
    obtain ⟨before, rfl⟩ : ∃ before, base = before ++ ['/'] :=
      ⟨base.dropLast, (List.dropLast_append_getLast? '/' hslash).symm⟩
    refine ⟨parts before, ?_, .inr (Text.splitAtChar_append_sep '/' before [])⟩
    rw [List.append_assoc]
    exact Text.splitAtChar_append_sep '/' before p
  · exact ⟨base.parts, Text.splitAtChar_append_sep '/' base p, .inl rfl⟩

theorem names_join (hbase : base ≠ []) (hp : p.isAbsolute = false) :
    (join base p).names = base.names ++ p.names := by
  obtain ⟨stem, hjoin, hstem⟩ := parts_join hbase hp
  rw [names, hjoin, List.filter_append, names, names]
  rcases hstem with hstem | hstem
  · rw [hstem]
  · rw [hstem, List.filter_append]
    simp [isIdlePart]

theorem components_of_isAbsolute (h : p.isAbsolute = true) : p.components = ['/'] :: p.names := by
  rw [components, if_pos h]

theorem components_join_nil (h : base.isAbsolute = true) : (join base []).components = base.components := by
  have hnil : names [] = [] := rfl
  rw [components_of_isAbsolute (isAbsolute_join h []), components_of_isAbsolute h,
    names_join (ne_nil_of_isAbsolute h) rfl, hnil, List.append_nil]

theorem mem_join {c : Char} (hc : c ≠ '/') (h : c ∈ join base p) : c ∈ base ∨ c ∈ p := by
  rw [join] at h
  split at h
  · exact .inr h
  · split at h
    · exact List.mem_append.1 h
    · simpa [hc] using h

theorem mem_join_of_mem {c : Char} (h : c ∈ p) : c ∈ join base p := by
  rw [join]
  split
  · exact h
  · split
    · exact List.mem_append_right _ h
    · exact List.mem_append_right _ (List.mem_cons_of_mem _ h)

theorem mem_join_of_mem_base {c : Char} (hp : p.isAbsolute = false) (h : c ∈ base) : c ∈ join base p := by
  have hrelative : ¬ (p.isAbsolute || decide (base = [])) = true := by simp [hp, List.ne_nil_of_mem h]
  rw [join, if_neg hrelative]
  split
  · exact List.mem_append_left _ h
  · exact List.mem_append_left _ h

end Path

namespace Node

/-! ## Following parts -/

variable {root node reached : Node} {trail way : List (Text × Node)} {part : Text} {parts : List Text}

theorem follow_cons (trail : List (Text × Node)) (node : Node) (part : Text) (parts : List Text) :
    follow trail node (part :: parts) =
      (follow trail node [part]).bind fun reached => follow reached.1 reached.2 parts := by
  cases node with
  | file content => rfl
  | directory entries =>
    simp only [follow]
    split
    · rfl
    · split
      · cases trail <;> rfl
      · split
        · rfl
        · cases entries.lookup part <;> rfl

theorem follow_append (trail : List (Text × Node)) (node : Node) (first second : List Text) :
    follow trail node (first ++ second) =
      (follow trail node first).bind fun reached => follow reached.1 reached.2 second := by
  induction first generalizing trail node with
  | nil => rfl
  | cons part first ih =>
    rw [List.cons_append, follow_cons, follow_cons trail node part first]
    cases follow trail node [part] with
    | error cause => rfl
    | ok reached => exact ih reached.1 reached.2

/-- Parts are followed to an end only by way of a node that some of them lead to. -/
theorem exists_of_follow_append {first second : List Text}
    (h : follow trail node (first ++ second) = .ok (way, reached)) :
    ∃ between stop, follow trail node first = .ok (between, stop) ∧
      follow between stop second = .ok (way, reached) := by
  rw [follow_append] at h
  cases hfirst : follow trail node first with
  | error cause =>
    rw [hfirst] at h
    cases h
  | ok stop =>
    rw [hfirst] at h
    exact ⟨stop.1, stop.2, rfl, h⟩

/-- What holds of a node and the way to it, and is kept by each of some parts, holds of where they lead. -/
theorem follow_induct {P : List (Text × Node) → Node → Prop}
    (hstep : ∀ part ∈ parts, ∀ {trail node way reached}, P trail node →
      follow trail node [part] = .ok (way, reached) → P way reached)
    (hstart : P trail node) (h : follow trail node parts = .ok (way, reached)) : P way reached := by
  induction parts generalizing trail node with
  | nil =>
    cases h
    exact hstart
  | cons part parts ih =>
    have happend : follow trail node ([part] ++ parts) = .ok (way, reached) := h
    obtain ⟨between, stop, hpart, hparts⟩ := exists_of_follow_append happend
    obtain ⟨hkept, hkeep⟩ := List.forall_mem_cons.1 hstep
    exact ih hkeep (hkept hstart hpart) hparts

structure IsName (name : Text) : Prop where
  notIdle : Path.isIdlePart name = false
  notParent : name ≠ ['.', '.']
  short : Text.byteSize name ≤ maxNameBytes

theorem follow_name {entries : List (Text × Node)} {name : Text} {next : Node} (hname : IsName name)
    (hnext : entries.lookup name = some next) :
    follow trail (.directory entries) [name] = .ok ((name, .directory entries) :: trail, next) := by
  have hshort : ¬ maxNameBytes < Text.byteSize name := Nat.not_lt.2 hname.short
  simp only [follow, hname.notIdle, Bool.false_eq_true, if_false, if_neg hname.notParent, if_neg hshort, hnext]

/-- One part stays where it is, goes back, or goes on to what has its name. -/
theorem follow_singleton_cases (h : follow trail node [part] = .ok (way, reached)) :
    ∃ entries, node = .directory entries ∧
      (Path.isIdlePart part = true ∧ way = trail ∧ reached = node ∨
        part = ['.', '.'] ∧ trail = [] ∧ way = [] ∧ reached = node ∨
        part = ['.', '.'] ∧ (∃ name, trail = (name, reached) :: way) ∨
        IsName part ∧ entries.lookup part = some reached ∧ way = (part, node) :: trail) := by
  cases node with
  | file content => cases h
  | directory entries =>
    refine ⟨entries, rfl, ?_⟩
    simp only [follow] at h
    split at h
    · rename_i hidle
      cases h
      exact .inl ⟨hidle, rfl, rfl⟩
    · rename_i hidle
      split at h
      · rename_i hparent
        cases trail with
        | nil =>
          cases h
          exact .inr (.inl ⟨hparent, rfl, rfl, rfl⟩)
        | cons last trail =>
          cases h
          exact .inr (.inr (.inl ⟨hparent, last.1, rfl⟩))
      · rename_i hparent
        split at h
        · cases h
        · rename_i hshort
          cases hnext : entries.lookup part with
          | none =>
            rw [hnext] at h
            cases h
          | some next =>
            rw [hnext] at h
            cases h
            have hname : IsName part := ⟨Bool.eq_false_iff.2 hidle, hparent, Nat.not_lt.1 hshort⟩
            exact .inr (.inr (.inr ⟨hname, rfl, rfl⟩))

/-- An empty part at the end leads no further. -/
theorem follow_of_follow_append_nil (h : follow trail node (parts ++ [[]]) = .ok (way, reached)) :
    follow trail node parts = .ok (way, reached) := by
  obtain ⟨between, stop, hparts, hlast⟩ := exists_of_follow_append h
  cases stop with
  | file content => cases hlast
  | directory entries =>
    cases hlast
    exact hparts

/-! ## The way to a node -/

/-- A node is reached from a root by names, each found in the directory that the names before it lead to. -/
inductive Reached (root : Node) : List (Text × Node) → Node → Prop
  | root : Reached root [] root
  | step {trail : List (Text × Node)} {entries : List (Text × Node)} {name : Text} {next : Node}
      (h : Reached root trail (.directory entries)) (hname : IsName name)
      (hnext : entries.lookup name = some next) :
    Reached root ((name, .directory entries) :: trail) next

theorem Reached.follow_singleton (h : Reached root trail node)
    (hfollow : follow trail node [part] = .ok (way, reached)) : Reached root way reached := by
  obtain ⟨entries, rfl, hcases⟩ := follow_singleton_cases hfollow
  rcases hcases with ⟨-, rfl, rfl⟩ | ⟨-, rfl, rfl, rfl⟩ | ⟨-, name, rfl⟩ | ⟨hname, hnext, rfl⟩
  · exact h
  · exact h
  · cases h with
    | step h _ _ => exact h
  · exact h.step hname hnext

theorem Reached.follow (h : Reached root trail node) (hfollow : Node.follow trail node parts = .ok (way, reached)) :
    Reached root way reached :=
  follow_induct (fun _ _ _ _ _ _ h => h.follow_singleton) h hfollow

theorem Reached.follow_names (h : Reached root trail node) :
    Node.follow [] root (trail.reverse.map Prod.fst) = .ok (trail, node) := by
  induction h with
  | root => rfl
  | step h hname hnext ih =>
    rw [List.reverse_cons, List.map_append, follow_append, ih]
    exact follow_name hname hnext

/-- The names on a way are those that it started with, or parts that were followed. -/
theorem mem_of_follow (h : follow trail node parts = .ok (way, reached)) :
    ∀ entry ∈ way, entry ∈ trail ∨ entry.1 ∈ parts := by
  refine follow_induct (P := fun way _ => ∀ entry ∈ way, entry ∈ trail ∨ entry.1 ∈ parts) ?_
    (fun entry hentry => .inl hentry) h
  intro part hpart before node after reached hbefore hstep entry hentry
  obtain ⟨entries, -, hcases⟩ := follow_singleton_cases hstep
  rcases hcases with ⟨-, rfl, -⟩ | ⟨-, -, rfl, -⟩ | ⟨-, name, rfl⟩ | ⟨-, -, rfl⟩
  · exact hbefore entry hentry
  · cases hentry
  · exact hbefore entry (List.mem_cons_of_mem _ hentry)
  · rcases List.mem_cons.1 hentry with rfl | hentry
    · exact .inr hpart
    · exact hbefore entry hentry

theorem exists_directory_of_follow (h : follow trail node (part :: parts) = .ok (way, reached)) :
    ∃ entries, node = .directory entries := by
  cases node with
  | file content => cases h
  | directory entries => exact ⟨entries, rfl⟩

def pathOf (way : List (Text × Node)) : Path := '/' :: Text.join ['/'] (way.reverse.map Prod.fst)

theorem exists_of_mem_pathOf {c : Char} (hc : c ≠ '/') (h : c ∈ pathOf way) : ∃ entry ∈ way, c ∈ entry.1 := by
  rcases List.mem_cons.1 h with rfl | h
  · exact absurd rfl hc
  · rcases Text.mem_join h with hsep | ⟨name, hname, hmem⟩
    · exact absurd (List.mem_singleton.1 hsep) hc
    · obtain ⟨entry, hentry, rfl⟩ := List.mem_map.1 hname
      exact ⟨entry, List.mem_reverse.1 hentry, hmem⟩

theorem follow_pathOf {entries : List (Text × Node)} (h : Reached (.directory entries) way node)
    (hnames : ∀ entry ∈ way, '/' ∉ entry.1) :
    follow [] (.directory entries) (pathOf way).parts = .ok (way, node) := by
  have hparts : (pathOf way).parts = [] :: Text.splitAtChar '/' (Text.join ['/'] (way.reverse.map Prod.fst)) :=
    Text.splitAtChar_append_sep '/' [] _
  rw [hparts]
  by_cases hnil : way = []
  · subst hnil
    cases h
    rfl
  · rw [Text.splitAtChar_join (by simpa using hnil) (by simpa using hnames)]
    exact h.follow_names

end Node

namespace FileTree

open Node (pathOf)

variable {files : FileTree} {p q : Path} {node : Node}

theorem find_eq_ok_iff : files.find p = .ok (q, node) ↔ '\x00' ∉ p ∧ p ≠ [] ∧
    ∃ way, files.root.follow [] (files.absolute p).parts = .ok (way, node) ∧ pathOf way = q := by
  unfold find
  split
  · rename_i hnul
    exact iff_of_false nofun fun h => h.1 hnul
  · rename_i hnul
    split
    · rename_i hp
      exact iff_of_false nofun fun h => h.2.1 hp
    · rename_i hp
      cases files.root.follow [] (files.absolute p).parts with
      | error cause => exact iff_of_false nofun nofun
      | ok reached =>
        obtain ⟨way, node'⟩ := reached
        simp [bind, Except.bind, pure, Except.pure, pathOf, hnul, hp, and_comm]

theorem canonical?_eq_some_iff : files.canonical? p = some q ↔ ∃ node, files.find p = .ok (q, node) := by
  unfold canonical?
  cases files.find p with
  | error cause => exact iff_of_false nofun nofun
  | ok found => simp [Prod.ext_iff]

theorem isAbsolute_of_canonical? (h : files.canonical? p = some q) : q.isAbsolute = true := by
  obtain ⟨node, hfind⟩ := canonical?_eq_some_iff.1 h
  obtain ⟨-, -, way, -, rfl⟩ := find_eq_ok_iff.1 hfind
  rfl

theorem absolute_of_isAbsolute (h : p.isAbsolute = true) : files.absolute p = p := Path.join_of_isAbsolute h

theorem slash_not_mem_of_follow {way : List (Text × Node)}
    (h : files.root.follow [] p.parts = .ok (way, node)) : ∀ entry ∈ way, '/' ∉ entry.1 := by
  intro entry hentry
  rcases Node.mem_of_follow h entry hentry with hnil | hmem
  · cases hnil
  · exact fun hslash => (Text.mem_of_mem_splitAtChar hmem _ hslash).2 rfl

/-- The canonical form of a path leads where the path does. -/
theorem follow_canonical {way : List (Text × Node)} (h : files.root.follow [] p.parts = .ok (way, node)) :
    files.root.follow [] (pathOf way).parts = .ok (way, node) := by
  obtain ⟨part, parts, hparts⟩ : ∃ part parts, p.parts = part :: parts :=
    List.exists_cons_of_ne_nil (Text.splitAtChar_ne_nil '/' p)
  obtain ⟨entries, hroot⟩ := Node.exists_directory_of_follow (hparts ▸ h)
  have hreached := Node.Reached.root.follow h
  rw [hroot] at hreached ⊢
  exact Node.follow_pathOf hreached (slash_not_mem_of_follow h)

/-- A canonical path is its own canonical form. -/
theorem canonical?_canonical? (hhere : '\x00' ∉ files.workingDirectory) (h : files.canonical? p = some q) :
    files.canonical? q = some q := by
  have habsolute := isAbsolute_of_canonical? h
  obtain ⟨node, hfind⟩ := canonical?_eq_some_iff.1 h
  obtain ⟨hnul, -, way, hfollow, rfl⟩ := find_eq_ok_iff.1 hfind
  refine canonical?_eq_some_iff.2 ⟨node, find_eq_ok_iff.2 ⟨?_, Path.ne_nil_of_isAbsolute habsolute, way, ?_, rfl⟩⟩
  · -- the names on the way are parts of the path as it is seen from the root
    intro hmem
    obtain ⟨entry, hentry, hname⟩ := Node.exists_of_mem_pathOf (by decide) hmem
    rcases Node.mem_of_follow hfollow entry hentry with hnil | hpart
    · cases hnil
    · rcases Path.mem_join (by decide) (Text.mem_of_mem_splitAtChar hpart _ hname).1 with hmem | hmem
      · exact hhere hmem
      · exact hnul hmem
  · rw [absolute_of_isAbsolute habsolute]
    exact follow_canonical hfollow

/-! ## Paths joined to others -/

theorem canonical?_of_absolute (hp : p ≠ []) (hhere : files.workingDirectory.isAbsolute = true)
    (h : files.canonical? (files.absolute p) = some q) : files.canonical? p = some q := by
  obtain ⟨node, hfind⟩ := canonical?_eq_some_iff.1 h
  obtain ⟨hnul, -, way, hfollow, hway⟩ := find_eq_ok_iff.1 hfind
  have habsolute : files.absolute (files.absolute p) = files.absolute p :=
    absolute_of_isAbsolute (Path.isAbsolute_join hhere p)
  rw [habsolute] at hfollow
  have hp' : '\x00' ∉ p := fun hmem => hnul (Path.mem_join_of_mem hmem)
  exact canonical?_eq_some_iff.2 ⟨node, find_eq_ok_iff.2 ⟨hp', hp, way, hfollow, hway⟩⟩

theorem find_of_isAbsolute (h : p.isAbsolute = true) : files.find p =
    if '\x00' ∈ p then .error .nameHoldsNul
    else (files.root.follow [] p.parts).map fun reached => (pathOf reached.1, reached.2) := by
  rw [find, if_neg (Path.ne_nil_of_isAbsolute h), absolute_of_isAbsolute h]
  rfl

theorem follow_join {base : Path} {way : List (Text × Node)} (hbase : base ≠ []) (hp : p.isAbsolute = false)
    (h : files.root.follow [] base.parts = .ok (way, node)) :
    files.root.follow [] (Path.join base p).parts = node.follow way p.parts := by
  obtain ⟨stem, hjoin, hstem⟩ := Path.parts_join hbase hp
  have hway : files.root.follow [] stem = .ok (way, node) := by
    rcases hstem with hstem | hstem
    · rw [← hstem, h]
    · exact Node.follow_of_follow_append_nil (hstem ▸ h)
  rw [hjoin, Node.follow_append, hway]
  rfl

/-- Where a directory with a slash behind it leads, it leads without the slash. -/
theorem canonical?_of_join_nil {base : Path} (hbase : base.isAbsolute = true)
    (h : files.canonical? (Path.join base []) = some q) : files.canonical? base = some q := by
  obtain ⟨node, hfind⟩ := canonical?_eq_some_iff.1 h
  obtain ⟨hnul, -, way, hfollow, hway⟩ := find_eq_ok_iff.1 hfind
  have hne := Path.ne_nil_of_isAbsolute hbase
  have hnul' : '\x00' ∉ base := fun hmem => hnul (Path.mem_join_of_mem_base rfl hmem)
  rw [absolute_of_isAbsolute (Path.isAbsolute_join hbase [])] at hfollow
  refine canonical?_eq_some_iff.2 ⟨node, find_eq_ok_iff.2 ⟨hnul', hne, way, ?_, hway⟩⟩
  rw [absolute_of_isAbsolute hbase]
  obtain ⟨stem, hparts, hstem⟩ := Path.parts_join (p := []) hne rfl
  rw [hparts] at hfollow
  rcases hstem with hstem | hstem
  · rw [hstem]
    exact Node.follow_of_follow_append_nil hfollow
  · rw [hstem]
    exact hfollow

/-- A relative path leads from a canonical path where it leads from any other path with that canonical form. -/
theorem find_join_canonical {base : Path} (hbase : base.isAbsolute = true) (hp : p.isAbsolute = false)
    (hq : files.canonical? base = some q) (hqq : files.canonical? q = some q) :
    files.find (Path.join base p) = files.find (Path.join q p) := by
  have habsolute := isAbsolute_of_canonical? hq
  obtain ⟨node, hfind⟩ := canonical?_eq_some_iff.1 hq
  obtain ⟨hnul, -, way, hfollow, rfl⟩ := find_eq_ok_iff.1 hfind
  obtain ⟨node', hfind'⟩ := canonical?_eq_some_iff.1 hqq
  obtain ⟨hnul', -, -⟩ := find_eq_ok_iff.1 hfind'
  rw [absolute_of_isAbsolute hbase] at hfollow
  have hmem : ∀ {base : Path}, '\x00' ∉ base → ('\x00' ∈ Path.join base p ↔ '\x00' ∈ p) := fun hnul =>
    ⟨fun hmem => (Path.mem_join (by decide) hmem).resolve_left hnul, Path.mem_join_of_mem⟩
  rw [find_of_isAbsolute (Path.isAbsolute_join hbase p), find_of_isAbsolute (Path.isAbsolute_join habsolute p),
    follow_join (Path.ne_nil_of_isAbsolute hbase) hp hfollow,
    follow_join (Path.ne_nil_of_isAbsolute habsolute) hp (follow_canonical hfollow)]
  simp only [hmem hnul, hmem hnul']

end FileTree

end Folio
