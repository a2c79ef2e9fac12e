import Folio.Config.CommandLine
import Folio.Proofs.CanonicalPaths

/-!
# Applying a command line again

After a command line has been applied, the paths of a configuration are absolute, and applying it again leaves
them where they are. Only an empty root may be written differently the second time: it stands for the working
directory, which is then there under its canonical form. The paths below it do not notice.
-/

namespace Folio.Config

/-- Configurations that are the same when paths are compared by their components. -/
structure Agree (a b : Config) : Prop where
  path : a.path.components = b.path.components
  root : a.root.map Path.components = b.root.map Path.components
  settings : a.site.settings.components = b.site.settings.components
  themes : a.site.themes.components = b.site.themes.components
  name : a.site.name = b.site.name
  content : a.content = b.content
  markup : a.markup = b.markup
  render : a.render = b.render
  files : a.files = b.files

variable {files : FileTree} {p q : Path}

/-! ## Absolute forms -/

theorem absolutePath_of_canonical? (h : files.canonical? p = some q) : absolutePath files p = q := by
  rw [absolutePath, h, Option.getD_some]

theorem absolutePath_of_canonical?_none (h : files.canonical? p = none) :
    absolutePath files p = files.absolute p := by
  rw [absolutePath, h, Option.getD_none]

theorem isAbsolute_absolutePath (hhere : files.workingDirectory.isAbsolute = true) (p : Path) :
    (absolutePath files p).isAbsolute = true := by
  cases hcanonical : files.canonical? p with
  | none =>
    rw [absolutePath_of_canonical?_none hcanonical]
    exact Path.isAbsolute_join hhere p
  | some q =>
    rw [absolutePath_of_canonical? hcanonical]
    exact FileTree.isAbsolute_of_canonical? hcanonical

def CanonicalStays (files : FileTree) : Prop :=
  ∀ p q, files.canonical? p = some q → q.isAbsolute = true ∧ files.canonical? q = some q

theorem canonicalStays (h : '\x00' ∉ files.workingDirectory) : CanonicalStays files := fun _ _ hq =>
  ⟨FileTree.isAbsolute_of_canonical? hq, FileTree.canonical?_canonical? h hq⟩

/-- From the canonical form of a path the same paths are seen. -/
theorem components_absolutePath_join (hcanonical : CanonicalStays files) {base : Path}
    (hbase : base.isAbsolute = true) (hq : files.canonical? base = some q)
    (hsame : q.components = base.components) (p : Path) :
    (absolutePath files (Path.join q p)).components = (absolutePath files (Path.join base p)).components := by
  obtain ⟨habsolute, hqq⟩ := hcanonical base q hq
  cases hp : p.isAbsolute with
  | true => rw [Path.join_of_isAbsolute hp, Path.join_of_isAbsolute hp]
  | false =>
    have hfind := FileTree.find_join_canonical hbase hp hq hqq
    have hfound : files.canonical? (Path.join base p) = files.canonical? (Path.join q p) := by
      rw [FileTree.canonical?, hfind, FileTree.canonical?]
    have hq' := Path.isAbsolute_join habsolute p
    have hbase' := Path.isAbsolute_join hbase p
    rw [absolutePath, absolutePath, hfound, FileTree.absolute_of_isAbsolute hq',
      FileTree.absolute_of_isAbsolute hbase']
    cases files.canonical? (Path.join q p) with
    | some canonical => rfl
    | none =>
      rw [Path.components_of_isAbsolute habsolute, Path.components_of_isAbsolute hbase] at hsame
      rw [Option.getD_none, Option.getD_none, Path.components_of_isAbsolute hq',
        Path.components_of_isAbsolute hbase', Path.names_join (Path.ne_nil_of_isAbsolute habsolute) hp,
        Path.names_join (Path.ne_nil_of_isAbsolute hbase) hp, (List.cons.inj hsame).2]

section

variable (hhere : files.workingDirectory.isAbsolute = true) (hcanonical : CanonicalStays files)

include hhere hcanonical

theorem absolutePath_absolutePath (hp : p ≠ []) :
    absolutePath files (absolutePath files p) = absolutePath files p := by
  cases hfound : files.canonical? p with
  | some q =>
    rw [absolutePath_of_canonical? hfound, absolutePath_of_canonical? (hcanonical p q hfound).2]
  | none =>
    have hmissing : files.canonical? (files.absolute p) = none := by
      rw [Option.eq_none_iff_forall_ne_some]
      intro q hq
      rw [FileTree.canonical?_of_absolute hp hhere hq] at hfound
      cases hfound
    rw [absolutePath_of_canonical?_none hfound, absolutePath_of_canonical?_none hmissing]
    exact FileTree.absolute_of_isAbsolute (Path.isAbsolute_join hhere p)

/-- A path below an absolute one stays where it is. -/
theorem absolutePath_join_absolutePath {root : Path} (hroot : root.isAbsolute = true) (other : Path) :
    absolutePath files (Path.join other (absolutePath files (Path.join root p))) =
      absolutePath files (Path.join root p) := by
  have hne : Path.join root p ≠ [] := Path.ne_nil_of_isAbsolute (Path.isAbsolute_join hroot p)
  rw [Path.join_of_isAbsolute (isAbsolute_absolutePath hhere _), absolutePath_absolutePath hhere hcanonical hne]

/-- The absolute form of a root is its own absolute form, or that of an empty root is the working directory under
its canonical form. -/
theorem absolutePath_root (root : Path) :
    absolutePath files (absolutePath files root) = absolutePath files root ∨
      root = [] ∧ ∃ q, files.canonical? files.workingDirectory = some q ∧
        files.canonical? (absolutePath files root) = some q := by
  by_cases hroot : root = []
  · subst hroot
    have habsolute : absolutePath files [] = Path.join files.workingDirectory [] := rfl
    cases hfound : files.canonical? (absolutePath files []) with
    | none =>
      refine .inl ?_
      rw [absolutePath_of_canonical?_none hfound]
      exact FileTree.absolute_of_isAbsolute (isAbsolute_absolutePath hhere [])
    | some q =>
      refine .inr ⟨rfl, q, ?_, rfl⟩
      exact FileTree.canonical?_of_join_nil hhere (habsolute ▸ hfound)
  · exact .inl (absolutePath_absolutePath hhere hcanonical hroot)

end

/-! ## Applying a command line -/

variable {invocation : Command.Invocation} {config : Config}

theorem rootPath_eq_nil_iff : config.rootPath = [] ↔ config.root = some [] := by
  unfold rootPath
  cases config.root with
  | none => simp
  | some root => simp

/-- The second time a root is the same or another form of the working directory, from which the same paths are
seen. -/
theorem components_root_apply_apply (hhere : files.workingDirectory.isAbsolute = true)
    (hcanonical : CanonicalStays files)
    (hempty : invocation.root = none → config.root = some [] → ∀ q,
      files.canonical? files.workingDirectory = some q →
        q.components = files.workingDirectory.components) :
    let first := absolutePath files (invocation.root.getD config.rootPath)
    let second := absolutePath files (invocation.root.getD first)
    second.components = first.components ∧ ∀ p,
      (absolutePath files (Path.join second p)).components =
        (absolutePath files (Path.join first p)).components := by
  intro first second
  have hfirst : first.isAbsolute = true := isAbsolute_absolutePath hhere _
  cases hroot : invocation.root with
  | some root =>
    have hsecond : second = first := by simp only [second, first, hroot, Option.getD_some]
    rw [hsecond]
    exact ⟨rfl, fun p => rfl⟩
  | none =>
    have hfirst' : first = absolutePath files config.rootPath := by
      simp only [first, hroot, Option.getD_none]
    have hsecond : second = absolutePath files first := by simp only [second, hroot, Option.getD_none]
    -- only an empty root may come back in another form, that of the working directory
    rcases absolutePath_root hhere hcanonical config.rootPath with hsame | ⟨hnil, q, hdirectory, hq⟩
    · rw [← hfirst'] at hsame
      rw [hsecond, hsame]
      exact ⟨rfl, fun p => rfl⟩
    · rw [← hfirst'] at hq
      have hjoin : first = Path.join files.workingDirectory [] := by rw [hfirst', hnil]; rfl
      have hcomponents : q.components = first.components := by
        rw [hempty hroot (rootPath_eq_nil_iff.1 hnil) q hdirectory, hjoin, Path.components_join_nil hhere]
      rw [hsecond, absolutePath_of_canonical? hq]
      exact ⟨hcomponents, components_absolutePath_join hcanonical hfirst hq hcomponents⟩

/-- Applying a command line makes the paths of a configuration absolute, shows debug messages if it is asked for
and leaves everything else as it is; applying it again changes nothing. With an empty root the working directory
is as systems report it, without links and parents: its canonical form has its components. -/
theorem apply_apply_agrees (files : FileTree) (invocation : Command.Invocation) (config : Config)
    (hhere : files.workingDirectory.isAbsolute = true) (hcanonical : CanonicalStays files)
    (hempty : invocation.root = none → config.root = some [] → ∀ q,
      files.canonical? files.workingDirectory = some q →
        q.components = files.workingDirectory.components) :
    let applied := config.apply files invocation
    ((∃ root, applied.root = some root ∧ root.isAbsolute = true) ∧ applied.path.isAbsolute = true ∧
        applied.site.settings.isAbsolute = true ∧ applied.site.themes.isAbsolute = true) ∧
      Agree (applied.apply files invocation) applied ∧
      applied.render.debug = (config.render.debug || invocation.verbose) ∧
      (applied.site.name = config.site.name ∧ applied.content = config.content ∧
        applied.markup = config.markup ∧ applied.files = config.files ∧
        applied.render.maxIncludeDepth = config.render.maxIncludeDepth) := by
  intro applied
  have habsolute := isAbsolute_absolutePath hhere
  obtain ⟨hroot, hbelow⟩ := components_root_apply_apply hhere hcanonical hempty
  have hstays : ∀ other p, absolutePath files (Path.join other (absolutePath files
      (Path.join (absolutePath files (invocation.root.getD config.rootPath)) p))) = _ :=
    fun other p => absolutePath_join_absolutePath hhere hcanonical (habsolute _) other
  refine ⟨⟨⟨_, rfl, habsolute _⟩, habsolute _, habsolute _, habsolute _⟩, ?_, rfl, rfl, rfl, rfl, rfl, rfl⟩
  exact
    { path := hbelow invocation.config
      root := congrArg some hroot
      settings := congrArg Path.components (hstays _ config.site.settings)
      themes := congrArg Path.components (hstays _ config.site.themes)
      name := rfl
      content := rfl
      markup := rfl
      render := by simp only [applied, apply, Bool.or_assoc, Bool.or_self]
      files := rfl }

/-- An empty root, a settings file that is there and a directory of themes that is not. -/
theorem apply_apply_agrees_empty_root :
    let files : FileTree :=
      { root := .directory
          [("srv".toList, .directory [("a".toList, .directory [("site.txt".toList, .file (some []))])])]
        workingDirectory := "/srv".toList }
    let invocation : Command.Invocation := { verbose := true, command := .sanitize [] false }
    let config : Config :=
      { root := some [], site := { settings := "a//../a/site.txt".toList, themes := "b/../themes".toList } }
    let applied := config.apply files invocation
    files.workingDirectory.isAbsolute = true ∧ CanonicalStays files ∧
      (invocation.root = none → config.root = some [] → ∀ q,
        files.canonical? files.workingDirectory = some q →
          q.components = files.workingDirectory.components) ∧
      ((∃ root, applied.root = some root ∧ root.isAbsolute = true) ∧ applied.path.isAbsolute = true ∧
        applied.site.settings.isAbsolute = true ∧ applied.site.themes.isAbsolute = true) ∧
      Agree (applied.apply files invocation) applied ∧
      applied.render.debug = (config.render.debug || invocation.verbose) ∧
      (applied.site.name = config.site.name ∧ applied.content = config.content ∧
        applied.markup = config.markup ∧ applied.files = config.files ∧
        applied.render.maxIncludeDepth = config.render.maxIncludeDepth) := by
  intro files invocation config applied
  have hhere : files.workingDirectory.isAbsolute = true := rfl
  have hcanonical : CanonicalStays files := canonicalStays (by decide)
  have hempty : invocation.root = none → config.root = some [] → ∀ q,
      files.canonical? files.workingDirectory = some q →
        q.components = files.workingDirectory.components := by
    intro _ _ q hq
    have hdirectory : files.canonical? files.workingDirectory = some "/srv".toList := by decide +kernel
    rw [← Option.some.inj (hdirectory.symm.trans hq)]
  exact ⟨hhere, hcanonical, hempty, apply_apply_agrees files invocation config hhere hcanonical hempty⟩

/-- A working directory that is not written in its canonical form is written in another form the second time. -/
example :
    let files : FileTree :=
      { root := .directory [("srv".toList, .directory [])], workingDirectory := "/srv/../srv".toList }
    let invocation : Command.Invocation := { command := .sanitize [] false }
    let applied := ({ root := some [] } : Config).apply files invocation
    ¬ Agree (applied.apply files invocation) applied := by
  intro files invocation applied hagree
  exact absurd hagree.root (by decide +kernel)

end Folio.Config
