import Folio.Proofs.RunSimulation
import Folio.Proofs.Scanning
import Folio.Proofs.TextLines

/-!
# The ways to render a file

A file can be rendered as a template file, by a template that includes it and does nothing else, and as a
template that was read before. The include takes a level of its own and the file read before is not on the
stack, so the runs differ in what they know about the files around them; the texts, the assets and the calls
are the same.
-/

namespace Folio

theorem FileTree.isFile_of_read {tree : FileTree} {p : Path} {content : Text}
    (h : tree.read p = .ok content) : tree.isFile p = true := by
  unfold FileTree.read at h
  unfold FileTree.isFile
  cases hfind : tree.find p with
  | error cause =>
    rw [hfind] at h
    cases h
  | ok found =>
    obtain ⟨canonical, node⟩ := found
    cases node with
    | file text => rfl
    | directory entries =>
      rw [hfind] at h
      cases h

namespace Render

open Markup

variable {σ : Type}

/-- A relative path that an include can name. -/
structure IsIncludePath (path : Path) : Prop where
  relative : Path.isAbsolute path = false
  ne_nil : path ≠ []
  trim_eq : Text.trim path = path
  newline_not_mem : '\n' ∉ path
  brace_not_mem : '\x7d' ∉ path

def inclusionOf (path : Path) : Text := "\x7b\x7binclude:".toList ++ path ++ "\x7d\x7d".toList

theorem IsIncludePath.scan_inclusionOf {path : Path} (h : IsIncludePath path) :
    scan {} (inclusionOf path) = [.placeholder (.inclusion path) (inclusionOf path)] := by
  have hfirst : Text.IsFirst (Syntax.closing {}) path := by
    change Text.IsFirst ['\x7d', '\x7d'] path
    apply Text.isFirst_of_run (p := (· ≠ '\x7d')) (by simp) (by simp)
    intro c hc
    rw [decide_eq_true_iff]
    rintro rfl
    exact h.brace_not_mem hc
  have hbody : Body {} .inclusion (.inclusion path) path := by
    have htrim := Body.inclusion hfirst
    rw [h.trim_eq] at htrim
    exact htrim h.ne_nil h.newline_not_mem
  have hraw : Placeholder {} (.inclusion path) (inclusionOf path) :=
    ⟨"include".toList, .inclusion, path, .inclusion, hbody, rfl⟩
  have hsegments := IsSegmentation.placeholder hraw .nil
  rw [List.append_nil] at hsegments
  exact (isSegmentation_scan _).unique hsegments

/-- The error of the same run under another bound. -/
def RenderError.withBound (bound : Nat) : RenderError → RenderError
  | .tooDeep path _ => .tooDeep path bound
  | error => error

theorem answered_some (f : RenderError → RenderError) {α : Type} (result : Except RenderError α) :
    answered (fun error => some (f error)) result = some (result.mapError f) := by
  cases result with
  | ok value => rfl
  | error error => rfl

namespace Engine

variable {engine : Engine σ} {fields : Fields} {levels : Nat} {stack : List Path} {base path : Path}

variable (engine) in
theorem renderBuffer_inclusionOf (hmarkup : engine.markup = {}) (hpath : IsIncludePath path) :
    engine.renderBuffer fields levels stack base (inclusionOf path) =
      engine.expand fields levels stack (Path.join base path) := by
  have hscan : scan engine.markup (inclusionOf path) =
      [.placeholder (.inclusion path) (inclusionOf path)] := by
    rw [hmarkup, hpath.scan_inclusionOf]
  rw [renderBuffer_of_callFree (by rw [hscan]; simp [CallFree, isCall])]
  unfold resolveFields substitute
  rw [hscan]
  simp [fill, hpath.relative]

/-- Files are rendered alike under another bound when the same files are around them. -/
theorem simulation_bound (engine : Engine σ) (bound : Nat) :
    Simulation (fun error => some (error.withBound bound)) engine.maxIncludeDepth bound
      fun levels stack levels' stack' => levels' = levels ∧ stack' = stack where
  subset := by
    rintro levels levels' stack stack' ⟨-, rfl⟩
    exact List.Subset.refl _
  circular := by
    rintro levels levels' stack stack' path ⟨-, rfl⟩ hmem error herror
    obtain rfl : RenderError.circular path _ = error := Option.some.inj herror
    exact ⟨hmem, rfl⟩
  tooDeep := by
    rintro levels' stack stack' path ⟨rfl, -⟩ error herror
    obtain rfl : RenderError.tooDeep path bound = error := Option.some.inj herror
    exact ⟨rfl, rfl⟩
  inner := by
    rintro levels levels' stack stack' ⟨rfl, rfl⟩
    exact ⟨levels, rfl, fun path => ⟨rfl, rfl⟩⟩

/-- What is rendered at all is rendered alike when fewer files are around it. -/
theorem simulation_fewer (engine : Engine σ) :
    Simulation (fun _ => none) engine.maxIncludeDepth engine.maxIncludeDepth
      fun levels stack levels' stack' => levels' = levels ∧ stack' ⊆ stack where
  subset := by
    rintro levels levels' stack stack' ⟨-, hsubset⟩
    exact hsubset
  circular := by
    intro levels levels' stack stack' path _ _ error herror
    cases herror
  tooDeep := by
    intro levels' stack stack' path _ error herror
    cases herror
  inner := by
    rintro levels levels' stack stack' ⟨rfl, hsubset⟩
    refine ⟨levels, rfl, fun path => ⟨rfl, ?_⟩⟩
    exact List.append_subset.2
      ⟨List.subset_append_of_subset_left [path] hsubset, List.subset_append_right stack [path]⟩

theorem renderFile_of_read {file : Path} {content : Text} (hread : engine.files.read file = .ok content)
    (state : σ) : engine.renderFile fields file state =
      start state (engine.renderBuffer fields engine.maxIncludeDepth [engine.files.canonical file]
        (Path.directory file) content) := by
  rw [renderFile, hread]

theorem mirrors_inclusionOf (hmarkup : engine.markup = {}) (hpath : IsIncludePath path) {content : Text}
    (hread : engine.files.read (Path.join base path) = .ok content) (fields : Fields) (levels bound : Nat) :
    Mirrors (fun error => some (error.withBound bound))
      (engine.renderBuffer fields levels [engine.files.canonical (Path.join base path)]
        (Path.directory (Path.join base path)) content)
      ((engine.withBound bound).renderBuffer fields (levels + 1) [] base (inclusionOf path)) := by
  have hbuffers := (simulation_bound engine bound).buffers fields levels
  have hfile : engine.files.isFile (Path.join base path) = true := FileTree.isFile_of_read hread
  rw [(engine.withBound bound).renderBuffer_inclusionOf hmarkup hpath,
    (engine.withBound bound).expand_of_read hfile List.not_mem_nil hread]
  -- the include has used up its additional level and has put the file on the empty stack
  exact (hbuffers _ _ _ ⟨rfl, rfl⟩ _ _).after_record rfl

theorem bound_of_renderFile {file path : Path} {depth : Nat} {state : σ}
    (h : (engine.renderFile fields file state).1 = .error (.tooDeep path depth)) :
    depth = engine.maxIncludeDepth := by
  cases hread : engine.files.read file with
  | error cause =>
    rw [renderFile, hread] at h
    cases h
  | ok content =>
    rw [renderFile_of_read hread] at h
    -- a run mirrors itself, with the bound of the engine in its error
    have hbuffers := (simulation_bound engine engine.maxIncludeDepth).buffers fields engine.maxIncludeDepth
    have hmirrors := hbuffers _ [engine.files.canonical file] _ ⟨rfl, rfl⟩ (Path.directory file) content
    obtain ⟨hresult, -⟩ := hmirrors.start state (answered_some _ _)
    have hsame := h.symm.trans (hresult.trans (congrArg _ h))
    cases hsame
    rfl

/-- A file rendered as a template file, by an include that has one level more and, if that succeeds, as a
template in its directory: the results are the same after the same calls, but for the bound in an error. -/
theorem renderFile_agrees (hmarkup : engine.markup = {}) (hpath : IsIncludePath path) {content : Text}
    (hread : engine.files.read (Path.join base path) = .ok content) (fields : Fields) (state : σ) :
    let file := Path.join base path
    let bound := engine.maxIncludeDepth
    let direct := engine.renderFile fields file state
    let included := (engine.withBound (bound + 1)).render fields base (inclusionOf path) state
    (included.1 = direct.1.mapError (RenderError.withBound (bound + 1)) ∧
        SameCalls direct.2 included.2) ∧
      (∀ target depth, direct.1 = .error (.tooDeep target depth) → depth = bound) ∧
      ∀ rendered, direct.1 = .ok rendered →
        SameOutcome direct (engine.render fields (Path.directory file) content state) := by
  intro file bound direct included
  have hdirect : direct = start state (engine.renderBuffer fields bound [engine.files.canonical file]
      (Path.directory file) content) := renderFile_of_read hread state
  refine ⟨?_, fun target depth => bound_of_renderFile, ?_⟩
  · have hmirrors := mirrors_inclusionOf hmarkup hpath hread fields bound (bound + 1)
    rw [hdirect]
    exact hmirrors.start state (answered_some _ _)
  · intro rendered hok
    rw [hdirect] at hok ⊢
    have hbuffers := (simulation_fewer engine).buffers fields bound
    have hmirrors := hbuffers bound [engine.files.canonical file] [] ⟨rfl, List.nil_subset _⟩
      (Path.directory file) content
    obtain ⟨hresult, hcalls⟩ := hmirrors.start state (congrArg (answered _) hok)
    exact ⟨hresult.trans hok.symm, hcalls⟩

/-- A page that includes a file beside it, and a list that includes the page and so goes beyond the bound. -/
theorem renderFile_agrees_pages :
    let page := "[\x7b\x7btool:Next\x7d\x7d\x7b\x7binclude:b.html\x7d\x7d]".toList
    let list := "\x7b\x7binclude:a.html\x7d\x7d".toList
    let engine : Engine Nat :=
      { registry := { tools := [("Next".toList, ⟨fun _ n => (Text.ofNat n, n + 1)⟩)] }
        maxIncludeDepth := 1
        files :=
          { root := .directory
              [("pages".toList, .directory
                [("a.html".toList, .file (some page)),
                  ("b.html".toList, .file (some "\x7b\x7btool:Next\x7d\x7d".toList)),
                  ("c.html".toList, .file (some list))])]
            workingDirectory := ['/'] } }
    let base := "pages".toList
    let direct := fun path => engine.renderFile {} (Path.join base path) 3
    let included := fun path => (engine.withBound 2).render {} base (inclusionOf path) 3
    IsIncludePath "a.html".toList ∧ IsIncludePath "c.html".toList ∧
      engine.files.read (Path.join base "a.html".toList) = .ok page ∧
      engine.files.read (Path.join base "c.html".toList) = .ok list ∧
      (direct "a.html".toList).1 = .ok ⟨"[34]".toList, .empty⟩ ∧
      SameOutcome (direct "a.html".toList) (engine.render {} base page 3) ∧
      (included "a.html".toList).1 = .ok ⟨"[34]".toList, .empty⟩ ∧
      (direct "c.html".toList).1 = .error (.tooDeep "/pages/b.html".toList 1) ∧
      (included "c.html".toList).1 = .error (.tooDeep "/pages/b.html".toList 2) := by
  intro page list engine base direct included
  have hpage : IsIncludePath "a.html".toList :=
    ⟨by decide, by decide, by decide, by decide, by decide⟩
  have hlist : IsIncludePath "c.html".toList :=
    ⟨by decide, by decide, by decide, by decide, by decide⟩
  have hreadPage : engine.files.read (Path.join base "a.html".toList) = .ok page := by
    decide +kernel
  have hreadList : engine.files.read (Path.join base "c.html".toList) = .ok list := by
    decide +kernel
  have hok : (direct "a.html".toList).1 = .ok ⟨"[34]".toList, .empty⟩ := by
    decide +kernel
  have hdeep : (direct "c.html".toList).1 = .error (.tooDeep "/pages/b.html".toList 1) := by
    decide +kernel
  obtain ⟨⟨hpages, -⟩, -, halone⟩ := renderFile_agrees (show engine.markup = {} from rfl) hpage hreadPage {} 3
  obtain ⟨⟨hlists, -⟩, -, -⟩ := renderFile_agrees (show engine.markup = {} from rfl) hlist hreadList {} 3
  exact ⟨hpage, hlist, hreadPage, hreadList, hok, halone _ hok, hpages.trans (congrArg _ hok), hdeep,
    hlists.trans (congrArg _ hdeep)⟩

end Engine

end Render

end Folio
