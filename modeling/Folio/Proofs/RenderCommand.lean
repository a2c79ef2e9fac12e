import Folio.Command.Help
import Folio.Proofs.CallLogs

/-!
# The command that renders

The command registers no extensions, so no include at any depth asks for head assets, and there is nothing to
put into the head of a page or to list in the log. What the command leaves behind is therefore the same with
and without the request for it. A run that fails, wherever it does, writes nothing to the output.
-/

namespace Folio

theorem HeadAssets.injectIntoHead_empty (html : Text) : HeadAssets.empty.injectIntoHead html = html := by
  unfold injectIntoHead
  cases hcut : Text.cut? headEnd html with
  | none => rfl
  | some parts =>
    rw [Text.eq_of_cut? hcut]
    change parts.1 ++ [] ++ headEnd ++ parts.2 = _
    rw [List.append_nil]

namespace Render.Engine

variable {σ : Type} {engine : Engine σ}

theorem callAssets_of_no_extensions (hnone : engine.registry.extensions = []) (call : Invocation) :
    engine.callAssets call = [] := by
  obtain ⟨callee, name, options⟩ := call
  cases callee with
  | tool => rfl
  | extension => simp [callAssets, Registry.extension?, hnone]

/-- Without extensions the assets of a rendering are empty, whatever its template and the files that it
includes call. -/
theorem assets_renderFile_of_no_extensions (hnone : engine.registry.extensions = []) {fields : Fields}
    {path : Path} {state : σ} {rendered : Rendered}
    (hok : (engine.renderFile fields path state).1 = .ok rendered) : rendered.assets = .empty := by
  obtain ⟨template, -, houtcome⟩ := renderFile_eq_start hok
  obtain ⟨-, -, hassets⟩ := bufferLog_of_start houtcome hok
  rw [hassets, List.flatMap_eq_nil_iff.2 fun call _ => callAssets_of_no_extensions hnone call]
  rfl

end Render.Engine

namespace Command

/-! ## What runs leave behind -/

theorem Result.code_output_eq_zero_iff {verbose : Bool} {result : Result} :
    (result.output verbose).code = 0 ↔ ∃ stdout, result.outcome = .ok stdout := by
  unfold Result.output
  cases result.outcome with
  | ok stdout => simp
  | error failure => simp

theorem Result.stdout_output_of_ok {verbose : Bool} {result : Result} {stdout : Text}
    (h : result.outcome = .ok stdout) : (result.output verbose).stdout = stdout := by
  unfold Result.output
  rw [h]

theorem Result.stdout_output_of_error {verbose : Bool} {result : Result} {failure : Failure}
    (h : result.outcome = .error failure) : (result.output verbose).stdout = [] := by
  unfold Result.output
  rw [h]

section

variable {files : FileTree} {invocation : Invocation} {run : Config → Result}

theorem code_runWith_eq_zero_iff : (runWith files invocation run).code = 0 ↔
    ∃ config stdout, loadConfig files invocation = .ok config ∧ (run config).outcome = .ok stdout := by
  unfold runWith
  cases hconfig : loadConfig files invocation with
  | error failure => simp
  | ok config => simp [Result.code_output_eq_zero_iff]

theorem stdout_runWith_of_ok {config : Config} {stdout : Text}
    (hconfig : loadConfig files invocation = .ok config) (hrun : (run config).outcome = .ok stdout) :
    (runWith files invocation run).stdout = stdout := by
  unfold runWith
  rw [hconfig]
  exact Result.stdout_output_of_ok hrun

theorem stdout_runWith_of_code_ne_zero (h : (runWith files invocation run).code ≠ 0) :
    (runWith files invocation run).stdout = [] := by
  unfold runWith
  cases hconfig : loadConfig files invocation with
  | error failure => rfl
  | ok config =>
    cases hrun : (run config).outcome with
    | ok stdout => exact absurd (code_runWith_eq_zero_iff.2 ⟨config, stdout, hconfig, hrun⟩) h
    | error failure => exact Result.stdout_output_of_error hrun

end

/-! ## Rendering -/

def renderEngine (files : FileTree) (config : Config) : Render.Engine Unit :=
  { markup := config.markup, maxIncludeDepth := config.render.maxIncludeDepth, files }

/-- Everything that the command reads is there, and the template is rendered. -/
def Renders (files : FileTree) (config : Config) (template : Path) (page : Option Path)
    (rendered : Render.Engine.Rendered) : Prop :=
  ∃ site loaded, Site.load files config = .ok site ∧ loadPage files config page = .ok loaded ∧
    ((renderEngine files config).renderFile ⟨site, loaded.fields⟩
      (Path.join config.rootPath template) ()).1 = .ok rendered

section

variable {files : FileTree} {config : Config} {template : Path} {page : Option Path}

theorem Renders.assets_eq {rendered : Render.Engine.Rendered}
    (h : Renders files config template page rendered) : rendered.assets = .empty := by
  obtain ⟨site, loaded, -, -, hok⟩ := h
  exact Render.Engine.assets_renderFile_of_no_extensions rfl hok

theorem runRender_true_eq_false (files : FileTree) (config : Config) (template : Path) (page : Option Path) :
    runRender files config template page true = runRender files config template page false := by
  unfold runRender
  cases hsite : Site.load files config with
  | error error => rfl
  | ok site =>
    cases hpage : loadPage files config page with
    | error failure => rfl
    | ok loaded =>
      have hassets : ∀ rendered, ((renderEngine files config).renderFile ⟨site, loaded.fields⟩
          (Path.join config.rootPath template) ()).1 = .ok rendered → rendered.assets = .empty :=
        fun rendered hok => Renders.assets_eq ⟨site, loaded, hsite, hpage, hok⟩
      unfold renderEngine at hassets
      dsimp only
      generalize Render.Engine.renderFile _ _ _ _ = outcome at hassets ⊢
      obtain ⟨result, run⟩ := outcome
      cases result with
      | error error => rfl
      | ok rendered =>
        have hempty : rendered.assets.urls = [] := congrArg HeadAssets.urls (hassets rendered rfl)
        dsimp only
        rw [if_pos rfl, if_neg Bool.false_ne_true, hempty, hassets rendered rfl,
          HeadAssets.injectIntoHead_empty, List.map_nil, List.append_nil]

theorem outcome_runRender_eq_ok_iff {stdout : Text} :
    (runRender files config template page false).outcome = .ok stdout ↔
      ∃ rendered, Renders files config template page rendered ∧ stdout = rendered.output ++ ['\n'] := by
  unfold runRender Renders renderEngine
  cases Site.load files config with
  | error error => simp
  | ok site =>
    cases loadPage files config page with
    | error failure => simp
    | ok loaded =>
      dsimp only
      simp only [Except.ok.injEq, exists_and_left, exists_eq_left']
      generalize Render.Engine.renderFile _ _ _ _ = outcome
      obtain ⟨result, run⟩ := outcome
      cases result with
      | error error => simp
      | ok rendered => simp [eq_comm]

end

/-- A run that renders is the same with and without the request for head assets, also where the command line is
written in another way. It succeeds exactly if everything is read and rendered; then there are no assets and
the text is printed. Otherwise nothing is printed. -/
theorem run_render_inject (files : FileTree) (invocation : Invocation) (template : Path)
    (page : Option Path) :
    let command := fun inject => { invocation with command := .render template page inject }
    let output := (command false).run files
    (command true).run files = output ∧
      (∀ args args', ofArguments args = .ok (command false) → ofArguments args' = .ok (command true) →
        run files args' = output ∧ run files args = output) ∧
      (output.code = 0 ↔ ∃ config rendered, loadConfig files invocation = .ok config ∧
        Renders files config template page rendered) ∧
      (∀ config rendered, loadConfig files invocation = .ok config →
        Renders files config template page rendered →
        rendered.assets = .empty ∧ output.stdout = rendered.output ++ ['\n']) ∧
      (output.code ≠ 0 → output.stdout = []) := by
  intro command output
  have houtput : output =
      runWith files (command false) fun config => runRender files config template page false := rfl
  -- without tools and extensions nothing asks for assets, so there is nothing to put into a head
  have hinject : (command true).run files = output := by
    change runWith files _ (fun config => runRender files config template page true) = _
    simp only [runRender_true_eq_false]
    rfl
  refine ⟨hinject, ?_, ?_, ?_, ?_⟩
  · intro args args' hargs hargs'
    constructor
    · rw [run, hargs', ← hinject]
    · rw [run, hargs]
  · rw [houtput, code_runWith_eq_zero_iff]
    constructor
    · rintro ⟨config, stdout, hconfig, hrun⟩
      obtain ⟨rendered, hrendered, -⟩ := outcome_runRender_eq_ok_iff.1 hrun
      exact ⟨config, rendered, hconfig, hrendered⟩
    · rintro ⟨config, rendered, hconfig, hrendered⟩
      exact ⟨config, _, hconfig, outcome_runRender_eq_ok_iff.2 ⟨rendered, hrendered, rfl⟩⟩
  · intro config rendered hconfig hrendered
    refine ⟨hrendered.assets_eq, ?_⟩
    rw [houtput]
    exact stdout_runWith_of_ok hconfig (outcome_runRender_eq_ok_iff.2 ⟨rendered, hrendered, rfl⟩)
  · exact stdout_runWith_of_code_ne_zero

/-- A template and a file that it includes, which ask for an extension in front of the end of a head. -/
theorem run_render_inject_head :
    let files : FileTree :=
      { root := .directory
          [("t.html".toList,
              .file (some "\x7b\x7bext:Map\x7d\x7d\x7b\x7binclude:a.html\x7d\x7d</head>".toList)),
            ("a.html".toList, .file (some "\x7b\x7bext:Map\x7d\x7d\x7b\x7bsite:sitename\x7d\x7d".toList))]
        workingDirectory := ['/'] }
    let template := "t.html".toList
    let invocation : Invocation := { verbose := true, command := .render template none false }
    let command := fun inject => { invocation with command := .render template none inject }
    let output := (command false).run files
    let args := ["-v".toList, "render".toList, template]
    let args' := ["-v".toList, "render".toList, template, "--inject".toList]
    let config := ({} : Config).apply files invocation
    let rendered : Render.Engine.Rendered := ⟨"localhost</head>".toList, .empty⟩
    (command true).run files = output ∧
      ofArguments args = .ok (command false) ∧ ofArguments args' = .ok (command true) ∧
      (run files args' = output ∧ run files args = output) ∧
      loadConfig files invocation = .ok config ∧ Renders files config template none rendered ∧
      output.code = 0 ∧
      (rendered.assets = .empty ∧ output.stdout = rendered.output ++ ['\n']) ∧
      ((Invocation.run files { invocation with command := .render [] none false }).code ≠ 0 ∧
        (Invocation.run files { invocation with command := .render [] none false }).stdout = []) := by
  intro files template invocation command output args args' config rendered
  have hargs : ofArguments args = .ok (command false) := by decide +kernel
  have hargs' : ofArguments args' = .ok (command true) := by decide +kernel
  have hconfig : loadConfig files invocation = .ok config := by decide +kernel
  have hrendered : Renders files config template none rendered :=
    ⟨Site.defaults files config, ⟨.empty, config.rootPath⟩, by decide +kernel, rfl, by decide +kernel⟩
  have hfails : (Invocation.run files { invocation with command := .render [] none false }).code ≠ 0 := by
    decide +kernel
  obtain ⟨hinject, hlines, hcode, hprints, -⟩ := run_render_inject files invocation template none
  obtain ⟨-, -, -, -, hsilent⟩ := run_render_inject files invocation [] none
  exact ⟨hinject, hargs, hargs', hlines args args' hargs hargs', hconfig, hrendered,
    hcode.2 ⟨config, rendered, hconfig, hrendered⟩, hprints config rendered hconfig hrendered,
    hfails, hsilent hfails⟩

end Command

end Folio
