import Folio.Proofs.CallLogs

/-!
# Field values are data

Two renderings of a template that differ in the values of fields only are compared moment by moment. The
values may change the options of calls and the text that comes out. With tools and extensions that do not
look at their options nothing else changes: not which calls are made and which files are included, not the
head assets, and not whether and why rendering stops.
-/

namespace Folio.Render

open Markup

variable {σ α β α' β' : Type}

def callees (events : List Event) : List (Callee × Text) :=
  (invocations events).map fun call => (call.callee, call.name)

def includedFiles (events : List Event) : List Path :=
  events.filterMap fun event =>
    match event with
    | .included path _ => some path
    | _ => none

/-- Moments of two runs that agree in all but options and texts. -/
structure Alike (run run' : Run σ) : Prop where
  state_eq : run.state = run'.state
  assets_eq : run.assets = run'.assets
  callees_eq : callees run.events = callees run'.events
  includedFiles_eq : includedFiles run.events = includedFiles run'.events

def Agree (V : α → β → Prop) : Except RenderError α → Except RenderError β → Prop
  | .ok value, .ok value' => V value value'
  | .error error, .error error' => error = error'
  | _, _ => False

/-- Two steps take runs that are alike to runs that are alike, and their results agree. -/
def Parallel (V : α → β → Prop) (step : RunM σ α) (step' : RunM σ β) : Prop :=
  ∀ run run', Alike run run' →
    Agree V (step.run.run run).1 (step'.run.run run').1 ∧
      Alike (step.run.run run).2 (step'.run.run run').2

theorem callees_append (events later : List Event) :
    callees (events ++ later) = callees events ++ callees later := by
  simp [callees, invocations]

theorem includedFiles_append (events later : List Event) :
    includedFiles (events ++ later) = includedFiles events ++ includedFiles later :=
  List.filterMap_append

namespace Alike

theorem refl (run : Run σ) : Alike run run := ⟨rfl, rfl, rfl, rfl⟩

variable {run run' : Run σ}

/-- Events that show the same calls and inclusions may be entered into both journals. -/
theorem record (h : Alike run run') {events events' : List Event}
    (hcallees : callees events = callees events')
    (hfiles : includedFiles events = includedFiles events') :
    Alike { run with events := run.events ++ events } { run' with events := run'.events ++ events' } where
  state_eq := h.state_eq
  assets_eq := h.assets_eq
  callees_eq := by rw [callees_append, callees_append, h.callees_eq, hcallees]
  includedFiles_eq := by rw [includedFiles_append, includedFiles_append, h.includedFiles_eq, hfiles]

end Alike

namespace Parallel

variable {V : α → β → Prop}

theorem pure {value : α} {value' : β} (h : V value value') :
    Parallel V (pure value : RunM σ α) (pure value' : RunM σ β) := fun _ _ halike => ⟨h, halike⟩

theorem throw (V : α → β → Prop) (error : RenderError) :
    Parallel V (throw error : RunM σ α) (throw error : RunM σ β) := fun _ _ halike => ⟨rfl, halike⟩

theorem bind {W : α' → β' → Prop} {step : RunM σ α} {step' : RunM σ β} {next : α → RunM σ α'}
    {next' : β → RunM σ β'} (h : Parallel V step step')
    (hnext : ∀ value value', V value value' → Parallel W (next value) (next' value')) :
    Parallel W (step >>= next) (step' >>= next') := by
  intro run run' halike
  have hstep := h run run' halike
  rw [run_bind, run_bind]
  generalize step.run.run run = outcome at hstep
  generalize step'.run.run run' = outcome' at hstep
  obtain ⟨result, after⟩ := outcome
  obtain ⟨result', after'⟩ := outcome'
  obtain ⟨hagree, hafter⟩ := hstep
  cases result with
  | ok value =>
    cases result' with
    | ok value' => exact hnext value value' hagree after after' hafter
    | error error' => exact hagree.elim
  | error error =>
    cases result' with
    | ok value' => exact hagree.elim
    | error error' => exact ⟨hagree, hafter⟩

theorem record (event : Event) :
    Parallel (fun _ _ => True) (record event : RunM σ Unit) (record event : RunM σ Unit) :=
  fun _ _ halike => ⟨trivial, halike.record rfl rfl⟩

theorem mono {W : α → β → Prop} {step : RunM σ α} {step' : RunM σ β} (h : Parallel V step step')
    (hmono : ∀ value value', V value value' → W value value') : Parallel W step step' := by
  have hpure : ∀ value value', V value value' →
      Parallel W (Pure.pure value : RunM σ α) (Pure.pure value' : RunM σ β) :=
    fun value value' hvalue => pure (hmono value value' hvalue)
  have hbind := h.bind hpure
  rwa [bind_pure, bind_pure] at hbind

theorem lift {step : StateM (Run σ) α} {step' : StateM (Run σ) β}
    (h : ∀ run run', Alike run run' →
      V (step.run run).1 (step'.run run').1 ∧ Alike (step.run run).2 (step'.run run').2) :
    Parallel V (liftM step : RunM σ α) (liftM step' : RunM σ β) := h

/-- Segments are filled alike if their placeholders are. -/
theorem fill {V : Text → Text → Prop} (hrefl : ∀ t, V t t)
    (happend : ∀ s s' t t', V s s' → V t t' → V (s ++ t) (s' ++ t'))
    {replace replace' : Token → RunM σ (Option Text)}
    (h : ∀ token, Parallel (fun replacement replacement' =>
      ∀ raw, V (replacement.getD raw) (replacement'.getD raw)) (replace token) (replace' token))
    (segments : List Segment) : Parallel V (fill replace segments) (fill replace' segments) := by
  induction segments with
  | nil => exact pure (hrefl [])
  | cons segment segments ih =>
    cases segment with
    | text content =>
      apply ih.bind
      intro rest rest' hrest
      exact pure (happend _ _ _ _ (hrefl content) hrest)
    | placeholder token raw =>
      apply (h token).bind
      intro replacement replacement' hreplacement
      apply ih.bind
      intro rest rest' hrest
      exact pure (happend _ _ _ _ (hreplacement raw) hrest)

end Parallel

namespace Engine

/-- The output and the effect of every tool and every extension do not depend on the options. -/
def IgnoresOptions (engine : Engine σ) : Prop :=
  ∀ callee name call, engine.callable? callee name = some call →
    ∀ options options' state, call options state = call options' state

variable {engine : Engine σ}

theorem lift_fill (replace : Token → StateM (Run σ) (Option Text)) (segments : List Segment) :
    (liftM (fill replace segments) : RunM σ Text) = fill (fun token => liftM (replace token)) segments := by
  induction segments with
  | nil => rfl
  | cons segment segments ih =>
    cases segment with
    | text content =>
      rw [fill, fill, liftM_bind, ih]
      rfl
    | placeholder token raw =>
      rw [fill, fill, liftM_bind]
      congr 1
      funext replacement
      rw [liftM_bind, ih]
      rfl

/-! ## The passes over a buffer -/

theorem IgnoresOptions.perform_eq (hignores : engine.IgnoresOptions) (callee : Callee) (name : Text)
    (options options' : Options) (state : σ) :
    engine.perform ⟨callee, name, options⟩ state =
      engine.perform ⟨callee, name, options'⟩ state := by
  unfold perform
  cases hcall : engine.callable? callee name with
  | none => rfl
  | some call => exact hignores callee name call hcall options options' state

theorem callees_segmentEvents (fields fields' : Fields) (segment : Segment) :
    callees (engine.segmentEvents fields segment) = callees (engine.segmentEvents fields' segment) := by
  rw [callees, callees, invocations_segmentEvents, invocations_segmentEvents]
  match segment with
  | .text content => rfl
  | .placeholder (.field scope name) raw => rfl
  | .placeholder (.inclusion path) raw => rfl
  | .placeholder (.call callee name payload) raw =>
    simp only [segmentCall?]
    cases engine.callable? callee name with
    | none => rfl
    | some call => rfl

theorem includedFiles_segmentEvents (fields : Fields) (segment : Segment) :
    includedFiles (engine.segmentEvents fields segment) = [] := by
  match segment with
  | .text content => rfl
  | .placeholder (.field scope name) raw => rfl
  | .placeholder (.inclusion path) raw => rfl
  | .placeholder (.call callee name payload) raw =>
    have hcall (options : Options) : includedFiles [engine.callEvent callee name options] = [] := by
      unfold callEvent
      split <;> rfl
    simp only [segmentEvents, includedFiles_append, hcall, List.append_nil, rejections]
    cases engine.decodeCall fields payload with
    | ok options => rfl
    | error rejection => rfl

theorem parallel_replaceCall (hignores : engine.IgnoresOptions) (fields fields' : Fields) (token : Token) :
    Parallel Eq (liftM (engine.replaceCall fields token) : RunM σ (Option Text))
      (liftM (engine.replaceCall fields' token)) := by
  cases token with
  | field scope name => exact .pure rfl
  | inclusion path => exact .pure rfl
  | call callee name payload =>
    apply Parallel.lift
    intro run run' halike
    have hstate := halike.state_eq
    have hperform := hignores.perform_eq callee name (engine.writtenOptions fields payload)
      (engine.writtenOptions fields' payload) run.state
    have hcallees := engine.callees_segmentEvents fields fields'
      (.placeholder (.call callee name payload) [])
    have hfiles : includedFiles (engine.segmentEvents fields (.placeholder (.call callee name payload) [])) =
        includedFiles (engine.segmentEvents fields' (.placeholder (.call callee name payload) [])) := by
      rw [includedFiles_segmentEvents, includedFiles_segmentEvents]
    have hafter := halike.record hcallees hfiles
    rw [run_replaceCall fields callee name payload [] run,
      run_replaceCall fields' callee name payload [] run', hperform, hstate]
    exact ⟨rfl, rfl, hafter.assets_eq, hafter.callees_eq, hafter.includedFiles_eq⟩

theorem parallel_resolveCalls (hignores : engine.IgnoresOptions) (fields fields' : Fields) (buffer : Text) :
    Parallel Eq (engine.resolveCalls fields buffer : RunM σ Text) (engine.resolveCalls fields' buffer) := by
  have heq (fields : Fields) : (engine.resolveCalls fields buffer : RunM σ Text) =
      fill (fun token => liftM (engine.replaceCall fields token)) (scan engine.markup buffer) :=
    lift_fill (engine.replaceCall fields) _
  rw [heq, heq]
  apply Parallel.fill (fun _ => rfl) (by rintro s _ t _ rfl rfl; rfl)
  intro token
  apply (parallel_replaceCall hignores fields fields' token).mono
  rintro replacement _ rfl raw
  rfl

abbrev AnyTexts (_ _ : Text) : Prop := True

theorem parallel_resolveFields (fields fields' : Fields) (base : Path)
    {expand expand' : Path → RunM σ Text}
    (hexpand : ∀ file, Parallel AnyTexts (expand file) (expand' file)) (buffer : Text) :
    Parallel AnyTexts (engine.resolveFields fields base expand buffer)
      (engine.resolveFields fields' base expand' buffer) := by
  apply Parallel.fill (fun _ => trivial) (fun _ _ _ _ _ _ => trivial)
  intro token
  cases token with
  | field scope name => exact .pure fun _ => trivial
  | call callee name payload => exact .pure fun _ => trivial
  | inclusion path =>
    dsimp only
    split
    · apply (Parallel.record _).bind
      rintro _ _ -
      exact .pure fun _ => trivial
    · apply (hexpand _).bind
      rintro _ _ -
      exact .pure fun _ => trivial

def FieldsAside (engine : Engine σ) (fields fields' : Fields) (levels : Nat) : Prop :=
  ∀ stack base buffer, Parallel AnyTexts (engine.renderBuffer fields levels stack base buffer)
    (engine.renderBuffer fields' levels stack base buffer)

theorem parallel_expand {fields fields' : Fields} {levels : Nat}
    (hinner : ∀ inner, levels = inner + 1 → engine.FieldsAside fields fields' inner) (stack : List Path)
    (file : Path) : Parallel AnyTexts (engine.expand fields levels stack file)
      (engine.expand fields' levels stack file) := by
  unfold expand
  split
  · dsimp only
    split
    · exact .throw _ _
    · cases levels with
      | zero => exact .throw _ _
      | succ inner =>
        dsimp only
        cases engine.files.read file with
        | error cause =>
          apply (Parallel.record _).bind
          rintro _ _ -
          exact .pure trivial
        | ok content =>
          apply (Parallel.record _).bind
          rintro _ _ -
          exact hinner inner rfl _ _ _
  · apply (Parallel.record _).bind
    rintro _ _ -
    exact .pure trivial

theorem fieldsAside (hignores : engine.IgnoresOptions) (fields fields' : Fields) (levels : Nat) :
    engine.FieldsAside fields fields' levels := by
  induction levels using Nat.strongRecOn with
  | ind levels ih =>
    intro stack base buffer
    rw [renderBuffer_eq, renderBuffer_eq]
    have hcollect :
        Parallel Eq (engine.collectAssets buffer : RunM σ Unit) (engine.collectAssets buffer) := by
      intro run run' halike
      exact ⟨rfl, halike.state_eq, congrArg (HeadAssets.insertAll · _) halike.assets_eq,
        halike.callees_eq, halike.includedFiles_eq⟩
    apply hcollect.bind
    rintro _ _ -
    apply (parallel_resolveCalls hignores fields fields' buffer).bind
    rintro called _ rfl
    apply parallel_resolveFields
    apply parallel_expand
    intro inner hinner
    exact ih inner (by omega)

structure SameButTexts (outcome outcome' : Except RenderError Rendered × Run σ) : Prop where
  ends : (∃ error, outcome.1 = .error error ∧ outcome'.1 = .error error) ∨
    ∃ rendered rendered', outcome.1 = .ok rendered ∧ outcome'.1 = .ok rendered' ∧
      rendered.assets = rendered'.assets
  callees_eq : callees outcome.2.events = callees outcome'.2.events
  includedFiles_eq : includedFiles outcome.2.events = includedFiles outcome'.2.events

theorem sameButTexts_start {steps steps' : RunM σ Text} (h : Parallel AnyTexts steps steps') (state : σ) :
    SameButTexts (start state steps) (start state steps') := by
  have hstart := h { state } { state } (.refl _)
  unfold start
  generalize steps.run.run { state } = outcome at hstart
  generalize steps'.run.run { state } = outcome' at hstart
  obtain ⟨result, run⟩ := outcome
  obtain ⟨result', run'⟩ := outcome'
  obtain ⟨hagree, halike⟩ := hstart
  refine ⟨?_, halike.callees_eq, halike.includedFiles_eq⟩
  cases result with
  | ok output =>
    cases result' with
    | ok output' => exact .inr ⟨_, _, rfl, rfl, halike.assets_eq⟩
    | error error' => exact hagree.elim
  | error error =>
    cases result' with
    | ok output' => exact hagree.elim
    | error error' =>
      obtain rfl : error = error' := hagree
      exact .inl ⟨error, rfl, rfl⟩

/-- If tools and extensions do not look at their options, the values of fields have no influence on calls,
on included files, on assets and on errors. -/
theorem render_sameButTexts (hignores : engine.IgnoresOptions) (fields fields' : Fields) (state : σ) :
    (∀ base template, SameButTexts (engine.render fields base template state)
      (engine.render fields' base template state)) ∧
    ∀ path, SameButTexts (engine.renderFile fields path state) (engine.renderFile fields' path state) := by
  have hbuffers := fieldsAside hignores fields fields' engine.maxIncludeDepth
  constructor
  · intro base template
    exact sameButTexts_start (hbuffers _ _ _) state
  · intro path
    unfold renderFile
    cases engine.files.read path with
    | error cause => exact ⟨.inl ⟨_, rfl, rfl⟩, rfl, rfl⟩
    | ok template => exact sameButTexts_start (hbuffers _ _ _) state

/-- A field that holds an inclusion and a call, in a payload and in the text of a template, against a missing
one. -/
theorem render_sameButTexts_markup :
    let engine : Engine Nat :=
      { registry := { tools := [("Next".toList, ⟨fun _ n => ("\x7b\x7bpage:t\x7d\x7d".toList, n + 1)⟩)] }
        files :=
          { root := .directory
              [("a.html".toList, .file (some "\x7b\x7bpage:t\x7d\x7d\x7b\x7binclude:b.html\x7d\x7d".toList)),
                ("b.html".toList, .file (some "b".toList))]
            workingDirectory := ['/'] } }
    let fields : Fields :=
      { page := .ofList
          [("t".toList, "\x7b\x7binclude:a.html\x7d\x7d\x7b\x7btool:Next\x7d\x7d".toList)] }
    let template := "\x7b\x7btool:Next \x7bk: \x7b\x7bpage:t\x7d\x7d\x7d\x7d\x7d\x7b\x7bpage:t\x7d\x7d".toList
    let path := "a.html".toList
    engine.IgnoresOptions ∧
      SameButTexts (engine.render fields [] template 0) (engine.render {} [] template 0) ∧
      SameButTexts (engine.renderFile fields path 0) (engine.renderFile {} path 0) := by
  intro engine fields template path
  have hignores : engine.IgnoresOptions := by
    intro callee name call hcall options options' state
    cases callee with
    | tool =>
      obtain ⟨tool, htool, rfl⟩ := Option.map_eq_some_iff.1 hcall
      obtain ⟨before, after, htools, -⟩ := List.lookup_eq_some_iff.1 htool
      have hmem : (name, tool) ∈ engine.registry.tools :=
        htools ▸ List.mem_append_right _ List.mem_cons_self
      obtain ⟨-, rfl⟩ := Prod.mk.inj (List.mem_singleton.1 hmem)
      rfl
    | extension => cases hcall
  have h := render_sameButTexts hignores fields {} 0
  exact ⟨hignores, h.1 [] template, h.2 path⟩

end Engine

end Folio.Render
