import Folio.Proofs.CallEffects

/-!
# Renderings side by side

A rendering is followed by a second one with another bound on includes or with other files around it. As
long as the first one goes on, both give the same texts and make the same calls. Where the first one stops,
an answer to its error says how the second one stops; without an answer the second one may go on. That all
this holds for whole buffers follows from what is asked of the bounds and the stacks at a single include.
-/

namespace Folio.Render

open Markup

variable {σ α β : Type}

structure SameCalls (run run' : Run σ) : Prop where
  state_eq : run'.state = run.state
  assets_eq : run'.assets = run.assets
  invocations_eq : invocations run'.events = invocations run.events

theorem SameCalls.refl (run : Run σ) : SameCalls run run := ⟨rfl, rfl, rfl⟩

structure SameOutcome (outcome outcome' : Except RenderError Engine.Rendered × Run σ) : Prop where
  result_eq : outcome'.1 = outcome.1
  calls : SameCalls outcome.2 outcome'.2

theorem SameOutcome.refl (outcome : Except RenderError Engine.Rendered × Run σ) :
    SameOutcome outcome outcome :=
  ⟨rfl, .refl _⟩

/-- What a second run has to end with, if anything is asked of it. -/
def answered (answer : RenderError → Option RenderError) :
    Except RenderError α → Option (Except RenderError α)
  | .ok value => some (.ok value)
  | .error error => (answer error).map .error

/-- A second step does what the first one does, up to the answers to errors. -/
def Mirrors (answer : RenderError → Option RenderError) (step step' : RunM σ α) : Prop :=
  ∀ run run', SameCalls run run' → ∀ result ∈ answered answer (step.run.run run).1,
    (step'.run.run run').1 = result ∧ SameCalls (step.run.run run).2 (step'.run.run run').2

namespace Mirrors

variable {answer : RenderError → Option RenderError}

theorem pure (answer : RenderError → Option RenderError) (value : α) :
    Mirrors answer (pure value : RunM σ α) (pure value) := by
  intro run run' hsame result hresult
  exact ⟨Option.some.inj hresult, hsame⟩

theorem throw {error : RenderError} {step' : RunM σ α}
    (h : ∀ error' ∈ answer error, step' = throw error') :
    Mirrors answer (throw error : RunM σ α) step' := by
  intro run run' hsame result hresult
  obtain ⟨error', herror, rfl⟩ := Option.map_eq_some_iff.1 hresult
  rw [h error' herror]
  exact ⟨rfl, hsame⟩

theorem bind {step step' : RunM σ α} {next next' : α → RunM σ β} (h : Mirrors answer step step')
    (hnext : ∀ value, Mirrors answer (next value) (next' value)) :
    Mirrors answer (step >>= next) (step' >>= next') := by
  intro run run' hsame
  have hstep := h run run' hsame
  rw [run_bind, run_bind]
  generalize step.run.run run = outcome at hstep
  generalize step'.run.run run' = outcome' at hstep
  obtain ⟨result, after⟩ := outcome
  obtain ⟨result', after'⟩ := outcome'
  cases result with
  | ok value =>
    obtain ⟨hresult, hafter⟩ := hstep _ rfl
    obtain rfl : result' = .ok value := hresult
    exact hnext value after after' hafter
  | error error =>
    intro result hresult
    obtain ⟨error', herror, rfl⟩ := Option.map_eq_some_iff.1 hresult
    obtain ⟨hstop, hafter⟩ := hstep (.error error') (Option.map_eq_some_iff.2 ⟨error', herror, rfl⟩)
    obtain rfl : result' = .error error' := hstop
    exact ⟨rfl, hafter⟩

theorem lift {step step' : StateM (Run σ) α}
    (h : ∀ run run', SameCalls run run' →
      (step'.run run').1 = (step.run run).1 ∧ SameCalls (step.run run).2 (step'.run run').2) :
    Mirrors answer (liftM step : RunM σ α) (liftM step') := by
  intro run run' hsame result hresult
  obtain rfl : Except.ok (step.run run).1 = result := Option.some.inj hresult
  obtain ⟨hvalue, hafter⟩ := h run run' hsame
  exact ⟨congrArg Except.ok hvalue, hafter⟩

/-- Events that are no calls may differ. -/
theorem record {event event' : Event} (h : invocations [event] = []) (h' : invocations [event'] = []) :
    Mirrors answer (record event : RunM σ Unit) (record event') := by
  change Mirrors answer (liftM (Render.record event : StateM (Run σ) Unit))
    (liftM (Render.record event' : StateM (Run σ) Unit))
  apply lift
  intro run run' hsame
  refine ⟨rfl, hsame.state_eq, hsame.assets_eq, ?_⟩
  change invocations (run'.events ++ [event']) = invocations (run.events ++ [event])
  rw [invocations_append, invocations_append, h, h', hsame.invocations_eq]

/-- A step that makes no call may come first. -/
theorem after_record {step step' : RunM σ α} (h : Mirrors answer step step') {event : Event}
    (hevent : invocations [event] = []) :
    Mirrors answer step (Render.record event >>= fun _ => step') := by
  intro run run' hsame
  have hafter : SameCalls run { run' with events := run'.events ++ [event] } := by
    refine ⟨hsame.state_eq, hsame.assets_eq, ?_⟩
    dsimp only
    rw [invocations_append, hevent, List.append_nil, hsame.invocations_eq]
  exact h run _ hafter

theorem fill {replace replace' : Token → RunM σ (Option Text)}
    (h : ∀ token, Mirrors answer (replace token) (replace' token)) (segments : List Segment) :
    Mirrors answer (fill replace segments) (fill replace' segments) :=
  related_fill (R := fun step step' => Mirrors answer step step') (pure answer) bind h segments

/-- What is known of steps is known of the renderings that they are. -/
theorem start {steps steps' : RunM σ Text} (h : Mirrors answer steps steps') (state : σ)
    {result : Except RenderError Engine.Rendered}
    (hresult : result ∈ answered answer (Engine.start state steps).1) :
    (Engine.start state steps').1 = result ∧
      SameCalls (Engine.start state steps).2 (Engine.start state steps').2 := by
  have hsteps := h { state } { state } (.refl _)
  unfold Engine.start at hresult ⊢
  generalize steps.run.run { state } = outcome at hsteps hresult ⊢
  generalize steps'.run.run { state } = outcome' at hsteps ⊢
  obtain ⟨ended, run⟩ := outcome
  obtain ⟨ended', run'⟩ := outcome'
  cases ended with
  | ok output =>
    obtain ⟨hended, hsame⟩ := hsteps _ rfl
    obtain rfl : ended' = .ok output := hended
    obtain rfl : Except.ok ⟨output, run.assets⟩ = result := Option.some.inj hresult
    refine ⟨?_, hsame⟩
    change Except.ok (⟨output, run'.assets⟩ : Engine.Rendered) = _
    rw [hsame.assets_eq]
  | error error =>
    obtain ⟨error', herror, rfl⟩ := Option.map_eq_some_iff.1 hresult
    obtain ⟨hended, hsame⟩ := hsteps (.error error') (Option.map_eq_some_iff.2 ⟨error', herror, rfl⟩)
    obtain rfl : ended' = .error error' := hended
    exact ⟨rfl, hsame⟩

end Mirrors

namespace Engine

def withBound (engine : Engine σ) (bound : Nat) : Engine σ := { engine with maxIncludeDepth := bound }

variable {engine : Engine σ} {answer : RenderError → Option RenderError}

theorem mirrors_collectAssets (buffer : Text) :
    Mirrors answer (engine.collectAssets buffer : RunM σ Unit) (engine.collectAssets buffer) := by
  apply Mirrors.lift
  intro run run' hsame
  exact ⟨rfl, hsame.state_eq, congrArg (HeadAssets.insertAll · _) hsame.assets_eq, hsame.invocations_eq⟩

theorem mirrors_resolveCalls (fields : Fields) (buffer : Text) :
    Mirrors answer (engine.resolveCalls fields buffer : RunM σ Text) (engine.resolveCalls fields buffer) := by
  apply Mirrors.lift
  intro run run' hsame
  rw [run_resolveCalls, run_resolveCalls, hsame.state_eq]
  refine ⟨rfl, rfl, hsame.assets_eq, ?_⟩
  dsimp only
  rw [invocations_append, invocations_append, hsame.invocations_eq]

theorem mirrors_resolveFields (fields : Fields) (base : Path) {expand expand' : Path → RunM σ Text}
    (hexpand : ∀ file, Mirrors answer (expand file) (expand' file)) (buffer : Text) :
    Mirrors answer (engine.resolveFields fields base expand buffer)
      (engine.resolveFields fields base expand' buffer) := by
  apply Mirrors.fill
  intro token
  cases token with
  | field scope name => exact .pure answer _
  | call callee name payload => exact .pure answer _
  | inclusion path =>
    dsimp only
    split
    · apply (Mirrors.record rfl rfl).bind
      intro
      exact .pure answer _
    · apply (hexpand _).bind
      intro output
      exact .pure answer _

/-- What is asked of the levels and the stacks of two renderings for every include of the first one to be
mirrored. The bounds are those that the errors name. -/
structure Simulation (answer : RenderError → Option RenderError) (bound bound' : Nat)
    (Related : Nat → List Path → Nat → List Path → Prop) : Prop where
  subset {levels levels' : Nat} {stack stack' : List Path} :
    Related levels stack levels' stack' → stack' ⊆ stack
  circular {levels levels' : Nat} {stack stack' : List Path} {path : Path} :
    Related levels stack levels' stack' → path ∈ stack →
      ∀ error ∈ answer (.circular path stack), path ∈ stack' ∧ error = .circular path stack'
  tooDeep {levels' : Nat} {stack stack' : List Path} {path : Path} :
    Related 0 stack levels' stack' →
      ∀ error ∈ answer (.tooDeep path bound), levels' = 0 ∧ error = .tooDeep path bound'
  inner {levels levels' : Nat} {stack stack' : List Path} :
    Related (levels + 1) stack levels' stack' → ∃ inner, levels' = inner + 1 ∧
      ∀ path, Related levels (stack ++ [path]) inner (stack' ++ [path])

namespace Simulation

variable {bound : Nat} {Related : Nat → List Path → Nat → List Path → Prop}

def Buffers (engine : Engine σ) (fields : Fields) (answer : RenderError → Option RenderError) (bound : Nat)
    (Related : Nat → List Path → Nat → List Path → Prop) (levels : Nat) : Prop :=
  ∀ levels' stack stack', Related levels stack levels' stack' → ∀ base buffer,
    Mirrors answer (engine.renderBuffer fields levels stack base buffer)
      ((engine.withBound bound).renderBuffer fields levels' stack' base buffer)

theorem mirrors_expand (h : Simulation answer engine.maxIncludeDepth bound Related) {fields : Fields}
    {levels levels' : Nat} {stack stack' : List Path} (hrelated : Related levels stack levels' stack')
    (hinner : ∀ inner, levels = inner + 1 → Buffers engine fields answer bound Related inner)
    (file : Path) : Mirrors answer (engine.expand fields levels stack file)
      ((engine.withBound bound).expand fields levels' stack' file) := by
  have hexpansion := engine.expansion fields levels stack file
  generalize engine.expand fields levels stack file = step at hexpansion ⊢
  -- a file that is not on the stack of the first rendering is not on that of the second one either
  have hsubset := h.subset hrelated
  cases hexpansion with
  | missing hfile =>
    rw [(engine.withBound bound).expand_of_not_isFile hfile]
    apply (Mirrors.record rfl rfl).bind
    intro
    exact .pure answer _
  | circular hfile hmem =>
    apply Mirrors.throw
    intro error herror
    obtain ⟨hmem', rfl⟩ := h.circular hrelated hmem error herror
    exact (engine.withBound bound).expand_of_mem hfile hmem'
  | tooDeep hfile hmem =>
    apply Mirrors.throw
    intro error herror
    obtain ⟨rfl, rfl⟩ := h.tooDeep hrelated error herror
    exact (engine.withBound bound).expand_zero hfile fun hmem' => hmem (hsubset hmem')
  | unreadable hfile hmem hread =>
    obtain ⟨inner, rfl, -⟩ := h.inner hrelated
    rw [(engine.withBound bound).expand_of_unreadable hfile (fun hmem' => hmem (hsubset hmem')) hread]
    apply (Mirrors.record rfl rfl).bind
    intro
    exact .pure answer _
  | text hfile hmem hread =>
    obtain ⟨inner, rfl, hnext⟩ := h.inner hrelated
    rw [(engine.withBound bound).expand_of_read hfile (fun hmem' => hmem (hsubset hmem')) hread]
    apply (Mirrors.record rfl rfl).bind
    intro
    exact hinner _ rfl _ _ _ (hnext _) _ _

theorem buffers (h : Simulation answer engine.maxIncludeDepth bound Related) (fields : Fields)
    (levels : Nat) : Buffers engine fields answer bound Related levels := by
  -- a file is rendered with one level less than what includes it
  induction levels using Nat.strongRecOn with
  | ind levels ih =>
    intro levels' stack stack' hrelated base buffer
    rw [renderBuffer_eq, renderBuffer_eq]
    apply (mirrors_collectAssets buffer).bind
    intro
    apply (mirrors_resolveCalls fields buffer).bind
    intro called
    apply mirrors_resolveFields
    apply h.mirrors_expand hrelated
    intro inner hinner
    exact ih inner (by omega)

end Simulation

end Engine

end Folio.Render
