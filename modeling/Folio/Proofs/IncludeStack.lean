import Folio.Proofs.CallLogs

/-!
# The stack of includes

A rendering that keeps the files around a buffer and the number of includes in its state, changes both when an
include begins and changes them back when it ends, with or without an error. It goes on as long as texts ask for
files. Calls nest no deeper than the bound on includes allows nevertheless, so it always ends, and it gives what
the engine gives. Wherever it enters or leaves a buffer or an include, no file is on the stack twice and the
number of includes is that of the files on it.
-/

namespace Folio

theorem HeadAssets.prefix_urls_insertAll (assets : HeadAssets) (urls : List Text) :
    assets.urls <+: (assets.insertAll urls).urls := by
  induction urls generalizing assets with
  | nil => exact List.prefix_refl _
  | cons url urls ih =>
    have hinsert : assets.urls <+: (assets.insert url).urls := by
      unfold insert
      split
      · exact List.prefix_refl _
      · exact List.prefix_append _ _
    exact hinsert.trans (ih _)

namespace Render

open Markup

variable {σ α β : Type}

/-! ## Machines -/

/-- The files that are being rendered, outermost first, and the number of includes among them. -/
structure Nesting where
  stack : List Path := []
  depth : Nat := 0
deriving DecidableEq

namespace Nesting

def push (path : Path) (nesting : Nesting) : Nesting := ⟨nesting.stack ++ [path], nesting.depth + 1⟩

def pop (nesting : Nesting) : Nesting := ⟨nesting.stack.dropLast, nesting.depth - 1⟩

@[simp] theorem pop_push (path : Path) (nesting : Nesting) : (nesting.push path).pop = nesting := by
  simp [push, pop]

/-- No file is on the stack twice, `outside` of them are there without an include, and includes nest at most
`bound` deep. -/
structure Sound (bound outside : Nat) (nesting : Nesting) : Prop where
  nodup : nesting.stack.Nodup
  depth_add : nesting.depth + outside = nesting.stack.length
  depth_le : nesting.depth ≤ bound

theorem Sound.push {bound outside : Nat} {nesting : Nesting} {path : Path}
    (h : nesting.Sound bound outside) (hmem : path ∉ nesting.stack) (hdepth : nesting.depth < bound) :
    (nesting.push path).Sound bound outside where
  nodup := Engine.nodup_append_singleton h.nodup hmem
  depth_add := by
    have := h.depth_add
    simp only [Nesting.push, List.length_append, List.length_singleton]
    omega
  depth_le := hdepth

end Nesting

inductive Place where
  | enterBuffer
  | leaveBuffer
  | enterInclude
  | leaveInclude
deriving DecidableEq

structure Machine (σ : Type) where
  run : Run σ
  nesting : Nesting := {}
  moments : List (Place × Nesting) := []

namespace Machine

def visit (place : Place) (machine : Machine σ) : Machine σ :=
  { machine with moments := machine.moments ++ [(place, machine.nesting)] }

def push (path : Path) (machine : Machine σ) : Machine σ :=
  { machine with nesting := machine.nesting.push path }

def pop (machine : Machine σ) : Machine σ := { machine with nesting := machine.nesting.pop }

end Machine

/-- A call on a machine. It gives nothing where calls nest deeper than they may. -/
abbrev MachineM (σ : Type) : Type → Type := ExceptT RenderError (StateT (Machine σ) Option)

def onRun (step : StateM (Run σ) α) : MachineM σ α := fun machine =>
  some (.ok (step.run machine.run).1, { machine with run := (step.run machine.run).2 })

/-- A call with changes of the machine before and after it. The second one is made whether it fails or not. -/
def between (first second : Machine σ → Machine σ) (call : MachineM σ α) : MachineM σ α := fun machine =>
  (call.run.run (first machine)).map fun (result, after) => (result, second after)

theorem run_between {first second : Machine σ → Machine σ} {call : MachineM σ α} {machine after : Machine σ}
    {result : Except RenderError α} (h : call.run.run (first machine) = some (result, after)) :
    (between first second call).run.run machine = some (result, second after) := by
  change (call.run.run (first machine)).map _ = _
  rw [h]
  rfl

def observed (place place' : Place) (call : MachineM σ α) : MachineM σ α :=
  between (·.visit place) (·.visit place') call

namespace Engine

section

variable (engine : Engine σ) (fields : Fields)

def traceFile (renderBuffer : Path → Text → MachineM σ Text) (file : Path) : MachineM σ Text := do
  if engine.files.isFile file then
    let path := engine.files.canonical file
    let machine ← get
    if path ∈ machine.nesting.stack then throw (.circular path machine.nesting.stack)
    else if engine.maxIncludeDepth ≤ machine.nesting.depth then
      throw (.tooDeep path engine.maxIncludeDepth)
    else
      match engine.files.read file with
      | .error cause =>
        onRun (record (.unreadableSkipped file cause))
        return []
      | .ok content =>
        onRun (record (.included file machine.nesting.stack))
        between (·.push path) Machine.pop (renderBuffer (Path.directory file) content)
  else
    onRun (record (.missingSkipped file))
    return []

def traceInclude (renderBuffer : Path → Text → MachineM σ Text) (file : Path) : MachineM σ Text :=
  observed .enterInclude .leaveInclude (engine.traceFile renderBuffer file)

def traceToken (renderFile : Path → MachineM σ Text) (base : Path) : Token → MachineM σ (Option Text)
  | .field scope name => return some (fieldText fields scope name)
  | .inclusion path =>
    if Path.isAbsolute path then do
      onRun (record (.absoluteSkipped path))
      return some []
    else return some (← renderFile (Path.join base path))
  | .call _ _ _ => return none

def tracePasses (renderFile : Path → MachineM σ Text) (base : Path) (buffer : Text) : MachineM σ Text := do
  onRun (engine.collectAssets buffer)
  let called ← onRun (engine.resolveCalls fields buffer)
  substitute engine.markup (traceToken fields renderFile base) called

/-- Renders a buffer, with at most `frames` buffers inside one another. -/
def traceBuffer (frames : Nat) (base : Path) (buffer : Text) : MachineM σ Text :=
  match frames with
  | 0 => fun _ => none
  | frames + 1 => observed .enterBuffer .leaveBuffer
    (engine.tracePasses fields (engine.traceInclude (traceBuffer frames)) base buffer)

def finish (outcome : Except RenderError Text × Machine σ) : Except RenderError Rendered × Machine σ :=
  (outcome.1.map fun output => ⟨output, outcome.2.run.assets⟩, outcome.2)

def traceRender (frames : Nat) (base : Path) (template : Text) (state : σ) :
    Option (Except RenderError Rendered × Machine σ) :=
  (engine.traceBuffer fields frames base template { run := { state } }).map finish

def traceRenderFile (frames : Nat) (path : Path) (state : σ) :
    Option (Except RenderError Rendered × Machine σ) :=
  match engine.files.read path with
  | .error cause => some (.error (.unreadable path cause), { run := { state } })
  | .ok template =>
    (engine.traceBuffer fields frames (Path.directory path) template
      { run := { state }, nesting := { stack := [engine.files.canonical path] } }).map finish

end

/-! ## What a call keeps -/

/-- Between two moments of a machine the nesting has come back, assets were only added, and the places in
between are as sound as the first one. -/
structure Keeps (engine : Engine σ) (machine after : Machine σ) : Prop where
  nesting_eq : after.nesting = machine.nesting
  urls_prefix : machine.run.assets.urls <+: after.run.assets.urls
  moments : ∃ later, after.moments = machine.moments ++ later ∧
    ∀ outside, machine.nesting.Sound engine.maxIncludeDepth outside →
      ∀ moment ∈ later, moment.2.Sound engine.maxIncludeDepth outside

variable {engine : Engine σ} {fields : Fields} {nesting : Nesting}

namespace Keeps

variable {machine middle after : Machine σ}

theorem trans (h : engine.Keeps machine middle) (h' : engine.Keeps middle after) :
    engine.Keeps machine after where
  nesting_eq := h'.nesting_eq.trans h.nesting_eq
  urls_prefix := h.urls_prefix.trans h'.urls_prefix
  moments := by
    obtain ⟨first, hfirst, hsound⟩ := h.moments
    obtain ⟨second, hsecond, hsound'⟩ := h'.moments
    rw [h.nesting_eq] at hsound'
    refine ⟨first ++ second, by rw [hsecond, hfirst, List.append_assoc], ?_⟩
    intro outside hnesting
    exact List.forall_mem_append.2 ⟨hsound outside hnesting, hsound' outside hnesting⟩

theorem of_run {run : Run σ} (h : machine.run.assets.urls <+: run.assets.urls) :
    engine.Keeps machine { machine with run } :=
  ⟨rfl, h, [], (List.append_nil _).symm, by simp⟩

theorem refl (machine : Machine σ) : engine.Keeps machine machine := of_run (List.prefix_refl _)

theorem visit (machine : Machine σ) (place : Place) : engine.Keeps machine (machine.visit place) := by
  refine ⟨rfl, List.prefix_refl _, [(place, machine.nesting)], rfl, ?_⟩
  intro outside hnesting
  exact List.forall_mem_singleton.2 hnesting

/-- An include that may begin ends with the nesting with which it began. -/
theorem pop {path : Path} (hmem : path ∉ machine.nesting.stack)
    (hdepth : machine.nesting.depth < engine.maxIncludeDepth) (h : engine.Keeps (machine.push path) after) :
    engine.Keeps machine after.pop where
  nesting_eq := by simp [Machine.pop, h.nesting_eq, Machine.push]
  urls_prefix := h.urls_prefix
  moments := by
    obtain ⟨later, hmoments, hsound⟩ := h.moments
    exact ⟨later, hmoments, fun outside hnesting => hsound outside (hnesting.push hmem hdepth)⟩

end Keeps

/-- From every machine with this nesting a call gives what a step of a rendering gives, and leaves the run as
the step leaves it. -/
def Traces (engine : Engine σ) (nesting : Nesting) (call : MachineM σ α) (step : RunM σ α) : Prop :=
  ∀ machine, machine.nesting = nesting → ∃ after,
    call.run.run machine = some ((step.run.run machine.run).1, after) ∧
      after.run = (step.run.run machine.run).2 ∧ engine.Keeps machine after

namespace Traces

variable {call : MachineM σ α} {step : RunM σ α}

theorem pure (value : α) : Traces engine nesting (Pure.pure value) (Pure.pure value) :=
  fun machine _ => ⟨machine, rfl, rfl, .refl machine⟩

theorem throw (error : RenderError) :
    Traces engine nesting (MonadExcept.throw error : MachineM σ α) (MonadExcept.throw error) :=
  fun machine _ => ⟨machine, rfl, rfl, .refl machine⟩

theorem bind {next : α → MachineM σ β} {next' : α → RunM σ β} (h : Traces engine nesting call step)
    (hnext : ∀ value, Traces engine nesting (next value) (next' value)) :
    Traces engine nesting (call >>= next) (step >>= next') := by
  intro machine hmachine
  obtain ⟨middle, hcall, hrun, hkeeps⟩ := h machine hmachine
  have hbind : (call >>= next).run.run machine =
      (ExceptT.bindCont next (step.run.run machine.run).1).run middle := by
    change (call.run.run machine).bind _ = _
    rw [hcall]
    rfl
  rw [hbind, run_bind]
  generalize step.run.run machine.run = outcome at hrun
  obtain ⟨result, run⟩ := outcome
  cases result with
  | ok value =>
    obtain ⟨after, hafter, hrun', hkeeps'⟩ := hnext value middle (hkeeps.nesting_eq.trans hmachine)
    rw [hrun] at hafter hrun'
    exact ⟨after, hafter, hrun', hkeeps.trans hkeeps'⟩
  | error error => exact ⟨middle, rfl, hrun, hkeeps⟩

theorem onRun {step : StateM (Run σ) α} (h : ∀ run, run.assets.urls <+: (step.run run).2.assets.urls) :
    Traces engine nesting (Render.onRun step) (liftM step) :=
  fun machine _ => ⟨_, rfl, rfl, .of_run (h machine.run)⟩

theorem record (event : Event) : Traces engine nesting (Render.onRun (Render.record event))
    (Render.record event : RunM σ Unit) :=
  onRun fun run => List.prefix_refl run.assets.urls

theorem get {next : Machine σ → MachineM σ α}
    (h : ∀ machine, machine.nesting = nesting → Traces engine nesting (next machine) step) :
    Traces engine nesting (MonadState.get >>= next) step :=
  fun machine hmachine => h machine hmachine machine hmachine

theorem observed (h : Traces engine nesting call step) (place place' : Place) :
    Traces engine nesting (Render.observed place place' call) step := by
  intro machine hmachine
  obtain ⟨after, hcall, hrun, hkeeps⟩ := h (machine.visit place) hmachine
  exact ⟨after.visit place', run_between hcall, hrun,
    ((Keeps.visit machine place).trans hkeeps).trans (.visit after place')⟩

theorem nest {path : Path} (hmem : path ∉ nesting.stack) (hdepth : nesting.depth < engine.maxIncludeDepth)
    (h : Traces engine (nesting.push path) call step) :
    Traces engine nesting (between (·.push path) Machine.pop call) step := by
  rintro machine rfl
  obtain ⟨after, hcall, hrun, hkeeps⟩ := h (machine.push path) rfl
  exact ⟨after.pop, run_between hcall, hrun, hkeeps.pop hmem hdepth⟩

theorem fill {replace : Token → MachineM σ (Option Text)} {replace' : Token → RunM σ (Option Text)}
    (h : ∀ token, Traces engine nesting (replace token) (replace' token)) (segments : List Segment) :
    Traces engine nesting (fill replace segments) (fill replace' segments) :=
  related_fill (R := fun call step => Traces engine nesting call step) pure bind h segments

end Traces

/-! ## Buffers and includes -/

theorem traces_collectAssets (buffer : Text) :
    Traces engine nesting (onRun (engine.collectAssets buffer)) (liftM (engine.collectAssets buffer)) :=
  .onRun fun run => run.assets.prefix_urls_insertAll (engine.bufferAssets buffer)

theorem traces_resolveCalls (fields : Fields) (buffer : Text) :
    Traces engine nesting (onRun (engine.resolveCalls fields buffer))
      (liftM (engine.resolveCalls fields buffer)) := by
  apply Traces.onRun
  intro run
  exact assets_resolveCalls fields buffer run ▸ List.prefix_refl _

theorem traces_token {base : Path} {renderFile : Path → MachineM σ Text} {expand : Path → RunM σ Text}
    (h : ∀ file, Traces engine nesting (renderFile file) (expand file)) (token : Token) :
    Traces engine nesting (traceToken fields renderFile base token)
      (replaceField fields base expand token) := by
  cases token with
  | field scope name => exact .pure _
  | call callee name payload => exact .pure _
  | inclusion path =>
    unfold traceToken replaceField
    dsimp only
    split
    · apply (Traces.record _).bind
      intro
      exact .pure _
    · apply (h _).bind
      intro output
      exact .pure _

def TracesBuffers (engine : Engine σ) (fields : Fields) (renderBuffer : Path → Text → MachineM σ Text)
    (levels : Nat) : Prop :=
  ∀ nesting : Nesting, levels = engine.maxIncludeDepth - nesting.depth → ∀ base buffer,
    Traces engine nesting (renderBuffer base buffer)
      (engine.renderBuffer fields levels nesting.stack base buffer)

theorem traces_file {levels : Nat} (hlevels : levels = engine.maxIncludeDepth - nesting.depth)
    {renderBuffer : Path → Text → MachineM σ Text}
    (hinner : ∀ inner, levels = inner + 1 → engine.TracesBuffers fields renderBuffer inner) (file : Path) :
    Traces engine nesting (engine.traceFile renderBuffer file)
      (engine.expand fields levels nesting.stack file) := by
  -- the depth of the machine and the levels of the engine add up to the bound, so both guards agree
  have hexpansion := engine.expansion fields levels nesting.stack file
  generalize engine.expand fields levels nesting.stack file = step at hexpansion ⊢
  unfold traceFile
  cases hexpansion with
  | missing hfile =>
    rw [hfile, if_neg Bool.false_ne_true]
    apply (Traces.record _).bind
    intro
    exact .pure _
  | circular hfile hmem =>
    rw [if_pos hfile]
    apply Traces.get
    rintro machine rfl
    rw [if_pos hmem]
    exact .throw _
  | tooDeep hfile hmem =>
    rw [if_pos hfile]
    apply Traces.get
    rintro machine rfl
    rw [if_neg hmem, if_pos (by omega)]
    exact .throw _
  | unreadable hfile hmem hread =>
    rw [if_pos hfile]
    apply Traces.get
    rintro machine rfl
    rw [if_neg hmem, if_neg (by omega), hread]
    apply (Traces.record _).bind
    intro
    exact .pure _
  | text hfile hmem hread =>
    rw [if_pos hfile]
    apply Traces.get
    rintro machine rfl
    rw [if_neg hmem, if_neg (by omega), hread]
    apply (Traces.record _).bind
    intro
    apply Traces.nest hmem (by omega)
    apply hinner _ rfl
    simp only [Nesting.push]
    omega

theorem traces_passes {levels : Nat} (hlevels : levels = engine.maxIncludeDepth - nesting.depth)
    {renderBuffer : Path → Text → MachineM σ Text}
    (hinner : ∀ inner, levels = inner + 1 → engine.TracesBuffers fields renderBuffer inner) (base : Path)
    (buffer : Text) :
    Traces engine nesting (engine.tracePasses fields (engine.traceInclude renderBuffer) base buffer)
      (engine.renderBuffer fields levels nesting.stack base buffer) := by
  rw [renderBuffer_eq]
  apply (traces_collectAssets buffer).bind
  intro
  apply (traces_resolveCalls fields buffer).bind
  intro called
  apply Traces.fill
  apply traces_token
  intro file
  exact (traces_file hlevels hinner file).observed _ _

theorem tracesBuffers (fields : Fields) {levels frames : Nat} (hframes : levels < frames) :
    engine.TracesBuffers fields (engine.traceBuffer fields frames) levels := by
  -- an include takes a level from the engine, and a frame from the machine
  induction frames generalizing levels with
  | zero => omega
  | succ frames ih =>
    intro nesting hlevels base buffer
    exact (traces_passes hlevels (fun inner hinner => ih (by omega)) base buffer).observed _ _

/-! ## Whole renderings -/

def EndsSoundly (engine : Engine σ) (traced : Option (Except RenderError Rendered × Machine σ))
    (outcome : Except RenderError Rendered × Run σ) (outside : Nat) : Prop :=
  ∃ machine, traced = some (outcome.1, machine) ∧ machine.run = outcome.2 ∧
    ∀ moment ∈ machine.moments, moment.2.Sound engine.maxIncludeDepth outside

def Returns (place place' : Place) (call : MachineM σ α) (machine : Machine σ) : Prop :=
  ∃ result after inside, call.run.run machine = some (result, after) ∧ after.nesting = machine.nesting ∧
    after.moments =
      machine.moments ++ (place, machine.nesting) :: inside ++ [(place', machine.nesting)] ∧
    machine.run.assets.urls <+: after.run.assets.urls

theorem Traces.returns {call : MachineM σ α} {step : RunM σ α} {machine : Machine σ}
    (h : Traces engine machine.nesting call step) (place place' : Place) :
    Returns place place' (Render.observed place place' call) machine := by
  obtain ⟨after, hcall, -, hkeeps⟩ := h (machine.visit place) rfl
  obtain ⟨inside, hmoments, -⟩ := hkeeps.moments
  refine ⟨_, after.visit place', inside, run_between hcall, hkeeps.nesting_eq, ?_, hkeeps.urls_prefix⟩
  simp [Machine.visit, hmoments, hkeeps.nesting_eq]

theorem Traces.endsSoundly {call : MachineM σ Text} {step : RunM σ Text}
    (h : Traces engine nesting call step) {outside : Nat}
    (hnesting : nesting.Sound engine.maxIncludeDepth outside) (state : σ) :
    EndsSoundly engine ((call.run.run { run := { state }, nesting }).map finish) (start state step)
      outside := by
  obtain ⟨after, hcall, hrun, hkeeps⟩ := h { run := { state }, nesting } rfl
  obtain ⟨later, hmoments, hsound⟩ := hkeeps.moments
  refine ⟨after, ?_, hrun, ?_⟩
  · rw [hcall, Option.map_some, finish, hrun]
    rfl
  · intro moment hmoment
    rw [hmoments] at hmoment
    exact hsound outside hnesting moment hmoment

/-- Whatever texts and tools ask for, a rendering with a stack ends when calls may nest one deeper than includes,
and gives what the engine gives. Wherever it enters or leaves a buffer or an include, the files on the stack are
distinct, they are as many as the includes, with the template file one more, and includes do not nest too deep.
From every state of a machine, buffers and includes leave the stack and the depth as they found them, also when
they fail, and only append to the assets. -/
theorem trace_endsSoundly {frames : Nat} (h : engine.maxIncludeDepth < frames) (fields : Fields) :
    (∀ base template state, EndsSoundly engine (engine.traceRender fields frames base template state)
      (engine.render fields base template state) 0) ∧
    (∀ path state, EndsSoundly engine (engine.traceRenderFile fields frames path state)
      (engine.renderFile fields path state) 1) ∧
    ∀ machine : Machine σ,
      (∀ base buffer, Returns .enterBuffer .leaveBuffer (engine.traceBuffer fields frames base buffer)
        machine) ∧
        ∀ file, Returns .enterInclude .leaveInclude
          (engine.traceInclude (engine.traceBuffer fields frames) file) machine := by
  refine ⟨?_, ?_, ?_⟩
  · intro base template state
    have htraces := tracesBuffers fields h {} rfl base template
    exact htraces.endsSoundly ⟨List.nodup_nil, rfl, Nat.zero_le _⟩ state
  · intro path state
    unfold traceRenderFile renderFile
    cases engine.files.read path with
    | error cause => exact ⟨_, rfl, rfl, by simp⟩
    | ok template =>
      have htraces := tracesBuffers fields h { stack := [engine.files.canonical path] } rfl
        (Path.directory path) template
      exact htraces.endsSoundly ⟨by simp, rfl, Nat.zero_le _⟩ state
  · intro machine
    constructor
    · intro base buffer
      -- one frame is for the buffer itself, the others suffice for what it includes
      obtain ⟨inner, rfl⟩ : ∃ inner, frames = inner + 1 := ⟨frames - 1, by omega⟩
      have hinner : ∀ levels, engine.maxIncludeDepth - machine.nesting.depth = levels + 1 →
          engine.TracesBuffers fields (engine.traceBuffer fields inner) levels :=
        fun levels hlevels => tracesBuffers fields (by omega)
      exact (traces_passes rfl hinner base buffer).returns _ _
    · intro file
      exact (traces_file rfl (fun _ _ => tracesBuffers fields (by omega)) file).returns _ _

/-- A tool asks for a file that calls the tool again. -/
theorem trace_endsSoundly_loop :
    let engine : Engine Nat :=
      { registry := { tools := [("Next".toList, ⟨fun _ n => ("\x7b\x7binclude:a.html\x7d\x7d".toList, n + 1)⟩)] }
        maxIncludeDepth := 1
        files :=
          { root := .directory [("a.html".toList, .file (some "\x7b\x7btool:Next\x7d\x7d".toList))]
            workingDirectory := ['/'] } }
    let template := "\x7b\x7btool:Next\x7d\x7d".toList
    let inside : Nesting := ⟨["/a.html".toList], 1⟩
    let error := RenderError.circular "/a.html".toList inside.stack
    engine.maxIncludeDepth < 2 ∧
      (∃ machine, engine.traceRender {} 2 [] template 0 = some (.error error, machine) ∧
        machine.moments =
          [(.enterBuffer, {}), (.enterInclude, {}), (.enterBuffer, inside), (.enterInclude, inside),
            (.leaveInclude, inside), (.leaveBuffer, inside), (.leaveInclude, {}), (.leaveBuffer, {})] ∧
        ∀ moment ∈ machine.moments, moment.2.Sound 1 0) ∧
      (∃ machine, engine.traceRenderFile {} 2 "a.html".toList 0 = some (.error error, machine) ∧
        ∀ moment ∈ machine.moments, moment.2.Sound 1 1) ∧
      Returns .enterInclude .leaveInclude (engine.traceInclude (engine.traceBuffer {} 2) "a.html".toList)
        { run := { state := 0 }, nesting := inside } := by
  intro engine template inside error
  have hbound : engine.maxIncludeDepth < 2 := by decide
  have hmoments : (engine.traceRender {} 2 [] template 0).map (fun outcome => outcome.2.moments) =
      some [(.enterBuffer, {}), (.enterInclude, {}), (.enterBuffer, inside), (.enterInclude, inside),
        (.leaveInclude, inside), (.leaveBuffer, inside), (.leaveInclude, {}), (.leaveBuffer, {})] := by
    decide +kernel
  have hrender : (engine.render {} [] template 0).1 = .error error := by decide +kernel
  have hfile : (engine.renderFile {} "a.html".toList 0).1 = .error error := by decide +kernel
  obtain ⟨hrenders, hfiles, hreturns⟩ := trace_endsSoundly hbound {}
  obtain ⟨machine, htrace, -, hsound⟩ := hrenders [] template 0
  obtain ⟨machine', htrace', -, hsound'⟩ := hfiles "a.html".toList 0
  rw [hrender] at htrace
  rw [hfile] at htrace'
  rw [htrace] at hmoments
  exact ⟨hbound, ⟨machine, htrace, Option.some.inj hmoments, hsound⟩, ⟨machine', htrace', hsound'⟩,
    (hreturns _).2 _⟩

end Engine

end Render

end Folio
