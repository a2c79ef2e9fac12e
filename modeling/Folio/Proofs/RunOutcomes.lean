import Folio.Render.Engine

/-!
# How steps of a run end

Whether a step of rendering stops the run does not depend on what happened before it. The lemmas follow
how steps are put together: one after the other, and along the segments of a template. The output of calls
is the one thing that may depend on the run; with tools and extensions that keep no state it does not.
-/

namespace Folio.Render

open Markup

variable {σ α β : Type}

def reason? : Except RenderError α → Option RenderError
  | .ok _ => none
  | .error error => some error

def Gives (step : RunM σ α) (value : α) : Prop := ∀ run, (step.run.run run).1 = .ok value

/-- A step stops every run for the same reason, or none. -/
def Ends (step : RunM σ α) (reason : Option RenderError) : Prop :=
  ∀ run, reason? (step.run.run run).1 = reason

theorem run_bind (step : RunM σ α) (next : α → RunM σ β) (run : Run σ) :
    (step >>= next).run.run run =
      match step.run.run run with
      | (.ok value, after) => (next value).run.run after
      | (.error error, after) => (.error error, after) := by
  unfold ExceptT.run StateT.run
  simp only [bind, ExceptT.bind, ExceptT.mk, StateT.bind, ExceptT.bindCont]
  cases step run with
  | mk result after => cases result <;> rfl

theorem run_bind_eq_ok_iff {step : RunM σ α} {next : α → RunM σ β} {run after : Run σ} {value : β} :
    (step >>= next).run.run run = (.ok value, after) ↔
      ∃ middle between, step.run.run run = (.ok middle, between) ∧
        (next middle).run.run between = (.ok value, after) := by
  rw [run_bind]
  generalize step.run.run run = outcome
  obtain ⟨result, between⟩ := outcome
  cases result with
  | ok middle =>
    constructor
    · intro h
      exact ⟨middle, between, rfl, h⟩
    · rintro ⟨middle', between', heq, h⟩
      cases heq
      exact h
  | error error =>
    constructor
    · intro h
      cases h
    · rintro ⟨middle, between', heq, -⟩
      cases heq

theorem run_pure_eq_ok_iff {value value' : α} {run after : Run σ} :
    (pure value : RunM σ α).run.run run = (.ok value', after) ↔ value = value' ∧ run = after := by
  constructor
  · intro h
    obtain ⟨hvalue, rfl⟩ := Prod.mk.inj h
    exact ⟨Except.ok.inj hvalue, rfl⟩
  · rintro ⟨rfl, rfl⟩
    rfl

theorem Gives.bind {step : RunM σ α} {value : α} {next : α → RunM σ β} {reason : Option RenderError}
    (h : Gives step value) (hnext : Ends (next value) reason) : Ends (step >>= next) reason := by
  intro run
  have hstep := h run
  rw [run_bind]
  generalize step.run.run run = outcome at hstep
  obtain ⟨result, after⟩ := outcome
  obtain rfl : result = .ok value := hstep
  exact hnext after

theorem Ends.pure (value : α) : Ends (pure value : RunM σ α) none := fun _ => rfl

theorem Ends.throw (error : RenderError) : Ends (throw error : RunM σ α) (some error) := fun _ => rfl

theorem Ends.bind {step : RunM σ α} {next : α → RunM σ β} {first second : Option RenderError}
    (h : Ends step first) (hnext : ∀ value, Ends (next value) second) :
    Ends (step >>= next) (first.or second) := by
  intro run
  have hstep := h run
  rw [run_bind]
  generalize step.run.run run = outcome at hstep
  obtain ⟨result, after⟩ := outcome
  subst hstep
  cases result with
  | ok value => exact hnext value after
  | error error => rfl

theorem Ends.map {step : RunM σ α} {reason : Option RenderError} (h : Ends step reason) (f : α → β) :
    Ends (step >>= fun value => Pure.pure (f value)) reason := by
  have hbind := h.bind fun value => Ends.pure (f value)
  rwa [Option.or_none] at hbind

theorem Gives.record (event : Event) : Gives (record event : RunM σ Unit) () := fun _ => rfl

/-- What two computations share along values and one after the other, they share along segments. -/
theorem related_fill {m n : Type → Type} [Monad m] [Monad n] {R : {α : Type} → m α → n α → Prop}
    (hpure : ∀ {α : Type} (value : α), R (pure value) (pure value))
    (hbind : ∀ {α β : Type} {step : m α} {step' : n α} {next : α → m β} {next' : α → n β},
      R step step' → (∀ value, R (next value) (next' value)) → R (step >>= next) (step' >>= next'))
    {replace : Token → m (Option Text)} {replace' : Token → n (Option Text)}
    (h : ∀ token, R (replace token) (replace' token)) (segments : List Segment) :
    R (fill replace segments) (fill replace' segments) := by
  induction segments with
  | nil => exact hpure []
  | cons segment segments ih =>
    cases segment with
    | text content => exact hbind ih fun rest => hpure _
    | placeholder token raw => exact hbind (h token) fun replacement => hbind ih fun rest => hpure _

theorem holds_fill {m : Type → Type} [Monad m] {P : {α : Type} → m α → Prop}
    (hpure : ∀ {α : Type} (value : α), P (pure value))
    (hbind : ∀ {α β : Type} {step : m α} {next : α → m β},
      P step → (∀ value, P (next value)) → P (step >>= next))
    {replace : Token → m (Option Text)} (h : ∀ token, P (replace token)) (segments : List Segment) :
    P (fill replace segments) :=
  @related_fill m m _ _ (fun step _ => P step) hpure hbind replace replace h segments

def segmentReason (reason : Token → Option RenderError) : Segment → Option RenderError
  | .text _ => none
  | .placeholder token _ => reason token

theorem Ends.fill {replace : Token → RunM σ (Option Text)} {reason : Token → Option RenderError}
    (h : ∀ token, Ends (replace token) (reason token)) (segments : List Segment) :
    Ends (fill replace segments) (segments.findSome? (segmentReason reason)) := by
  induction segments with
  | nil => exact .pure []
  | cons segment segments ih =>
    cases segment with
    | text content => exact ih.map _
    | placeholder token raw =>
      have hbind := (h token).bind fun replacement =>
        ih.map fun rest => replacement.getD raw ++ rest
      rw [List.findSome?_cons, segmentReason]
      cases htoken : reason token with
      | none =>
        rw [htoken] at hbind
        exact hbind
      | some error =>
        rw [htoken] at hbind
        exact hbind

/-! ## Calls without state -/

def Steady (step : StateM (Run σ) α) : Prop := ∀ run run', (step.run run).1 = (step.run run').1

theorem Steady.pure (value : α) : Steady (pure value : StateM (Run σ) α) := fun _ _ => rfl

theorem Steady.bind {step : StateM (Run σ) α} {next : α → StateM (Run σ) β} (h : Steady step)
    (hnext : ∀ value, Steady (next value)) : Steady (step >>= next) := by
  intro run run'
  change ((next (step.run run).1).run (step.run run).2).1 = ((next (step.run run').1).run (step.run run').2).1
  rw [h run run']
  exact hnext _ _ _

theorem Steady.record (event : Event) : Steady (record event : StateM (Run σ) Unit) := fun _ _ => rfl

theorem Steady.fill {replace : Token → StateM (Run σ) (Option Text)} (h : ∀ token, Steady (replace token))
    (segments : List Segment) : Steady (fill replace segments) :=
  holds_fill (P := fun step => Steady step) pure bind h segments

namespace Engine

variable (engine : Engine σ)

variable {engine}

variable (engine) in
def expand (fields : Fields) (levels : Nat) (stack : List Path) (file : Path) : RunM σ Text := do
  if engine.files.isFile file then
    let path := engine.files.canonical file
    if path ∈ stack then throw (.circular path stack)
    else
      match levels with
      | 0 => throw (.tooDeep path engine.maxIncludeDepth)
      | levels + 1 =>
        match engine.files.read file with
        | .error cause =>
          record (.unreadableSkipped file cause)
          return []
        | .ok content =>
          record (.included file stack)
          engine.renderBuffer fields levels (stack ++ [path]) (Path.directory file) content
  else
    record (.missingSkipped file)
    return []

theorem renderBuffer_eq (fields : Fields) (levels : Nat) (stack : List Path) (base : Path)
    (buffer : Text) : engine.renderBuffer fields levels stack base buffer = (do
      engine.collectAssets buffer
      let called ← engine.resolveCalls fields buffer
      engine.resolveFields fields base (engine.expand fields levels stack) called) := by
  -- the recursion is on the levels, so the equation holds by definition once they are known
  cases levels with
  | zero => rfl
  | succ levels => rfl

section

variable (engine) {fields : Fields} {levels : Nat} {stack : List Path} {file : Path}

theorem expand_of_not_isFile (hfile : engine.files.isFile file = false) :
    engine.expand fields levels stack file = (do
      record (.missingSkipped file)
      return []) := by
  rw [expand, if_neg (by rw [hfile]; exact Bool.false_ne_true)]

theorem expand_of_mem (hfile : engine.files.isFile file = true)
    (hmem : engine.files.canonical file ∈ stack) :
    engine.expand fields levels stack file = throw (.circular (engine.files.canonical file) stack) := by
  rw [expand, if_pos hfile]
  exact if_pos hmem

theorem expand_zero (hfile : engine.files.isFile file = true)
    (hmem : engine.files.canonical file ∉ stack) : engine.expand fields 0 stack file =
      throw (.tooDeep (engine.files.canonical file) engine.maxIncludeDepth) := by
  rw [expand, if_pos hfile]
  exact if_neg hmem

theorem expand_of_unreadable (hfile : engine.files.isFile file = true)
    (hmem : engine.files.canonical file ∉ stack) {cause : FileError}
    (hread : engine.files.read file = .error cause) : engine.expand fields (levels + 1) stack file = (do
      record (.unreadableSkipped file cause)
      return []) := by
  rw [expand, if_pos hfile]
  dsimp only
  rw [if_neg hmem, hread]

theorem expand_of_read (hfile : engine.files.isFile file = true)
    (hmem : engine.files.canonical file ∉ stack) {content : Text}
    (hread : engine.files.read file = .ok content) : engine.expand fields (levels + 1) stack file = (do
      record (.included file stack)
      engine.renderBuffer fields levels (stack ++ [engine.files.canonical file])
        (Path.directory file) content) := by
  rw [expand, if_pos hfile]
  dsimp only
  rw [if_neg hmem, hread]

end

/-- The ways in which the file at a path that an include leads to is rendered, by the levels that are left. -/
inductive Expansion (engine : Engine σ) (fields : Fields) (stack : List Path) (file : Path) :
    Nat → RunM σ Text → Prop
  | missing {levels : Nat} : engine.files.isFile file = false →
    Expansion engine fields stack file levels (do
      record (.missingSkipped file)
      return [])
  | circular {levels : Nat} : engine.files.isFile file = true → engine.files.canonical file ∈ stack →
    Expansion engine fields stack file levels (throw (.circular (engine.files.canonical file) stack))
  | tooDeep : engine.files.isFile file = true → engine.files.canonical file ∉ stack →
    Expansion engine fields stack file 0
      (throw (.tooDeep (engine.files.canonical file) engine.maxIncludeDepth))
  | unreadable {inner : Nat} {cause : FileError} : engine.files.isFile file = true →
    engine.files.canonical file ∉ stack → engine.files.read file = .error cause →
    Expansion engine fields stack file (inner + 1) (do
      record (.unreadableSkipped file cause)
      return [])
  | text {inner : Nat} {content : Text} : engine.files.isFile file = true →
    engine.files.canonical file ∉ stack → engine.files.read file = .ok content →
    Expansion engine fields stack file (inner + 1) (do
      record (.included file stack)
      engine.renderBuffer fields inner (stack ++ [engine.files.canonical file])
        (Path.directory file) content)

theorem expansion (engine : Engine σ) (fields : Fields) (levels : Nat) (stack : List Path) (file : Path) :
    Expansion engine fields stack file levels (engine.expand fields levels stack file) := by
  cases hfile : engine.files.isFile file with
  | false =>
    rw [expand_of_not_isFile engine hfile]
    exact .missing hfile
  | true =>
    by_cases hmem : engine.files.canonical file ∈ stack
    · rw [expand_of_mem engine hfile hmem]
      exact .circular hfile hmem
    · cases levels with
      | zero =>
        rw [expand_zero engine hfile hmem]
        exact .tooDeep hfile hmem
      | succ inner =>
        cases hread : engine.files.read file with
        | error cause =>
          rw [expand_of_unreadable engine hfile hmem hread]
          exact .unreadable hfile hmem hread
        | ok content =>
          rw [expand_of_read engine hfile hmem hread]
          exact .text hfile hmem hread

end Engine

end Folio.Render
