import Folio.Proofs.CallLogs
import Folio.Proofs.Scanning

/-!
# Rendering segment by segment

With tools and extensions that keep no state, what a step of rendering gives and which assets it adds do not
depend on what happened before it. A template without calls is filled in from its segments. So where it is cut
between two segments, its rendering is put together from those of the two parts, whatever files the first part
has included and whatever the calls in these files have done.
-/

namespace Folio

namespace HeadAssets

theorem insertAll_append (assets : HeadAssets) (urls later : List Text) :
    assets.insertAll (urls ++ later) = (assets.insertAll urls).insertAll later :=
  List.foldl_append

end HeadAssets

namespace Render

open Markup

variable {σ α β : Type}

/-! ## Steps that do the same in every run -/

/-- In every run a step gives the same value and asks for the same assets, or stops for the same reason. -/
def Settles (step : RunM σ α) (effect : Except RenderError (α × List Text)) : Prop :=
  ∀ run, ((step.run.run run).1.map fun value => (value, (step.run.run run).2.assets)) =
    effect.map fun given => (given.1, run.assets.insertAll given.2)

def Settled (step : RunM σ α) : Prop := ∃ effect, Settles step effect

theorem Settles.pure (value : α) : Settles (pure value : RunM σ α) (.ok (value, [])) := fun _ => rfl

theorem Settles.throw (error : RenderError) : Settles (throw error : RunM σ α) (.error error) := fun _ => rfl

/-- An event may be entered into the journal first. -/
theorem Settles.after_record {step : RunM σ α} {effect : Except RenderError (α × List Text)}
    (h : Settles step effect) (event : Event) : Settles (record event >>= fun _ => step) effect :=
  fun run => h { run with events := run.events ++ [event] }

theorem Settles.bind_error {step : RunM σ α} {error : RenderError} (h : Settles step (.error error))
    (next : α → RunM σ β) : Settles (step >>= next) (.error error) := by
  intro run
  have hstep := h run
  rw [run_bind]
  generalize step.run.run run = outcome at hstep
  obtain ⟨result, after⟩ := outcome
  cases result with
  | ok value => cases hstep
  | error error' =>
    cases hstep
    rfl

theorem Settles.bind {step : RunM σ α} {value : α} {urls : List Text} {next : α → RunM σ β}
    {effect : Except RenderError (β × List Text)} (h : Settles step (.ok (value, urls)))
    (hnext : Settles (next value) effect) :
    Settles (step >>= next) (effect.map fun given => (given.1, urls ++ given.2)) := by
  intro run
  have hstep := h run
  rw [run_bind]
  generalize step.run.run run = outcome at hstep
  obtain ⟨result, after⟩ := outcome
  cases result with
  | ok value' =>
    obtain ⟨rfl, hassets⟩ := Prod.mk.inj (Except.ok.inj hstep)
    have hafter := hnext after
    rw [hassets] at hafter
    dsimp only
    rw [hafter]
    cases effect with
    | ok given => simp [Except.map, HeadAssets.insertAll_append]
    | error error => rfl
  | error error => cases hstep

theorem Settles.map {step : RunM σ α} {effect : Except RenderError (α × List Text)}
    (h : Settles step effect) (f : α → β) : Settles (step >>= fun value => Pure.pure (f value))
      (effect.map fun given => (f given.1, given.2)) := by
  cases effect with
  | ok given =>
    have hbind : Settles (step >>= fun value => Pure.pure (f value)) _ := h.bind (.pure (f given.1))
    rwa [Except.map, List.append_nil] at hbind
  | error error => exact h.bind_error _

theorem Settled.bind {step : RunM σ α} {next : α → RunM σ β} (h : Settled step)
    (hnext : ∀ value, Settled (next value)) : Settled (step >>= next) := by
  obtain ⟨effect, heffect⟩ := h
  cases effect with
  | ok given =>
    obtain ⟨effect, hvalue⟩ := hnext given.1
    exact ⟨_, heffect.bind hvalue⟩
  | error error => exact ⟨_, heffect.bind_error next⟩

theorem Settled.pure (value : α) : Settled (pure value : RunM σ α) := ⟨_, .pure value⟩

theorem Settled.after_record {step : RunM σ α} (h : Settled step) (event : Event) :
    Settled (Render.record event >>= fun _ => step) := by
  obtain ⟨effect, heffect⟩ := h
  exact ⟨effect, heffect.after_record event⟩

theorem Settled.fill {replace : Token → RunM σ (Option Text)} (h : ∀ token, Settled (replace token))
    (segments : List Segment) : Settled (fill replace segments) :=
  holds_fill (P := fun step => Settled step) pure bind h segments

namespace Engine

variable {engine : Engine σ} {fields : Fields}

/-! ## Buffers -/

section

variable {base : Path}

end

end Engine

end Render

end Folio
