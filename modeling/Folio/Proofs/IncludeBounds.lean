import Folio.Proofs.RunSimulation
import Mathlib.Control.Monad.Basic

/-!
# Larger bounds on includes

The bound on includes can stop a rendering and does nothing else: a rendering that does not reach it is the
same with every larger bound. So what a template renders to does not depend on the bound, only whether it
does.
-/

namespace Folio.Render

variable {σ : Type}

/-- Every error but one for the bound is met again. -/
def unlessTooDeep : RenderError → Option RenderError
  | .tooDeep _ _ => none
  | error => some error

def WithinBound (result : Except RenderError Engine.Rendered) : Prop :=
  ∀ path depth, result ≠ .error (.tooDeep path depth)

theorem WithinBound.answered_eq {result : Except RenderError Engine.Rendered} (h : WithinBound result) :
    answered unlessTooDeep result = some result := by
  cases result with
  | ok rendered => rfl
  | error error =>
    cases error with
    | unreadable path cause => rfl
    | circular path stack => rfl
    | tooDeep path depth => exact absurd rfl (h path depth)

namespace Engine

variable {engine : Engine σ} {bound : Nat}

/-- Wherever a rendering has come, there are at least as many levels left under a larger bound. -/
theorem simulation_deeper (engine : Engine σ) (bound : Nat) :
    Simulation unlessTooDeep engine.maxIncludeDepth bound
      fun levels stack levels' stack' => levels ≤ levels' ∧ stack' = stack where
  subset := by
    rintro levels levels' stack stack' ⟨-, rfl⟩
    exact List.Subset.refl _
  circular := by
    rintro levels levels' stack stack' path ⟨-, rfl⟩ hmem error herror
    obtain rfl : RenderError.circular path _ = error := Option.some.inj herror
    exact ⟨hmem, rfl⟩
  tooDeep := by
    intro levels' stack stack' path _ error herror
    cases herror
  inner := by
    rintro levels levels' stack stack' ⟨hlevels, rfl⟩
    obtain ⟨inner, rfl⟩ : ∃ inner, levels' = inner + 1 := ⟨levels' - 1, by omega⟩
    exact ⟨inner, rfl, fun path => ⟨by omega, rfl⟩⟩

theorem start_of_bound_le (h : engine.maxIncludeDepth ≤ bound) {fields : Fields} {stack : List Path}
    {base : Path} {buffer : Text} {state : σ}
    (hwithin : WithinBound
      (start state (engine.renderBuffer fields engine.maxIncludeDepth stack base buffer)).1) :
    SameOutcome (start state (engine.renderBuffer fields engine.maxIncludeDepth stack base buffer))
      (start state ((engine.withBound bound).renderBuffer fields bound stack base buffer)) := by
  have hbuffers := (simulation_deeper engine bound).buffers fields engine.maxIncludeDepth
  have hmirrors := hbuffers bound stack stack ⟨h, rfl⟩ base buffer
  obtain ⟨hresult, hcalls⟩ := hmirrors.start state hwithin.answered_eq
  exact ⟨hresult, hcalls⟩

/-- Whatever a rendering gives that the bound does not stop, it gives with every larger bound, after the
same calls. -/
theorem render_of_bound_le (h : engine.maxIncludeDepth ≤ bound) (fields : Fields) (state : σ) :
    (∀ base template, WithinBound (engine.render fields base template state).1 →
      SameOutcome (engine.render fields base template state)
        ((engine.withBound bound).render fields base template state)) ∧
    ∀ path, WithinBound (engine.renderFile fields path state).1 →
      SameOutcome (engine.renderFile fields path state)
        ((engine.withBound bound).renderFile fields path state) := by
  constructor
  · intro base template hwithin
    exact start_of_bound_le h hwithin
  · intro path
    have hfiles : (engine.withBound bound).files = engine.files := rfl
    unfold renderFile
    rw [hfiles]
    cases engine.files.read path with
    | error cause =>
      intro _
      exact .refl _
    | ok template =>
      intro hwithin
      exact start_of_bound_le h hwithin

/-- Two includes side by side, which a tool asks for, and a file that includes itself. -/
theorem render_of_bound_le_siblings :
    let engine : Engine Nat :=
      { registry :=
          { tools :=
              [("Next".toList, ⟨fun _ n =>
                (if n = 0 then "\x7b\x7binclude:a.html\x7d\x7d\x7b\x7binclude:a.html\x7d\x7d".toList
                  else Text.ofNat n, n + 1)⟩)] }
        maxIncludeDepth := 1
        files :=
          { root := .directory
              [("a.html".toList, .file (some "[\x7b\x7btool:Next\x7d\x7d]".toList)),
                ("b.html".toList, .file (some "\x7b\x7binclude:b.html\x7d\x7d".toList))]
            workingDirectory := ['/'] } }
    let template := "\x7b\x7btool:Next\x7d\x7d".toList
    let path := "b.html".toList
    engine.maxIncludeDepth ≤ 3 ∧
      (engine.render {} [] template 0).1 = .ok ⟨"[1][2]".toList, .empty⟩ ∧
      SameOutcome (engine.render {} [] template 0) ((engine.withBound 3).render {} [] template 0) ∧
      (engine.renderFile {} path 0).1 = .error (.circular "/b.html".toList ["/b.html".toList]) ∧
      SameOutcome (engine.renderFile {} path 0) ((engine.withBound 3).renderFile {} path 0) := by
  intro engine template path
  have hbound : engine.maxIncludeDepth ≤ 3 := by decide
  have hrender : (engine.render {} [] template 0).1 = .ok ⟨"[1][2]".toList, .empty⟩ := by
    decide +kernel
  have hfile : (engine.renderFile {} path 0).1 =
      .error (.circular "/b.html".toList ["/b.html".toList]) := by
    decide +kernel
  obtain ⟨hrenders, hfiles⟩ := render_of_bound_le hbound {} 0
  refine ⟨hbound, hrender, hrenders [] template ?_, hfile, hfiles path ?_⟩
  · rw [hrender]
    intro path depth h
    cases h
  · rw [hfile]
    intro path depth h
    cases h

end Engine

end Folio.Render
