import Folio.Proofs.CallEffects
import Folio.Proofs.IncludeChains

/-!
# The log of calls

The calls of a successful run are determined by texts as they are written: a buffer makes the calls of its
own placeholders, and then those of the files that it includes, one file after the other. What a call gives
back can ask for files, and is otherwise never read for calls. Each call runs once, in the state that the
calls before it leave.
-/

namespace Folio.Render

open Markup

variable {σ : Type}

namespace Engine

mutual

/-- The calls of a buffer that is rendered from a state on: its own, and then those of the files that it
includes after them. -/
inductive BufferLog (engine : Engine σ) (fields : Fields) : Path → Text → σ → List Invocation → Prop
  | calls_append {base : Path} {buffer : Text} {state : σ} {calls : List Invocation} :
    FilesLog engine fields (engine.requestedFiles fields state base buffer)
      (engine.performAll (engine.bufferCalls fields buffer) state) calls →
    BufferLog engine fields base buffer state (engine.bufferCalls fields buffer ++ calls)

/-- The calls of a file that is included. A file that holds no text makes none. -/
inductive FileLog (engine : Engine σ) (fields : Fields) : Path → σ → List Invocation → Prop
  | text {file : Path} {content : Text} {state : σ} {calls : List Invocation} :
    engine.files.read file = .ok content →
    BufferLog engine fields (Path.directory file) content state calls →
    FileLog engine fields file state calls
  | unreadable {file : Path} {cause : FileError} {state : σ} :
    engine.files.read file = .error cause → FileLog engine fields file state []

inductive FilesLog (engine : Engine σ) (fields : Fields) : List Path → σ → List Invocation → Prop
  | nil {state : σ} : FilesLog engine fields [] state []
  | cons {file : Path} {files : List Path} {state : σ} {calls later : List Invocation} :
    FileLog engine fields file state calls →
    FilesLog engine fields files (engine.performAll calls state) later →
    FilesLog engine fields (file :: files) state (calls ++ later)

end

variable {engine : Engine σ} {fields : Fields}

mutual

/-- A buffer and a state determine the log. -/
theorem BufferLog.unique {base : Path} {buffer : Text} {state : σ} {calls calls' : List Invocation} :
    engine.BufferLog fields base buffer state calls →
    engine.BufferLog fields base buffer state calls' → calls = calls'
  | .calls_append hfiles, .calls_append hfiles' => by rw [hfiles.unique hfiles']

theorem FileLog.unique {file : Path} {state : σ} {calls calls' : List Invocation} :
    engine.FileLog fields file state calls → engine.FileLog fields file state calls' → calls = calls'
  | .text hread hbuffer, .text hread' hbuffer' => by
    obtain rfl := Except.ok.inj (hread.symm.trans hread')
    exact hbuffer.unique hbuffer'
  | .text hread _, .unreadable hread' => by cases hread.symm.trans hread'
  | .unreadable hread, .text hread' _ => by cases hread.symm.trans hread'
  | .unreadable _, .unreadable _ => rfl

theorem FilesLog.unique {files : List Path} {state : σ} {calls calls' : List Invocation} :
    engine.FilesLog fields files state calls → engine.FilesLog fields files state calls' →
    calls = calls'
  | .nil, .nil => rfl
  | .cons hfile hfiles, .cons hfile' hfiles' => by
    obtain rfl := hfile.unique hfile'
    rw [hfiles.unique hfiles']

end

/-! ## What happens to a run -/

variable (engine) in
def callAssets (call : Invocation) : List Text :=
  match call.callee with
  | .tool => []
  | .extension => ((engine.registry.extension? call.name).map Extension.headAssets).getD []

/-- Between two moments of a run calls are performed and the assets that they ask for are added. -/
structure Accounts (engine : Engine σ) (calls : List Invocation) (run after : Run σ) : Prop where
  invocations_eq : invocations after.events = invocations run.events ++ calls
  state_eq : after.state = engine.performAll calls run.state
  assets_eq : after.assets = run.assets.insertAll (calls.flatMap engine.callAssets)

namespace Accounts

theorem refl (run : Run σ) : engine.Accounts [] run run :=
  ⟨(List.append_nil _).symm, rfl, rfl⟩

theorem trans {calls later : List Invocation} {run between after : Run σ}
    (h : engine.Accounts calls run between) (h' : engine.Accounts later between after) :
    engine.Accounts (calls ++ later) run after where
  invocations_eq := by rw [h'.invocations_eq, h.invocations_eq, List.append_assoc]
  state_eq := by rw [h'.state_eq, h.state_eq, performAll_append]
  assets_eq := by
    rw [h'.assets_eq, h.assets_eq, List.flatMap_append]
    exact List.foldl_append.symm

/-- An event that is no call leaves the calls, the state and the assets alone. -/
theorem record {event : Event} (hevent : invocations [event] = []) {run after : Run σ}
    (h : (record event : RunM σ Unit).run.run run = (.ok (), after)) : engine.Accounts [] run after := by
  obtain rfl : { run with events := run.events ++ [event] } = after := congrArg Prod.snd h
  exact ⟨by rw [invocations_append, hevent], rfl, rfl⟩

end Accounts

/-! ## Assets and calls of a buffer -/

theorem segmentAssets_eq (fields : Fields) (segment : Segment) :
    engine.segmentAssets segment = (engine.segmentCall? fields segment).toList.flatMap engine.callAssets := by
  match segment with
  | .text content => rfl
  | .placeholder (.field scope name) raw => rfl
  | .placeholder (.inclusion path) raw => rfl
  | .placeholder (.call .tool name payload) raw =>
    simp only [segmentCall?]
    cases engine.callable? .tool name with
    | none => rfl
    | some call => rfl
  | .placeholder (.call .extension name payload) raw =>
    simp only [segmentAssets, segmentCall?, callable?]
    cases hname : engine.registry.extension? name with
    | none => rfl
    | some extension => simp [callAssets, hname]

/-- The first pass collects the assets of the calls that the second one performs. -/
theorem bufferAssets_eq (fields : Fields) (buffer : Text) :
    engine.bufferAssets buffer = (engine.bufferCalls fields buffer).flatMap engine.callAssets := by
  unfold bufferAssets bufferCalls
  induction scan engine.markup buffer with
  | nil => rfl
  | cons segment segments ih =>
    rw [List.flatMap_cons, ih, engine.segmentAssets_eq fields segment, List.filterMap_cons]
    cases engine.segmentCall? fields segment with
    | none => rfl
    | some call => simp

/-! ## Whole buffers -/

/-- The first two passes over a buffer, in terms of its calls. -/
theorem accounts_passes {buffer : Text} {run between after : Run σ} {called : Text}
    (hcollect : (engine.collectAssets buffer : RunM σ Unit).run.run run = (.ok (), between))
    (hresolve : (engine.resolveCalls fields buffer : RunM σ Text).run.run between = (.ok called, after)) :
    called = engine.replaceCalls fields (scan engine.markup buffer) run.state ∧
      engine.Accounts (engine.bufferCalls fields buffer) run after := by
  obtain rfl : { run with assets := run.assets.insertAll (engine.bufferAssets buffer) } = between :=
    congrArg Prod.snd hcollect
  have hresult : (Except.ok ((engine.resolveCalls fields buffer).run _).1,
      ((engine.resolveCalls fields buffer).run _).2) = (Except.ok called, after) := hresolve
  rw [run_resolveCalls] at hresult
  obtain ⟨hcalled, rfl⟩ := Prod.mk.inj hresult
  refine ⟨?_, ?_, rfl, ?_⟩
  · exact (Except.ok.inj hcalled).symm
  · dsimp only
    rw [invocations_append, invocations_flatMap_segmentEvents]
    rfl
  · dsimp only
    rw [bufferAssets_eq fields]

def replaceField (fields : Fields) (base : Path) (expand : Path → RunM σ Text) :
    Token → RunM σ (Option Text)
  | .field scope name => return some (fieldText fields scope name)
  | .inclusion path =>
    if Path.isAbsolute path then do
      record (.absoluteSkipped path)
      return some []
    else return some (← expand (Path.join base path))
  | .call _ _ _ => return none

def RendersFiles (engine : Engine σ) (fields : Fields) (expand : Path → RunM σ Text) : Prop :=
  ∀ file run output after, (expand file).run.run run = (.ok output, after) →
    if engine.files.isFile file then
      ∃ calls, engine.FileLog fields file run.state calls ∧ engine.Accounts calls run after
    else engine.Accounts [] run after

section

variable {base : Path} {expand : Path → RunM σ Text}

theorem accounts_replaceField (hexpand : engine.RendersFiles fields expand) {token : Token} (raw : Text)
    {run after : Run σ} {replacement : Option Text}
    (h : (replaceField fields base expand token).run.run run = (.ok replacement, after)) :
    match engine.included? base (.placeholder token raw) with
    | none => engine.Accounts [] run after
    | some file =>
      ∃ calls, engine.FileLog fields file run.state calls ∧ engine.Accounts calls run after := by
  cases token with
  | field scope name =>
    obtain ⟨-, rfl⟩ := run_pure_eq_ok_iff.1 h
    exact .refl run
  | call callee name payload =>
    obtain ⟨-, rfl⟩ := run_pure_eq_ok_iff.1 h
    exact .refl run
  | inclusion path =>
    unfold replaceField at h
    unfold included?
    dsimp only at h ⊢
    by_cases habsolute : Path.isAbsolute path = true
    · rw [if_pos habsolute] at h ⊢
      obtain ⟨_, between, hrecord, hpure⟩ := run_bind_eq_ok_iff.1 h
      obtain ⟨-, rfl⟩ := run_pure_eq_ok_iff.1 hpure
      exact .record rfl hrecord
    · rw [if_neg habsolute] at h ⊢
      obtain ⟨output, between, hfile, hpure⟩ := run_bind_eq_ok_iff.1 h
      obtain ⟨-, rfl⟩ := run_pure_eq_ok_iff.1 hpure
      have haccounts := hexpand _ _ _ _ hfile
      by_cases hexists : engine.files.isFile (Path.join base path) = true
      · rw [if_pos hexists] at haccounts ⊢
        exact haccounts
      · rw [if_neg hexists] at haccounts ⊢
        exact haccounts

/-- The third pass performs the calls of the files that segments include, one file after the other. -/
theorem accounts_fill (hexpand : engine.RendersFiles fields expand) {segments : List Segment}
    {run after : Run σ} {output : Text}
    (h : (fill (replaceField fields base expand) segments).run.run run = (.ok output, after)) :
    ∃ calls, engine.FilesLog fields (segments.filterMap (engine.included? base)) run.state calls ∧
      engine.Accounts calls run after := by
  induction segments generalizing run output with
  | nil =>
    obtain ⟨-, rfl⟩ := run_pure_eq_ok_iff.1 h
    exact ⟨[], .nil, .refl run⟩
  | cons segment segments ih =>
    cases segment with
    | text content =>
      obtain ⟨rest, between, hrest, hpure⟩ := run_bind_eq_ok_iff.1 h
      obtain ⟨-, rfl⟩ := run_pure_eq_ok_iff.1 hpure
      exact ih hrest
    | placeholder token raw =>
      obtain ⟨replacement, between, htoken, hmore⟩ := run_bind_eq_ok_iff.1 h
      obtain ⟨rest, last, hrest, hpure⟩ := run_bind_eq_ok_iff.1 hmore
      obtain ⟨-, rfl⟩ := run_pure_eq_ok_iff.1 hpure
      obtain ⟨later, hfiles, hlater⟩ := ih hrest
      have hfirst := accounts_replaceField hexpand raw htoken
      rw [List.filterMap_cons]
      -- only a file that is there performs calls and moves the state on
      cases hincluded : engine.included? base (.placeholder token raw) with
      | none =>
        rw [hincluded] at hfirst
        have hstate : between.state = run.state := hfirst.state_eq
        rw [hstate] at hfiles
        exact ⟨later, hfiles, hfirst.trans hlater⟩
      | some file =>
        rw [hincluded] at hfirst
        obtain ⟨calls, hfile, hcalls⟩ := hfirst
        rw [hcalls.state_eq] at hfiles
        exact ⟨calls ++ later, .cons hfile hfiles, hcalls.trans hlater⟩

end

def RendersBuffers (engine : Engine σ) (fields : Fields) (levels : Nat) : Prop :=
  ∀ stack base buffer run output after,
    (engine.renderBuffer fields levels stack base buffer).run.run run = (.ok output, after) →
    ∃ calls, engine.BufferLog fields base buffer run.state calls ∧ engine.Accounts calls run after

theorem rendersFiles_expand {levels : Nat} {stack : List Path}
    (hinner : ∀ inner, levels = inner + 1 → engine.RendersBuffers fields inner) :
    engine.RendersFiles fields (engine.expand fields levels stack) := by
  intro file run output after h
  have hexpansion := engine.expansion fields levels stack file
  generalize engine.expand fields levels stack file = step at hexpansion h
  cases hexpansion with
  | missing hfile =>
    rw [hfile, if_neg Bool.false_ne_true]
    obtain ⟨_, between, hrecord, hpure⟩ := run_bind_eq_ok_iff.1 h
    obtain ⟨-, rfl⟩ := run_pure_eq_ok_iff.1 hpure
    exact .record rfl hrecord
  | circular _ _ => cases h
  | tooDeep _ _ => cases h
  | unreadable hfile _ hread =>
    rw [if_pos hfile]
    obtain ⟨_, between, hrecord, hpure⟩ := run_bind_eq_ok_iff.1 h
    obtain ⟨-, rfl⟩ := run_pure_eq_ok_iff.1 hpure
    exact ⟨[], .unreadable hread, .record rfl hrecord⟩
  | text hfile _ hread =>
    rw [if_pos hfile]
    obtain ⟨_, between, hrecord, hbuffer⟩ := run_bind_eq_ok_iff.1 h
    -- the entry on the file itself is no call
    have hevent : engine.Accounts [] run between := .record rfl hrecord
    obtain ⟨calls, hlog, hcalls⟩ := hinner _ rfl _ _ _ _ _ _ hbuffer
    have hstate : between.state = run.state := hevent.state_eq
    rw [hstate] at hlog
    exact ⟨calls, .text hread hlog, hevent.trans hcalls⟩

theorem rendersBuffers (engine : Engine σ) (fields : Fields) (levels : Nat) :
    engine.RendersBuffers fields levels := by
  induction levels using Nat.strongRecOn with
  | ind levels ih =>
    intro stack base buffer run output after h
    rw [renderBuffer_eq] at h
    obtain ⟨_, first, hcollect, hrest⟩ := run_bind_eq_ok_iff.1 h
    obtain ⟨called, second, hresolve, hfields⟩ := run_bind_eq_ok_iff.1 hrest
    obtain ⟨rfl, hcalls⟩ := accounts_passes hcollect hresolve
    have hexpand : engine.RendersFiles fields (engine.expand fields levels stack) := by
      apply rendersFiles_expand
      intro inner hinner
      exact ih inner (by omega)
    obtain ⟨later, hfiles, hlater⟩ := accounts_fill hexpand hfields
    rw [hcalls.state_eq] at hfiles
    exact ⟨_, .calls_append hfiles, hcalls.trans hlater⟩

theorem run_of_start_eq_ok {state : σ} {steps : RunM σ Text} {rendered : Rendered}
    (h : (start state steps).1 = .ok rendered) :
    steps.run.run { state } = (.ok rendered.output, (start state steps).2) ∧
      rendered.assets = (start state steps).2.assets := by
  unfold start at h ⊢
  generalize steps.run.run { state } = outcome at h ⊢
  obtain ⟨result, run⟩ := outcome
  cases result with
  | ok output =>
    obtain rfl := Except.ok.inj h
    exact ⟨rfl, rfl⟩
  | error error => cases h

/-- The calls of a rendering that starts with a buffer. -/
theorem bufferLog_of_start {levels : Nat} {stack : List Path} {base : Path} {buffer : Text}
    {state : σ} {rendered : Rendered} {outcome : Except RenderError Rendered × Run σ}
    (houtcome : outcome = start state (engine.renderBuffer fields levels stack base buffer))
    (hok : outcome.1 = .ok rendered) :
    engine.BufferLog fields base buffer state (invocations outcome.2.events) ∧
      outcome.2.state = engine.performAll (invocations outcome.2.events) state ∧
      rendered.assets = HeadAssets.empty.insertAll
        ((invocations outcome.2.events).flatMap engine.callAssets) := by
  subst houtcome
  obtain ⟨hrun, hassets⟩ := run_of_start_eq_ok hok
  obtain ⟨calls, hlog, hcalls⟩ := rendersBuffers engine fields levels _ _ _ _ _ _ hrun
  obtain rfl : invocations _ = calls := hcalls.invocations_eq
  exact ⟨hlog, hcalls.state_eq, hassets.trans hcalls.assets_eq⟩

theorem renderFile_eq_start {path : Path} {state : σ} {rendered : Rendered}
    (hok : (engine.renderFile fields path state).1 = .ok rendered) :
    ∃ template, engine.files.read path = .ok template ∧ engine.renderFile fields path state =
      start state (engine.renderBuffer fields engine.maxIncludeDepth [engine.files.canonical path]
        (Path.directory path) template) := by
  unfold renderFile at hok ⊢
  cases hread : engine.files.read path with
  | error cause =>
    rw [hread] at hok
    cases hok
  | ok template => exact ⟨template, rfl, rfl⟩

end Engine

end Folio.Render
