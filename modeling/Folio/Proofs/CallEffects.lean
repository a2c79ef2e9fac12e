import Folio.Proofs.RunOutcomes
import Mathlib.Control.Monad.Basic

/-!
# What calls do to a run

The second pass performs the calls of a buffer from left to right. Its effect is said without the steps of
a run: the text that it gives, the state that it leaves and the events that it enters into the journal are
those of the calls one after the other. The calls themselves are known from the buffer as it is written.
-/

namespace Folio.Render

open Markup

variable {σ : Type}

theorem invocations_append (events later : List Event) :
    invocations (events ++ later) = invocations events ++ invocations later :=
  List.filterMap_append

def isCall : Segment → Bool
  | .placeholder (.call _ _ _) _ => true
  | _ => false

def CallFree (segments : List Segment) : Prop := ∀ segment ∈ segments, isCall segment = false

instance (segments : List Segment) : Decidable (CallFree segments) :=
  inferInstanceAs (Decidable (∀ segment ∈ segments, isCall segment = false))

namespace Engine

variable (engine : Engine σ) (fields : Fields)

/-- A segment of a payload as it is decoded: a field is the string of its value, and all else stands as it is
written. -/
def payloadText : Segment → Text
  | .text content => content
  | .placeholder (.field scope name) _ => Options.quoted ((fields.get? scope name).getD [])
  | .placeholder _ raw => raw

def writtenOptions : Option Text → Options
  | none => []
  | some payload => Options.ofPayload ((scan engine.markup payload).flatMap (payloadText fields))

/-- The call that a segment makes. An unknown name makes none. -/
def segmentCall? : Segment → Option Invocation
  | .placeholder (.call callee name payload) _ =>
    (engine.callable? callee name).map fun _ => ⟨callee, name, engine.writtenOptions fields payload⟩
  | _ => none

def bufferCalls (buffer : Text) : List Invocation :=
  (scan engine.markup buffer).filterMap (engine.segmentCall? fields)

def perform (call : Invocation) (state : σ) : Text × σ :=
  match engine.callable? call.callee call.name with
  | some invoke => invoke call.options state
  | none => ([], state)

def performAll (calls : List Invocation) (state : σ) : σ :=
  calls.foldl (fun state call => (engine.perform call state).2) state

/-- The text of segments after their calls, which start in a state. -/
def replaceCalls : List Segment → σ → Text
  | [], _ => []
  | .text content :: segments, state => content ++ replaceCalls segments state
  | .placeholder (.call callee name payload) _ :: segments, state =>
    let (output, after) := engine.perform ⟨callee, name, engine.writtenOptions fields payload⟩ state
    output ++ replaceCalls segments after
  | .placeholder _ raw :: segments, state => raw ++ replaceCalls segments state

def rejections (payload : Option Text) : List Event :=
  match engine.decodeCall fields payload with
  | .ok _ => []
  | .error rejection => [.optionsRejected rejection]

def callEvent (callee : Callee) (name : Text) (options : Options) : Event :=
  if (engine.callable? callee name).isSome then .called callee name options else .unknownName callee name

def segmentEvents : Segment → List Event
  | .placeholder (.call callee name payload) _ =>
    engine.rejections fields payload ++
      [engine.callEvent callee name (engine.writtenOptions fields payload)]
  | _ => []

variable {engine fields}

theorem performAll_append (calls later : List Invocation) (state : σ) :
    engine.performAll (calls ++ later) state = engine.performAll later (engine.performAll calls state) :=
  List.foldl_append

theorem invocations_rejections (payload : Option Text) :
    invocations (engine.rejections fields payload) = [] := by
  unfold rejections
  cases engine.decodeCall fields payload with
  | ok options => rfl
  | error rejection => rfl

theorem invocations_segmentEvents (segment : Segment) :
    invocations (engine.segmentEvents fields segment) = (engine.segmentCall? fields segment).toList := by
  match segment with
  | .text content => rfl
  | .placeholder (.field scope name) raw => rfl
  | .placeholder (.inclusion path) raw => rfl
  | .placeholder (.call callee name payload) raw =>
    simp only [segmentEvents, segmentCall?, invocations_append, invocations_rejections, callEvent]
    cases engine.callable? callee name with
    | none => rfl
    | some call => rfl

/-- The state after one placeholder, whether the name of its call is known or not. -/
theorem performAll_segmentCall? (callee : Callee) (name : Text) (payload : Option Text) (raw : Text)
    (state : σ) :
    engine.performAll (engine.segmentCall? fields (.placeholder (.call callee name payload) raw)).toList
      state = (engine.perform ⟨callee, name, engine.writtenOptions fields payload⟩ state).2 := by
  simp only [segmentCall?, perform, performAll]
  cases hcall : engine.callable? callee name with
  | none => rfl
  | some call => simp [hcall]

/-! ## One placeholder -/

theorem resolvePayload_eq (payload : Text) :
    engine.resolvePayload fields payload = (scan engine.markup payload).flatMap (payloadText fields) := by
  unfold resolvePayload substitute
  induction scan engine.markup payload with
  | nil => rfl
  | cons segment segments ih =>
    rw [List.flatMap_cons, ← ih]
    match segment with
    | .text content => rfl
    | .placeholder (.field scope name) raw => rfl
    | .placeholder (.call callee name payload) raw => rfl
    | .placeholder (.inclusion path) raw => rfl

theorem callOptions_eq_writtenOptions (payload : Option Text) :
    engine.callOptions fields payload = engine.writtenOptions fields payload := by
  cases payload with
  | none => rfl
  | some payload =>
    rw [writtenOptions, ← resolvePayload_eq]
    rfl

theorem run_readOptions (payload : Option Text) (run : Run σ) :
    (engine.readOptions fields payload).run run =
      (engine.writtenOptions fields payload,
        { run with events := run.events ++ engine.rejections fields payload }) := by
  rw [← callOptions_eq_writtenOptions]
  unfold readOptions callOptions rejections
  cases engine.decodeCall fields payload with
  | ok options =>
    dsimp only
    rw [List.append_nil]
    rfl
  | error rejection => rfl

theorem run_invoke (callee : Callee) (name : Text) (options : Options) (run : Run σ) :
    (engine.invoke callee name options).run run =
      ((engine.perform ⟨callee, name, options⟩ run.state).1,
        { run with
          state := (engine.perform ⟨callee, name, options⟩ run.state).2
          events := run.events ++ [engine.callEvent callee name options] }) := by
  unfold invoke perform callEvent
  cases engine.callable? callee name with
  | none => rfl
  | some call => rfl

variable (engine fields) in
def replaceCall : Token → StateM (Run σ) (Option Text)
  | .call callee name payload => do
    let options ← engine.readOptions fields payload
    return some (← engine.invoke callee name options)
  | _ => return none

theorem run_replaceCall (fields : Fields) (callee : Callee) (name : Text) (payload : Option Text)
    (raw : Text) (run : Run σ) :
    let call : Invocation := ⟨callee, name, engine.writtenOptions fields payload⟩
    (engine.replaceCall fields (.call callee name payload)).run run =
      (some (engine.perform call run.state).1,
        { run with
          state := (engine.perform call run.state).2
          events := run.events ++
            engine.segmentEvents fields (.placeholder (.call callee name payload) raw) }) := by
  change (fun result => (some result.1, result.2))
    ((engine.invoke callee name ((engine.readOptions fields payload).run run).1).run
      ((engine.readOptions fields payload).run run).2) = _
  rw [run_readOptions, run_invoke]
  simp only [segmentEvents, List.append_assoc]

/-! ## All placeholders -/

theorem run_fill_text {replace : Token → StateM (Run σ) (Option Text)} (content : Text)
    {segments : List Segment} {rest : Text} {run after : Run σ}
    (h : (fill replace segments).run run = (rest, after)) :
    (fill replace (.text content :: segments)).run run = (content ++ rest, after) := by
  change (content ++ ((fill replace segments).run run).1, ((fill replace segments).run run).2) = _
  rw [h]

theorem run_fill_placeholder {replace : Token → StateM (Run σ) (Option Text)} {token : Token} (raw : Text)
    {segments : List Segment} {replacement : Option Text} {rest : Text} {run between after : Run σ}
    (htoken : (replace token).run run = (replacement, between))
    (h : (fill replace segments).run between = (rest, after)) :
    (fill replace (.placeholder token raw :: segments)).run run =
      (replacement.getD raw ++ rest, after) := by
  change (((replace token).run run).1.getD raw ++
      ((fill replace segments).run ((replace token).run run).2).1,
    ((fill replace segments).run ((replace token).run run).2).2) = _
  rw [htoken, h]

theorem filterMap_segmentCall?_cons (segment : Segment) (segments : List Segment) :
    (segment :: segments).filterMap (engine.segmentCall? fields) =
      (engine.segmentCall? fields segment).toList ++ segments.filterMap (engine.segmentCall? fields) := by
  rw [List.filterMap_cons]
  cases engine.segmentCall? fields segment with
  | none => rfl
  | some call => rfl

theorem run_fill_replaceCall (segments : List Segment) (run : Run σ) :
    (fill (engine.replaceCall fields) segments).run run =
      (engine.replaceCalls fields segments run.state,
        { run with
          state := engine.performAll (segments.filterMap (engine.segmentCall? fields)) run.state
          events := run.events ++ segments.flatMap (engine.segmentEvents fields) }) := by
  induction segments generalizing run with
  | nil =>
    rw [List.flatMap_nil, List.append_nil]
    rfl
  | cons segment segments ih =>
    match segment with
    | .text content => exact run_fill_text content (ih run)
    | .placeholder (.field scope name) raw =>
      have htoken : (engine.replaceCall fields (.field scope name)).run run = (none, run) := rfl
      exact run_fill_placeholder raw htoken (ih run)
    | .placeholder (.inclusion path) raw =>
      have htoken : (engine.replaceCall fields (.inclusion path)).run run = (none, run) := rfl
      exact run_fill_placeholder raw htoken (ih run)
    | .placeholder (.call callee name payload) raw =>
      have htoken := engine.run_replaceCall fields callee name payload raw run
      rw [run_fill_placeholder raw htoken (ih _), filterMap_segmentCall?_cons, performAll_append,
        performAll_segmentCall?, List.flatMap_cons]
      dsimp only
      rw [List.append_assoc]
      rfl

/-- The second pass performs the calls of a buffer and puts their output in their place. -/
theorem run_resolveCalls (fields : Fields) (buffer : Text) (run : Run σ) :
    (engine.resolveCalls fields buffer).run run =
      (engine.replaceCalls fields (scan engine.markup buffer) run.state,
        { run with
          state := engine.performAll (engine.bufferCalls fields buffer) run.state
          events := run.events ++ (scan engine.markup buffer).flatMap (engine.segmentEvents fields) }) := by
  have heq : engine.resolveCalls fields buffer =
      fill (engine.replaceCall fields) (scan engine.markup buffer) := rfl
  rw [heq, run_fill_replaceCall]
  rfl

theorem assets_resolveCalls (fields : Fields) (buffer : Text) (run : Run σ) :
    ((engine.resolveCalls fields buffer).run run).2.assets = run.assets := by
  rw [run_resolveCalls]

/-- The journal of the second pass has the calls of the buffer. -/
theorem invocations_flatMap_segmentEvents (segments : List Segment) :
    invocations (segments.flatMap (engine.segmentEvents fields)) =
      segments.filterMap (engine.segmentCall? fields) := by
  induction segments with
  | nil => rfl
  | cons segment segments ih =>
    rw [List.flatMap_cons, invocations_append, invocations_segmentEvents, ih, filterMap_segmentCall?_cons]

/-! ## Buffers without calls -/

/-- Only calls have effects in the first two passes. -/
theorem effects_of_not_isCall (fields : Fields) {segment : Segment} (h : isCall segment = false) :
    engine.segmentAssets segment = [] ∧ engine.segmentCall? fields segment = none ∧
      engine.segmentEvents fields segment = [] := by
  match segment, h with
  | .text content, _ => exact ⟨rfl, rfl, rfl⟩
  | .placeholder (.field scope name) raw, _ => exact ⟨rfl, rfl, rfl⟩
  | .placeholder (.inclusion path) raw, _ => exact ⟨rfl, rfl, rfl⟩

theorem replaceCalls_of_callFree {segments : List Segment} (h : CallFree segments) (state : σ) :
    engine.replaceCalls fields segments state = source segments := by
  induction segments with
  | nil => rfl
  | cons segment segments ih =>
    have hrest := ih fun other hother => h other (List.mem_cons_of_mem segment hother)
    match segment, h segment List.mem_cons_self with
    | .text content, _ => exact congrArg (content ++ ·) hrest
    | .placeholder (.field scope name) raw, _ => exact congrArg (raw ++ ·) hrest
    | .placeholder (.inclusion path) raw, _ => exact congrArg (raw ++ ·) hrest

/-- The first two passes leave a buffer without calls, and the run, as they are. -/
theorem renderBuffer_of_callFree {buffer : Text} (h : CallFree (scan engine.markup buffer)) (levels : Nat)
    (stack : List Path) (base : Path) : engine.renderBuffer fields levels stack base buffer =
      engine.resolveFields fields base (engine.expand fields levels stack) buffer := by
  apply ExceptT.ext
  apply StateT.ext
  intro run
  have hnone : engine.bufferAssets buffer = [] :=
    List.flatMap_eq_nil_iff.2 fun segment hsegment =>
      (effects_of_not_isCall fields (h segment hsegment)).1
  have hcalls : engine.bufferCalls fields buffer = [] :=
    List.filterMap_eq_nil_iff.2 fun segment hsegment => (effects_of_not_isCall fields (h segment hsegment)).2.1
  have hevents : (scan engine.markup buffer).flatMap (engine.segmentEvents fields) = [] :=
    List.flatMap_eq_nil_iff.2 fun segment hsegment => (effects_of_not_isCall fields (h segment hsegment)).2.2
  have hcollect : (engine.collectAssets buffer : RunM σ Unit).run.run run = (.ok (), run) := by
    change (Except.ok (), { run with assets := run.assets.insertAll (engine.bufferAssets buffer) }) = _
    rw [hnone]
    rfl
  have hresolve : (engine.resolveCalls fields buffer : RunM σ Text).run.run run = (.ok buffer, run) := by
    change (Except.ok ((engine.resolveCalls fields buffer).run run).1,
      ((engine.resolveCalls fields buffer).run run).2) = _
    rw [run_resolveCalls, hcalls, hevents, replaceCalls_of_callFree h, source_scan, List.append_nil]
    rfl
  rw [renderBuffer_eq, run_bind, hcollect]
  dsimp only
  rw [run_bind, hresolve]

end Engine

end Folio.Render
