import Folio.Proofs.CallLogs
import Folio.Proofs.FieldMaps

/-!
# Collected assets

The first pass collects the assets of the extensions that a buffer calls before any of them runs. The
assets of a whole rendering are nevertheless those of the extensions that ran, in the order in which they
ran: each buffer is scanned for its assets and for its calls in the same order, and a file is rendered only
after the calls of the buffer that includes it.
-/

namespace Folio

namespace HeadAssets

/-- Adding addresses keeps each one at its first place. -/
theorem urls_insertAll (assets : HeadAssets) (urls : List Text) :
    (assets.insertAll urls).urls = (assets.urls ++ urls).eraseDups := by
  induction urls generalizing assets with
  | nil =>
    rw [List.append_nil, eraseDups_of_nodup assets.nodup]
    rfl
  | cons url urls ih =>
    change ((assets.insert url).insertAll urls).urls = _
    rw [ih]
    by_cases hmem : url ∈ assets.urls
    · rw [insert, dif_pos hmem, eraseDups_append_cons_of_mem hmem]
    · rw [insert, dif_neg hmem, List.append_assoc, List.singleton_append]

end HeadAssets

namespace Render

namespace Engine

variable {σ : Type} {engine : Engine σ}

theorem mem_callAssets_iff {call : Invocation} {url : Text} :
    url ∈ engine.callAssets call ↔ call.callee = .extension ∧
      ∃ extension, engine.registry.extension? call.name = some extension ∧
        url ∈ extension.headAssets := by
  obtain ⟨callee, name, options⟩ := call
  cases callee with
  | tool => simp [callAssets]
  | extension =>
    cases hname : engine.registry.extension? name with
    | none => simp [callAssets, hname]
    | some extension => simp [callAssets, hname]

/-- The assets of a successful rendering are those of the extensions that it called, in the order of the
calls and each at its first place. -/
theorem urls_rendered {fields : Fields} {state : σ} {outcome : Except RenderError Rendered × Run σ}
    (houtcome : (∃ base template, outcome = engine.render fields base template state) ∨
      ∃ path, outcome = engine.renderFile fields path state)
    {rendered : Rendered} (hok : outcome.1 = .ok rendered) :
    let calls := invocations outcome.2.events
    rendered.assets.urls = (calls.flatMap engine.callAssets).eraseDups ∧
      ∀ url, url ∈ rendered.assets.urls ↔ ∃ call ∈ calls, call.callee = .extension ∧
        ∃ extension, engine.registry.extension? call.name = some extension ∧
          url ∈ extension.headAssets := by
  have hassets : rendered.assets = HeadAssets.empty.insertAll
      ((invocations outcome.2.events).flatMap engine.callAssets) := by
    rcases houtcome with ⟨base, template, houtcome⟩ | ⟨path, rfl⟩
    · exact (bufferLog_of_start houtcome hok).2.2
    · obtain ⟨template, -, houtcome⟩ := renderFile_eq_start hok
      exact (bufferLog_of_start houtcome hok).2.2
  have hurls : rendered.assets.urls =
      ((invocations outcome.2.events).flatMap engine.callAssets).eraseDups := by
    rw [hassets, HeadAssets.urls_insertAll]
    rfl
  refine ⟨hurls, ?_⟩
  intro url
  rw [hurls, List.mem_eraseDups, List.mem_flatMap]
  exact exists_congr fun call => and_congr_right fun _ => mem_callAssets_iff

/-- A call with a malformed payload, and a file that a tool asks for. -/
theorem urls_rendered_shared :
    let engine : Engine Nat :=
      { registry :=
          { tools :=
              [("Part".toList, ⟨fun _ n => ("\x7b\x7binclude:part.html\x7d\x7d".toList, n + 1)⟩)]
            extensions :=
              [("Map".toList,
                  { invoke := fun _ n => ([], n + 1), headAssets := ["m.css".toList, "x.js".toList] }),
                ("Slider".toList,
                  { invoke := fun _ n => ([], n + 1), headAssets := ["x.js".toList, "s.js".toList] })] }
        files :=
          { root := .directory
              [("page.html".toList,
                  .file (some "\x7b\x7btool:Part\x7d\x7d\x7b\x7bext:Map \x7boops\x7d\x7d\x7d".toList)),
                ("part.html".toList,
                  .file (some "\x7b\x7bext:Slider\x7d\x7d\x7b\x7bext:Map\x7d\x7d".toList))]
            workingDirectory := ['/'] } }
    let outcome := engine.renderFile {} "page.html".toList 0
    let calls := invocations outcome.2.events
    let rendered : Rendered := ⟨[], ⟨["m.css".toList, "x.js".toList, "s.js".toList], by decide⟩⟩
    ((∃ base template, outcome = engine.render {} base template 0) ∨
        ∃ path, outcome = engine.renderFile {} path 0) ∧
      outcome.1 = .ok rendered ∧
      rendered.assets.urls = (calls.flatMap engine.callAssets).eraseDups ∧
      ∀ url, url ∈ rendered.assets.urls ↔ ∃ call ∈ calls, call.callee = .extension ∧
        ∃ extension, engine.registry.extension? call.name = some extension ∧
          url ∈ extension.headAssets := by
  intro engine outcome calls rendered
  have houtcome : (∃ base template, outcome = engine.render {} base template 0) ∨
      ∃ path, outcome = engine.renderFile {} path 0 := .inr ⟨_, rfl⟩
  have hok : outcome.1 = .ok rendered := by decide +kernel
  exact ⟨houtcome, hok, urls_rendered houtcome hok⟩

end Engine

end Render

end Folio
