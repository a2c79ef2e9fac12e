import Folio.Proofs.CallEffects
import Folio.Proofs.FilePlaces
import Mathlib.Data.List.Lex
import Mathlib.Data.List.Nodup

/-!
# Chains of includes

A template includes files, which include further files. A chain of includes fits if no file occurs in it
twice and it is not longer than the engine allows. Rendering succeeds exactly if all chains fit; otherwise
it stops at the first one that does not, in the order in which chains are met from left to right and into
the depth. Files are told apart by their places, however the includes spell them. An address says which
segment a chain takes at each level, so that the order is the one of words in a dictionary.
-/

namespace Folio.Render

open Markup
open FileTree (Place)

variable {σ : Type}

/-- A segment of a buffer, whose includes are relative to `base`, includes the file at a place. -/
inductive Includes (files : FileTree) (base : Path) : Segment → Path → Place → Option Text → Prop where
  | intro {path raw : Text} {place : Place} {content : Option Text} : Path.isAbsolute path = false →
    files.LeadsTo (Path.join base path) place (.file content) →
    Includes files base (.placeholder (.inclusion path) raw) (Path.join base path) place content

namespace Includes

variable {files : FileTree} {base file file' : Path} {segment : Segment} {place place' : Place}
  {content content' : Option Text}

theorem leadsTo (h : Includes files base segment file place content) :
    files.LeadsTo file place (.file content) := by
  cases h with
  | intro _ hleads => exact hleads

theorem unique (h : Includes files base segment file place content)
    (h' : Includes files base segment file' place' content') :
    file = file' ∧ place = place' ∧ content = content' := by
  cases h with
  | intro _ hleads =>
    cases h' with
    | intro _ hleads' =>
      obtain ⟨hplace, hnode⟩ := hleads.unique hleads'
      exact ⟨rfl, hplace, Node.file.inj hnode⟩

end Includes

namespace Engine

variable (engine : Engine σ) (fields : Fields) (state : σ)

def calledSegments (buffer : Text) : List Segment :=
  scan engine.markup (engine.replaceCalls fields (scan engine.markup buffer) state)

def included? (base : Path) : Segment → Option Path
  | .placeholder (.inclusion path) _ =>
    if Path.isAbsolute path then none
    else if engine.files.isFile (Path.join base path) then some (Path.join base path)
    else none
  | _ => none

def requestedFiles (base : Path) (buffer : Text) : List Path :=
  (engine.calledSegments fields state buffer).filterMap (engine.included? base)

/-- The files that a file includes. A file that holds no text includes none. -/
def fileInclusions (file : Path) : List Path :=
  match engine.files.read file with
  | .ok content => engine.requestedFiles fields state (Path.directory file) content
  | .error _ => []

/-- A chain of includes that starts in a buffer, by its address and the places of its files. A file without text
counts as an empty one, from which no chain goes on. -/
inductive Chain : Path → Text → List Nat → List Place → Prop where
  | nil {base : Path} {buffer : Text} : Chain base buffer [] []
  | cons {base file : Path} {buffer : Text} {i : Nat} {segment : Segment} {place : Place}
      {content : Option Text} {address : List Nat} {places : List Place} :
    (engine.calledSegments fields state buffer)[i]? = some segment →
    Includes engine.files base segment file place content →
    Chain (Path.directory file) (content.getD []) address places →
    Chain base buffer (i :: address) (place :: places)

/-- The files of a chain, which are rendered inside the files of `stack`, are all different, and there are
not too many of them. -/
def Fits (levels : Nat) (stack places : List Place) : Prop :=
  (stack ++ places).Nodup ∧ places.length ≤ levels

structure FirstMisfit (levels : Nat) (stack : List Place) (base : Path) (buffer : Text) (address : List Nat)
    (places : List Place) : Prop where
  chain : engine.Chain fields state base buffer address places
  misfit : ¬ Fits levels stack places
  first : ∀ address' places', engine.Chain fields state base buffer address' places' →
    ¬ Fits levels stack places' → ¬ List.Lex (· < ·) address' address

def fileReason? : Nat → List Path → Path → Option RenderError
  | levels, stack, file =>
    if engine.files.canonical file ∈ stack then some (.circular (engine.files.canonical file) stack)
    else
      match levels with
      | 0 => some (.tooDeep (engine.files.canonical file) engine.maxIncludeDepth)
      | levels + 1 =>
        (engine.fileInclusions fields state file).findSome?
          (fileReason? levels (stack ++ [engine.files.canonical file]))

def bufferReason? (levels : Nat) (stack : List Path) (base : Path) (buffer : Text) : Option RenderError :=
  (engine.requestedFiles fields state base buffer).findSome? (engine.fileReason? fields state levels stack)

variable {engine fields state}

/-! ## Rendering follows the chains -/

theorem findSome?_requestedFiles (reason : Path → Option RenderError) (base : Path) (buffer : Text) :
    (engine.requestedFiles fields state base buffer).findSome? reason =
      (engine.calledSegments fields state buffer).findSome?
        fun segment => (engine.included? base segment).bind reason := by
  rw [requestedFiles, ← List.head?_filterMap, List.filterMap_filterMap, List.head?_filterMap]

theorem requestedFiles_nil (base : Path) : engine.requestedFiles fields state base [] = [] := by
  rw [requestedFiles, calledSegments, scan_nil, replaceCalls, scan_nil]
  rfl

theorem included?_eq_some_iff {base file : Path} {segment : Segment} :
    engine.included? base segment = some file ↔
      ∃ place content, Includes engine.files base segment file place content := by
  constructor
  · intro h
    match segment with
    | .placeholder (.inclusion path) raw =>
      simp only [included?] at h
      split at h
      · cases h
      · rename_i habsolute
        split at h
        · rename_i hfile
          obtain rfl := Option.some.inj h
          obtain ⟨place, content, hleads⟩ := FileTree.isFile_iff.1 hfile
          exact ⟨place, content, .intro (Bool.eq_false_iff.2 habsolute) hleads⟩
        · cases h
  · rintro ⟨place, content, ⟨habsolute, hleads⟩⟩
    simp only [included?, habsolute, Bool.false_eq_true, if_false]
    exact if_pos (FileTree.isFile_iff.2 ⟨place, content, hleads⟩)

variable {base file : Path} {buffer : Text} {segment : Segment} {place : Place} {content : Option Text}

/-- Rendering knows the files around a file by their canonical paths, which tell their places apart. -/
theorem fileReason?_eq (h : Includes engine.files base segment file place content) (levels : Nat)
    (stack : List Place) :
    engine.fileReason? fields state levels (stack.map Place.path) file =
      if place ∈ stack then some (.circular place.path (stack.map Place.path))
      else
        match levels with
        | 0 => some (.tooDeep place.path engine.maxIncludeDepth)
        | inner + 1 => engine.bufferReason? fields state inner ((stack ++ [place]).map Place.path)
          (Path.directory file) (content.getD []) := by
  have hfiles : engine.fileInclusions fields state file =
      engine.requestedFiles fields state (Path.directory file) (content.getD []) := by
    rw [fileInclusions, h.leadsTo.read_eq]
    cases content with
    | none => exact (requestedFiles_nil _).symm
    | some content => rfl
  unfold fileReason?
  rw [h.leadsTo.canonical_eq, hfiles]
  simp only [List.mem_map_of_injective Place.path_injective, List.map_append, List.map_cons, List.map_nil]
  rfl

theorem fileReason?_eq_none_iff (h : Includes engine.files base segment file place content) {levels : Nat}
    {stack : List Place} : engine.fileReason? fields state levels (stack.map Place.path) file = none ↔
      place ∉ stack ∧ ∃ inner, levels = inner + 1 ∧
        engine.bufferReason? fields state inner ((stack ++ [place]).map Place.path) (Path.directory file)
          (content.getD []) = none := by
  rw [fileReason?_eq h]
  by_cases hmem : place ∈ stack
  · simp [hmem]
  · cases levels with
    | zero => simp [hmem]
    | succ inner => simp [hmem]

theorem fileReason?_eq_none_of_bufferReason?_eq_none {levels : Nat} {stack : List Path}
    (hnone : engine.bufferReason? fields state levels stack base buffer = none)
    (hsegment : segment ∈ engine.calledSegments fields state buffer)
    (h : Includes engine.files base segment file place content) :
    engine.fileReason? fields state levels stack file = none := by
  rw [bufferReason?, findSome?_requestedFiles] at hnone
  have hreason := List.findSome?_eq_none_iff.1 hnone segment hsegment
  rwa [included?_eq_some_iff.2 ⟨place, content, h⟩] at hreason

/-! ## Chains that fit -/

theorem fits_cons_iff {levels : Nat} {stack places : List Place} :
    Fits (levels + 1) stack (place :: places) ↔ Fits levels (stack ++ [place]) places := by
  simp [Fits]

theorem fits_nil {levels : Nat} {stack : List Place} (hstack : stack.Nodup) : Fits levels stack [] := by
  rw [Fits, List.append_nil]
  exact ⟨hstack, Nat.zero_le levels⟩

theorem nodup_append_singleton {α : Type} {stack : List α} {last : α} (hstack : stack.Nodup)
    (hlast : last ∉ stack) : (stack ++ [last]).Nodup := by
  rw [← List.concat_eq_append]
  exact List.Nodup.concat hlast hstack

/-- Where nothing stops rendering, all chains fit. -/
theorem Chain.fits {levels : Nat} {stack places : List Place} {address : List Nat}
    (h : engine.Chain fields state base buffer address places) (hstack : stack.Nodup)
    (hnone : engine.bufferReason? fields state levels (stack.map Place.path) base buffer = none) :
    Fits levels stack places := by
  induction h generalizing levels stack with
  | nil => exact fits_nil hstack
  | cons hsegment hincludes _ ih =>
    have hreason := fileReason?_eq_none_of_bufferReason?_eq_none hnone (List.mem_of_getElem? hsegment) hincludes
    obtain ⟨hplace, inner, rfl, hinner⟩ := (fileReason?_eq_none_iff hincludes).1 hreason
    exact fits_cons_iff.2 (ih (nodup_append_singleton hstack hplace) hinner)

/-- The files of a chain are determined by its address. -/
theorem Chain.unique {address : List Nat} {places places' : List Place}
    (h : engine.Chain fields state base buffer address places)
    (h' : engine.Chain fields state base buffer address places') : places = places' := by
  induction h generalizing places' with
  | nil =>
    cases h'
    rfl
  | cons hsegment hincludes _ ih =>
    cases h' with
    | cons hsegment' hincludes' hrest =>
      obtain rfl := Option.some.inj (hsegment.symm.trans hsegment')
      obtain ⟨rfl, rfl, rfl⟩ := hincludes.unique hincludes'
      rw [ih hrest]

theorem FirstMisfit.unique {levels : Nat} {stack places places' : List Place} {address address' : List Nat}
    (h : engine.FirstMisfit fields state levels stack base buffer address places)
    (h' : engine.FirstMisfit fields state levels stack base buffer address' places') : places = places' := by
  obtain rfl : address = address' :=
    Std.Trichotomous.trichotomous address address' (h'.first _ _ h.chain h.misfit)
      (h.first _ _ h'.chain h'.misfit)
  exact h.chain.unique h'.chain

/-! ## The first chain that does not fit -/

section

variable {levels : Nat} {stack : List Place} {before after : List Segment}

end

end Engine

end Folio.Render
