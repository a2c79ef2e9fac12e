import Folio.Text.Basic

/-!
# Field maps

A field map holds the fields of a content file in the order in which their keys were first written.
Keys are unique: a second value for a key takes the place of the first one. The main statement says
what an insertion does to the keys.
-/

namespace Folio

namespace FieldMap

def upsert (key value : Text) : List (Text × Text) → List (Text × Text)
  | [] => [(key, value)]
  | field :: fields =>
    if field.1 = key then (key, value) :: fields else field :: upsert key value fields

theorem keys_upsert (key value : Text) (fields : List (Text × Text)) :
    (upsert key value fields).map Prod.fst =
      if key ∈ fields.map Prod.fst then fields.map Prod.fst else fields.map Prod.fst ++ [key] := by
  induction fields with
  | nil => simp [upsert]
  | cons field fields ih =>
    by_cases h : field.1 = key
    · simp [upsert, h]
    · have h' : key ≠ field.1 := Ne.symm h
      simp only [upsert, h, if_false, List.map_cons, ih, List.mem_cons, h', false_or]
      split <;> simp

theorem nodup_keys_upsert (key value : Text) {fields : List (Text × Text)}
    (h : (fields.map Prod.fst).Nodup) : ((upsert key value fields).map Prod.fst).Nodup := by
  rw [keys_upsert]
  split
  · exact h
  · rename_i hk
    rw [List.nodup_append]
    refine ⟨h, by simp, ?_⟩
    rintro a ha b hb rfl
    exact hk (by simpa [List.mem_singleton.1 hb] using ha)

end FieldMap

/-- Fields with unique keys, in the order in which the keys were first inserted. -/
structure FieldMap where
  toList : List (Text × Text)
  nodup_keys : (toList.map Prod.fst).Nodup

namespace FieldMap

def empty : FieldMap := ⟨[], by simp⟩

instance : Inhabited FieldMap := ⟨empty⟩

instance : EmptyCollection FieldMap := ⟨empty⟩

@[ext] theorem ext {m n : FieldMap} (h : m.toList = n.toList) : m = n := by
  cases m; cases n; cases h; rfl

instance : DecidableEq FieldMap := fun m n =>
  if h : m.toList = n.toList then isTrue (ext h) else isFalse fun e => h (e ▸ rfl)

/-- Inserts a field. A key that is there keeps its position and takes the new value. -/
def insert (m : FieldMap) (key value : Text) : FieldMap :=
  ⟨upsert key value m.toList, nodup_keys_upsert key value m.nodup_keys⟩

def get? (m : FieldMap) (key : Text) : Option Text := m.toList.lookup key

def contains (m : FieldMap) (key : Text) : Bool := (m.get? key).isSome

def size (m : FieldMap) : Nat := m.toList.length

def isEmpty (m : FieldMap) : Bool := m.toList.isEmpty

def keys (m : FieldMap) : List Text := m.toList.map Prod.fst

def insertAll (m : FieldMap) (fields : List (Text × Text)) : FieldMap :=
  fields.foldl (fun m field => m.insert field.1 field.2) m

def ofList (fields : List (Text × Text)) : FieldMap := empty.insertAll fields

/-- Lays a map over another one: where both have a key, the value of the second one counts. -/
def merge (m n : FieldMap) : FieldMap := m.insertAll n.toList

def mapValues (f : Text → Text) (m : FieldMap) : FieldMap :=
  ⟨m.toList.map fun field => (field.1, f field.2), by
    simpa [List.map_map, Function.comp_def] using m.nodup_keys⟩

def sameFields (m n : FieldMap) : Bool :=
  m.size = n.size && m.toList.all fun field => n.get? field.1 = some field.2

end FieldMap

end Folio
