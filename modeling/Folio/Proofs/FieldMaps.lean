import Folio.FieldMap
import Mathlib.Data.List.Induction

/-!
# Field maps from lists of fields

Inserting fields one after another keeps each key at its first place with its last value. Where the keys are
new, the fields are appended, so a map is what arises from inserting its own fields in their order.
-/

namespace Folio

section FirstPlaces

variable {α : Type} [BEq α] [LawfulBEq α]

theorem eraseDups_of_nodup {xs : List α} (h : xs.Nodup) : xs.eraseDups = xs := by
  induction xs with
  | nil => rfl
  | cons x xs ih =>
    obtain ⟨hx, hxs⟩ := List.nodup_cons.1 h
    rw [List.eraseDups_cons, List.filter_eq_self.2, ih hxs]
    intro y hy
    have hne : y ≠ x := fun heq => hx (heq ▸ hy)
    simpa using hne

theorem eraseDups_append_cons_of_mem {x : α} {xs : List α} (h : x ∈ xs) (ys : List α) :
    (xs ++ x :: ys).eraseDups = (xs ++ ys).eraseDups := by
  rw [List.eraseDups_append, List.eraseDups_append]
  congr 2
  simp [List.removeAll, h]

theorem eraseDups_append_singleton (xs : List α) (x : α) :
    (xs ++ [x]).eraseDups = if x ∈ xs then xs.eraseDups else xs.eraseDups ++ [x] := by
  split
  · rename_i hx
    rw [eraseDups_append_cons_of_mem hx, List.append_nil]
  · rename_i hx
    have hnew : [x].removeAll xs = [x] := by simp [List.removeAll, hx]
    rw [List.eraseDups_append, hnew, List.eraseDups_cons, List.filter_nil, List.eraseDups_nil]

/-- The elements of a list, each once, in the order in which they first stand there. -/
structure FirstOrder (all listed : List α) : Prop where
  nodup : listed.Nodup
  mem_iff : ∀ x, x ∈ listed ↔ x ∈ all
  ordered : listed.Pairwise fun x y => all.idxOf x < all.idxOf y

theorem firstOrder_eraseDups (xs : List α) : FirstOrder xs xs.eraseDups := by
  have hordered : xs.eraseDups.Pairwise fun x y => xs.idxOf x < xs.idxOf y := by
    -- what is added behind a list moves no first place in it
    induction xs using List.reverseRecOn with
    | nil => exact List.Pairwise.nil
    | append_singleton xs x ih =>
      have hkept : xs.eraseDups.Pairwise fun y z => (xs ++ [x]).idxOf y < (xs ++ [x]).idxOf z := by
        refine ih.imp_of_mem ?_
        intro y z hy hz hlt
        rwa [List.idxOf_append, List.idxOf_append, if_pos (List.mem_eraseDups.1 hy),
          if_pos (List.mem_eraseDups.1 hz)]
      rw [eraseDups_append_singleton]
      split
      · exact hkept
      · rename_i hx
        refine List.pairwise_append.2 ⟨hkept, List.pairwise_singleton _ x, ?_⟩
        intro y hy z hz
        have hy := List.mem_eraseDups.1 hy
        rw [List.mem_singleton.1 hz, List.idxOf_append, List.idxOf_append, if_pos hy, if_neg hx]
        exact Nat.lt_add_left _ (List.idxOf_lt_length_iff.2 hy)
  exact
    { nodup := hordered.imp fun hlt heq => absurd (heq ▸ hlt) (Nat.lt_irrefl _)
      mem_iff := fun x => List.mem_eraseDups
      ordered := hordered }

theorem eraseDups_eraseDups_append (xs ys : List α) :
    (xs.eraseDups ++ ys).eraseDups = (xs ++ ys).eraseDups := by
  have hsame : ys.removeAll xs.eraseDups = ys.removeAll xs := by simp [List.removeAll]
  rw [List.eraseDups_append, List.eraseDups_append, hsame,
    eraseDups_of_nodup (firstOrder_eraseDups xs).nodup]

end FirstPlaces

namespace FieldMap

theorem upsert_of_not_mem {key : Text} (value : Text) {fields : List (Text × Text)}
    (h : key ∉ fields.map Prod.fst) : upsert key value fields = fields ++ [(key, value)] := by
  induction fields with
  | nil => rfl
  | cons field fields ih =>
    rw [List.map_cons, List.mem_cons, not_or] at h
    rw [upsert, if_neg (Ne.symm h.1), ih h.2, List.cons_append]

theorem toList_insertAll {m : FieldMap} {fields : List (Text × Text)}
    (h : ((m.toList ++ fields).map Prod.fst).Nodup) :
    (m.insertAll fields).toList = m.toList ++ fields := by
  induction fields generalizing m with
  | nil => exact (List.append_nil _).symm
  | cons field fields ih =>
    have hkey : field.1 ∉ m.toList.map Prod.fst := by
      intro hmem
      rw [List.map_append, List.nodup_append] at h
      exact h.2.2 _ hmem _ List.mem_cons_self rfl
    have hinsert : (m.insert field.1 field.2).toList = m.toList ++ [field] :=
      upsert_of_not_mem field.2 hkey
    change ((m.insert field.1 field.2).insertAll fields).toList = _
    rw [ih (by rwa [hinsert, List.append_assoc]), hinsert, List.append_assoc]
    rfl

theorem ofList_toList (m : FieldMap) : ofList m.toList = m := by
  apply ext
  have hnil : (empty.toList ++ m.toList) = m.toList := rfl
  rw [ofList, toList_insertAll (by rw [hnil]; exact m.nodup_keys), hnil]

theorem lookup_upsert (key value name : Text) (fields : List (Text × Text)) :
    (upsert key value fields).lookup name = if name = key then some value else fields.lookup name := by
  induction fields with
  | nil => simp [upsert]
  | cons field fields ih =>
    obtain ⟨first, other⟩ := field
    by_cases hfirst : first = key
    · subst hfirst
      rw [upsert, if_pos rfl, List.lookup_cons, List.lookup_cons]
      by_cases hname : name = first
      · simp [hname]
      · rw [beq_eq_false_iff_ne.2 hname, if_neg hname]
    · rw [upsert, if_neg hfirst, List.lookup_cons, List.lookup_cons, ih]
      by_cases hname : name = first
      · simp [hname, hfirst]
      · rw [beq_eq_false_iff_ne.2 hname]

theorem get?_insert (m : FieldMap) (key value name : Text) :
    (m.insert key value).get? name = if name = key then some value else m.get? name :=
  lookup_upsert key value name m.toList

/-- A key has the value that was inserted last. -/
theorem get?_insertAll (m : FieldMap) (fields : List (Text × Text)) (name : Text) :
    (m.insertAll fields).get? name = (fields.reverse.lookup name).or (m.get? name) := by
  induction fields generalizing m with
  | nil => rfl
  | cons field fields ih =>
    obtain ⟨key, value⟩ := field
    change ((m.insert key value).insertAll fields).get? name = _
    rw [ih, get?_insert, List.reverse_cons, List.lookup_append, Option.or_assoc, List.lookup_singleton]
    by_cases hname : name = key
    · simp [hname]
    · simp [hname]

theorem keys_insert (m : FieldMap) (key value : Text) :
    (m.insert key value).keys = if key ∈ m.keys then m.keys else m.keys ++ [key] :=
  keys_upsert key value m.toList

/-- A key stands where it was inserted first. -/
theorem keys_insertAll (m : FieldMap) (fields : List (Text × Text)) :
    (m.insertAll fields).keys = (m.keys ++ fields.map Prod.fst).eraseDups := by
  induction fields generalizing m with
  | nil =>
    rw [List.map_nil, List.append_nil]
    exact (eraseDups_of_nodup m.nodup_keys).symm
  | cons field fields ih =>
    change ((m.insert field.1 field.2).insertAll fields).keys = _
    rw [ih, keys_insert, List.map_cons]
    split
    · rename_i hkey
      rw [eraseDups_append_cons_of_mem hkey]
    · rw [List.append_assoc, List.singleton_append]

theorem get?_ofList (fields : List (Text × Text)) (name : Text) :
    (ofList fields).get? name = fields.reverse.lookup name := by
  rw [ofList, get?_insertAll]
  exact Option.or_none

theorem keys_ofList (fields : List (Text × Text)) :
    (ofList fields).keys = (fields.map Prod.fst).eraseDups :=
  keys_insertAll empty fields

theorem eq_or_mem_of_mem_upsert {key value : Text} {fields : List (Text × Text)} {field : Text × Text}
    (h : field ∈ upsert key value fields) : field = (key, value) ∨ field ∈ fields := by
  induction fields with
  | nil => exact .inl (List.mem_singleton.1 h)
  | cons first fields ih =>
    rw [upsert] at h
    split at h
    · exact (List.mem_cons.1 h).imp_right (List.mem_cons_of_mem first)
    · rcases List.mem_cons.1 h with rfl | h
      · exact .inr List.mem_cons_self
      · exact (ih h).imp_right (List.mem_cons_of_mem first)

/-- A map holds nothing but what was inserted. -/
theorem mem_of_mem_insertAll {m : FieldMap} {fields : List (Text × Text)} {field : Text × Text}
    (h : field ∈ (m.insertAll fields).toList) : field ∈ m.toList ∨ field ∈ fields := by
  induction fields generalizing m with
  | nil => exact .inl h
  | cons first fields ih =>
    rcases ih (m := m.insert first.1 first.2) h with h | h
    · rcases eq_or_mem_of_mem_upsert h with rfl | h
      · exact .inr List.mem_cons_self
      · exact .inl h
    · exact .inr (List.mem_cons_of_mem first h)

theorem mem_of_mem_ofList {fields : List (Text × Text)} {field : Text × Text}
    (h : field ∈ (ofList fields).toList) : field ∈ fields := by
  rcases mem_of_mem_insertAll h with h | h
  · cases h
  · exact h

end FieldMap

end Folio
