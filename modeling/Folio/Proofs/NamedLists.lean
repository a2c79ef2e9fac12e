import Folio.NamedList
import Mathlib.Data.Char
import Mathlib.Data.List.Lex

/-!
# Named values from distinct names

Writing values under distinct names only orders them: nothing is overwritten, so the list that arises has
exactly the values that were written. It does not tell in which order they were written.
-/

namespace Folio.NamedList

variable {α : Type}

theorem perm_insert {name : Text} {entries : List (Text × α)} (value : α)
    (h : name ∉ entries.map Prod.fst) : (insert name value entries).Perm ((name, value) :: entries) := by
  induction entries with
  | nil => exact .refl _
  | cons entry entries ih =>
    rw [List.map_cons, List.mem_cons, not_or] at h
    rw [insert, if_neg h.1]
    split
    · exact .refl _
    · exact ((ih h.2).cons entry).trans (.swap _ _ _)

theorem perm_insertAll {entries ordered : List (Text × α)} (h : (entries.map Prod.fst).Nodup)
    (hordered : ∀ name ∈ entries.map Prod.fst, name ∉ ordered.map Prod.fst) :
    (entries.foldl (fun ordered entry => insert entry.1 entry.2 ordered) ordered).Perm
      (entries ++ ordered) := by
  induction entries generalizing ordered with
  | nil => exact .refl _
  | cons entry entries ih =>
    obtain ⟨hentry, hentries⟩ := List.nodup_cons.1 h
    have hinsert := perm_insert entry.2 (hordered entry.1 List.mem_cons_self)
    have hrest : ∀ name ∈ entries.map Prod.fst,
        name ∉ (insert entry.1 entry.2 ordered).map Prod.fst := by
      intro name hname hmem
      rcases List.mem_cons.1 ((hinsert.map Prod.fst).mem_iff.1 hmem) with rfl | hmem
      · exact hentry hname
      · exact hordered name (List.mem_cons_of_mem _ hname) hmem
    exact (ih hentries hrest).trans ((hinsert.append_left entries).trans List.perm_middle)

theorem perm_ofList {entries : List (Text × α)} (h : (entries.map Prod.fst).Nodup) :
    (ofList entries).Perm entries := by
  have hperm : (ofList entries).Perm (entries ++ []) := perm_insertAll h (by simp)
  rwa [List.append_nil] at hperm

/-- In a list with distinct names a name has the value that stands with it. -/
theorem lookup_eq_some_iff_mem {entries : List (Text × α)} (h : (entries.map Prod.fst).Nodup)
    {name : Text} {value : α} : entries.lookup name = some value ↔ (name, value) ∈ entries := by
  induction entries with
  | nil => simp
  | cons entry entries ih =>
    obtain ⟨hentry, hentries⟩ := List.nodup_cons.1 h
    obtain ⟨key, value'⟩ := entry
    by_cases hname : name = key
    · subst hname
      have habsent : (name, value) ∉ entries := fun hmem =>
        hentry (List.mem_map.2 ⟨(name, value), hmem, rfl⟩)
      simp [habsent, eq_comm]
    · rw [List.lookup_cons, beq_eq_false_iff_ne.2 hname]
      simp [ih hentries, hname]

/-! ## The order of names -/

theorem before_iff_lt {s t : Text} : before s t = true ↔ s < t := by
  induction s generalizing t with
  | nil => cases t <;> simp [before]
  | cons a s ih =>
    cases t with
    | nil => simp [before]
    | cons b t =>
      have hlt : a.toNat < b.toNat ↔ a < b := Iff.rfl
      rw [before, List.cons_lt_cons_iff, ← ih, ← hlt]
      simp

def Ordered (entries : List (Text × α)) : Prop := entries.Pairwise fun a b => before a.1 b.1 = true

theorem mem_insert {name : Text} {value : α} {entry : Text × α} {entries : List (Text × α)}
    (h : entry ∈ insert name value entries) : entry = (name, value) ∨ entry ∈ entries := by
  induction entries with
  | nil => exact .inl (List.mem_singleton.1 h)
  | cons first entries ih =>
    rw [insert] at h
    split at h
    · exact (List.mem_cons.1 h).imp_right fun h => List.mem_cons_of_mem _ h
    · split at h
      · exact List.mem_cons.1 h
      · rcases List.mem_cons.1 h with rfl | h
        · exact .inr List.mem_cons_self
        · exact (ih h).imp_right fun h => List.mem_cons_of_mem _ h

theorem ordered_insert {entries : List (Text × α)} (h : Ordered entries) (name : Text) (value : α) :
    Ordered (insert name value entries) := by
  induction entries with
  | nil => exact List.pairwise_singleton _ _
  | cons entry entries ih =>
    obtain ⟨hentry, hentries⟩ := List.pairwise_cons.1 h
    rw [insert]
    split
    · rename_i hname
      refine List.pairwise_cons.2 ⟨?_, hentries⟩
      rw [hname]
      exact hentry
    · rename_i hne
      split
      · rename_i hbefore
        refine List.pairwise_cons.2 ⟨List.forall_mem_cons.2 ⟨hbefore, ?_⟩, h⟩
        intro later hlater
        exact before_iff_lt.2 (List.lt_trans (before_iff_lt.1 hbefore) (before_iff_lt.1 (hentry later hlater)))
      · rename_i hafter
        refine List.pairwise_cons.2 ⟨?_, ih hentries⟩
        intro later hlater
        rcases mem_insert hlater with rfl | hlater
        · rw [before_iff_lt] at hafter ⊢
          exact lt_of_le_of_ne (not_lt.1 hafter) (Ne.symm hne)
        · exact hentry later hlater

theorem ordered_insertAll (entries : List (Text × α)) {ordered : List (Text × α)} (h : Ordered ordered) :
    Ordered (entries.foldl (fun ordered entry => insert entry.1 entry.2 ordered) ordered) := by
  induction entries generalizing ordered with
  | nil => exact h
  | cons entry entries ih => exact ih (ordered_insert h entry.1 entry.2)

theorem ordered_ofList (entries : List (Text × α)) : Ordered (ofList entries) :=
  ordered_insertAll entries List.Pairwise.nil

theorem Ordered.nodup {entries : List (Text × α)} (h : Ordered entries) : (entries.map Prod.fst).Nodup := by
  rw [List.Nodup, List.pairwise_map]
  exact h.imp fun hlt heq => absurd (heq ▸ before_iff_lt.1 hlt) (List.lt_irrefl _)

theorem mem_names_insert_iff {name other : Text} {value : α} {entries : List (Text × α)} :
    other ∈ (insert name value entries).map Prod.fst ↔ other = name ∨ other ∈ entries.map Prod.fst := by
  induction entries with
  | nil => simp [insert]
  | cons entry entries ih =>
    rw [insert]
    split
    · rename_i hname
      simp [hname]
    · split
      · simp
      · rw [List.map_cons, List.mem_cons, ih, List.map_cons, List.mem_cons, or_left_comm]

theorem mem_names_insertAll_iff {name : Text} {entries ordered : List (Text × α)} :
    name ∈ (entries.foldl (fun ordered entry => insert entry.1 entry.2 ordered) ordered).map Prod.fst ↔
      name ∈ entries.map Prod.fst ∨ name ∈ ordered.map Prod.fst := by
  induction entries generalizing ordered with
  | nil => simp
  | cons entry entries ih =>
    rw [List.foldl_cons, ih, mem_names_insert_iff, List.map_cons, List.mem_cons, or_left_comm, or_assoc]

/-- The first one of ordered values has the least of the names that were written. -/
theorem name_head?_ofList_eq_some_iff {entries : List (Text × α)} {name : Text} :
    (ofList entries).head?.map Prod.fst = some name ↔
      name ∈ entries.map Prod.fst ∧ ∀ other ∈ entries.map Prod.fst, name ≤ other := by
  have hnames : ∀ other, other ∈ (ofList entries).map Prod.fst ↔ other ∈ entries.map Prod.fst := by
    intro other
    rw [ofList, mem_names_insertAll_iff]
    simp
  simp only [← hnames]
  have hordered := ordered_ofList entries
  cases hlist : ofList entries with
  | nil => simp
  | cons first rest =>
    rw [hlist] at hordered
    have hleast : ∀ other ∈ (first :: rest).map Prod.fst, first.1 ≤ other := by
      rw [List.map_cons, List.forall_mem_cons]
      refine ⟨le_rfl, ?_⟩
      intro other hother
      obtain ⟨entry, hentry, rfl⟩ := List.mem_map.1 hother
      exact (before_iff_lt.1 ((List.pairwise_cons.1 hordered).1 entry hentry)).le
    rw [List.head?_cons, Option.map_some, Option.some.injEq]
    constructor
    · rintro rfl
      exact ⟨List.mem_cons_self, hleast⟩
    · rintro ⟨hmem, hle⟩
      exact le_antisymm (hleast name hmem) (hle first.1 List.mem_cons_self)

/-- Ordered values are read back, in whatever order they are written. -/
theorem Ordered.ofList_eq {entries ordered : List (Text × α)} (h : Ordered ordered)
    (hperm : entries.Perm ordered) : ofList entries = ordered := by
  have hnodup : (entries.map Prod.fst).Nodup := ((hperm.map Prod.fst).nodup_iff).2 h.nodup
  apply List.Perm.eq_of_pairwise _ (ordered_ofList entries) h ((perm_ofList hnodup).trans hperm)
  intro a b _ _ hab hba
  exact absurd (before_iff_lt.1 hba) (List.lt_asymm (before_iff_lt.1 hab))

end Folio.NamedList
