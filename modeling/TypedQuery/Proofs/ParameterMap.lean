/-
Module: TypedQuery.Proofs.ParameterMap
Purpose: What inserting into and merging parameters does to the bound names, and to the
  entries where the names are new.
Main exports: Parameters.entries_insert_of_fresh, Parameters.entries_merge_of_disjoint,
  Parameters.mem_names_insert, Parameters.mem_names_merge
-/
import TypedQuery.Sql.Parameters

namespace TypedQuery.Parameters

theorem size_eq_length_names (parameters : Parameters) :
    parameters.size = parameters.names.length := by
  simp [size, names]

/-! ### Which names there are -/

theorem mem_names_insert {parameters : Parameters} {name other : String} {value : Value} :
    other ∈ (parameters.insert name value).names ↔
      other ∈ parameters.names ∨ other = name := by
  obtain ⟨entries⟩ := parameters
  simp only [names, insert_eq]
  induction entries with
  | nil => simp [insertEntry]
  | cons entry rest ih =>
      rw [insertEntry]
      by_cases same : entry.1 = name
      · rw [if_pos same]
        simp only [List.map_cons, List.mem_cons, ← same]
        constructor
        · exact Or.inl
        · intro present
          rcases present with present | here
          · exact present
          · exact .inl here
      · rw [if_neg same]
        simp only [List.map_cons, List.mem_cons, ih, or_assoc]

theorem mem_names_merge {parameters other : Parameters} {name : String} :
    name ∈ (parameters.merge other).names ↔ name ∈ parameters.names ∨ name ∈ other.names := by
  obtain ⟨pairs⟩ := other
  simp only [merge, insertAll]
  induction pairs generalizing parameters with
  | nil => simp [names]
  | cons pair rest ih =>
      rw [List.foldl_cons, ih, mem_names_insert]
      simp only [names, List.map_cons, List.mem_cons, or_assoc]

/-! ### New names -/

/-- A new name goes to the end. -/
theorem entries_insert_of_fresh {parameters : Parameters} {name : String}
    (fresh : name ∉ parameters.names) (value : Value) :
    (parameters.insert name value).entries = parameters.entries ++ [(name, value)] := by
  obtain ⟨entries⟩ := parameters
  simp only [names, insert_eq] at fresh ⊢
  induction entries with
  | nil => rfl
  | cons entry rest ih =>
      simp only [List.map_cons, List.mem_cons, not_or] at fresh
      rw [insertEntry, if_neg (Ne.symm fresh.1), ih fresh.2, List.cons_append]

/-- Values under new names go to the end together. -/
theorem entries_merge_of_disjoint {parameters other : Parameters} (distinct : other.names.Nodup)
    (disjoint : ∀ name ∈ other.names, name ∉ parameters.names) :
    (parameters.merge other).entries = parameters.entries ++ other.entries := by
  obtain ⟨pairs⟩ := other
  simp only [names, merge, insertAll] at distinct disjoint ⊢
  induction pairs generalizing parameters with
  | nil => simp
  | cons pair rest ih =>
      simp only [List.map_cons, List.nodup_cons] at distinct
      have inserted := entries_insert_of_fresh (disjoint pair.1 (by simp)) pair.2
      rw [List.foldl_cons, ih distinct.2, inserted, List.append_assoc, List.singleton_append]
      intro name present
      rw [inserted, List.map_append, List.mem_append, not_or]
      refine ⟨disjoint name (List.mem_cons_of_mem _ present), ?_⟩
      rintro repeated
      rw [List.map_singleton, List.mem_singleton] at repeated
      exact distinct.1 (repeated ▸ present)

theorem names_insert_of_fresh {parameters : Parameters} {name : String}
    (fresh : name ∉ parameters.names) (value : Value) :
    (parameters.insert name value).names = parameters.names ++ [name] := by
  rw [names, entries_insert_of_fresh fresh, List.map_append, List.map_singleton, names]

theorem names_merge_of_disjoint {parameters other : Parameters} (distinct : other.names.Nodup)
    (disjoint : ∀ name ∈ other.names, name ∉ parameters.names) :
    (parameters.merge other).names = parameters.names ++ other.names := by
  rw [names, entries_merge_of_disjoint distinct disjoint, List.map_append, names, names]

/-! ### Names do not depend on values -/

/-- The names after an insertion are settled by the names before it. -/
theorem names_insert_congr {first second : Parameters} (same : first.names = second.names)
    (name : String) (value other : Value) :
    (first.insert name value).names = (second.insert name other).names := by
  obtain ⟨entries⟩ := first
  obtain ⟨entries'⟩ := second
  simp only [names, insert_eq] at same ⊢
  induction entries generalizing entries' with
  | nil =>
      cases entries' with
      | nil => rfl
      | cons _ _ => simp at same
  | cons entry rest ih =>
      cases entries' with
      | nil => simp at same
      | cons entry' rest' =>
          simp only [List.map_cons, List.cons.injEq] at same
          simp only [insertEntry, same.1]
          split
          · simp [same.2]
          · simp [ih rest' same.2]

/-- The names after a merge are settled by the names before it. -/
theorem names_merge_congr {first second other other' : Parameters}
    (same : first.names = second.names) (sameOther : other.names = other'.names) :
    (first.merge other).names = (second.merge other').names := by
  obtain ⟨pairs⟩ := other
  obtain ⟨pairs'⟩ := other'
  simp only [merge, insertAll]
  induction pairs generalizing first second pairs' with
  | nil =>
      cases pairs' with
      | nil => exact same
      | cons _ _ => simp [names] at sameOther
  | cons pair rest ih =>
      cases pairs' with
      | nil => simp [names] at sameOther
      | cons pair' rest' =>
          simp only [names, List.map_cons, List.cons.injEq] at sameOther
          simp only [List.foldl_cons]
          refine ih ?_ rest' sameOther.2
          rw [sameOther.1]
          exact names_insert_congr same pair'.1 pair.2 pair'.2

end TypedQuery.Parameters
