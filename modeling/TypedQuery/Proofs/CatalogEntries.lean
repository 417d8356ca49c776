/-
Module: TypedQuery.Proofs.CatalogEntries
Purpose: From what a look-up in the catalogue finds back to the entry that it found. A property of
  all entries, checked once, holds of every template and every unit in use.
Main exports: Method.template?_eq_some, Sql.propertyTemplate?_eq_some, Sql.durationUnit?_eq_some
-/
import TypedQuery.Sql.Catalog

namespace TypedQuery

open Sql

/-- An entry answers for methods of its own owner and name only. -/
theorem Sql.answers_names {entry method : Method} (isAnswer : answers entry method = true) :
    entry.owner = method.owner ∧ entry.name = method.name := by
  simp only [answers, Bool.and_eq_true, beq_iff_eq] at isAnswer
  exact isAnswer.1

theorem Method.template?_eq_some {method : Method} {template : Template}
    (found : method.template? = some template) :
    ∃ entry ∈ methods, answers entry.1 method = true ∧ Template.parse entry.2 = template := by
  obtain ⟨entry, hit, isTemplate⟩ := Option.map_eq_some_iff.mp found
  have isAnswer := List.find?_some hit
  exact ⟨entry, List.mem_of_find?_eq_some hit, isAnswer, isTemplate⟩

theorem Sql.propertyTemplate?_eq_some {owner : Kind} {name : String} {template : Template}
    (found : propertyTemplate? owner name = some template) :
    ∃ entry ∈ properties, entry.1 = owner ∧ entry.2.1 = name ∧
      Template.parse entry.2.2 = template := by
  obtain ⟨entry, hit, isTemplate⟩ := Option.map_eq_some_iff.mp found
  have named := List.find?_some hit
  simp only [Bool.and_eq_true, beq_iff_eq] at named
  exact ⟨entry, List.mem_of_find?_eq_some hit, named.1, named.2, isTemplate⟩

theorem Sql.durationUnit?_eq_some {name unit : String} (found : durationUnit? name = some unit) :
    ∃ entry ∈ durations, entry.1 = name ∧ entry.2 = unit := by
  obtain ⟨entry, hit, isUnit⟩ := Option.map_eq_some_iff.mp found
  have named := List.find?_some hit
  exact ⟨entry, List.mem_of_find?_eq_some hit, beq_iff_eq.mp named, isUnit⟩

end TypedQuery
