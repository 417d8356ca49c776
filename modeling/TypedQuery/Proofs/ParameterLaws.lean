/-
Module: TypedQuery.Proofs.ParameterLaws
Purpose: Parameters as a map in the order of insertion. The names settle the order and the look-up
  settles the values, and two maps that agree in both are the same. A name stands where it was
  first bound and has the value that was bound to it last; so merging is associative, with the empty
  map as unit on both sides.
Main exports: Parameters.names_insertAll, Parameters.get?_insertAll, Parameters.ext_get?,
  Parameters.Built, Parameters.merge_laws
-/
import Mathlib.Data.List.Nodup
import TypedQuery.Proofs.ParameterMap

namespace TypedQuery.Parameters

/-! ### One binding -/

theorem names_insert (parameters : Parameters) (name : String) (value : Value) :
    (parameters.insert name value).names =
      if name ∈ parameters.names then parameters.names else parameters.names ++ [name] := by
  split
  · rename_i present
    obtain ⟨entries⟩ := parameters
    simp only [names, insert_eq] at present ⊢
    induction entries with
    | nil => cases present
    | cons entry rest ih =>
        rw [insertEntry]
        by_cases same : entry.1 = name
        · rw [if_pos same, List.map_cons, List.map_cons]
        · rw [if_neg same, List.map_cons, List.map_cons]
          rw [List.map_cons, List.mem_cons] at present
          rw [ih (present.resolve_left (Ne.symm same))]
  · rename_i fresh
    exact names_insert_of_fresh fresh value

theorem get?_cons (entry : String × Value) (rest : List (String × Value)) (key : String) :
    get? ⟨entry :: rest⟩ key = if entry.1 = key then some entry.2 else get? ⟨rest⟩ key := by
  rw [get?, get?, List.find?_cons]
  by_cases here : entry.1 = key
  · rw [beq_iff_eq.mpr here, if_pos here]
    rfl
  · rw [beq_eq_false_iff_ne.mpr here, if_neg here]

theorem get?_insert (parameters : Parameters) (name : String) (value : Value) (key : String) :
    (parameters.insert name value).get? key =
      if name = key then some value else parameters.get? key := by
  obtain ⟨entries⟩ := parameters
  rw [insert_eq]
  induction entries with
  | nil => exact get?_cons (name, value) [] key
  | cons entry rest ih =>
      rw [insertEntry]
      by_cases same : entry.1 = name
      · rw [if_pos same, get?_cons, get?_cons, same]
        by_cases asked : name = key
        · rw [if_pos asked, if_pos asked]
        · rw [if_neg asked, if_neg asked, if_neg asked]
      · rw [if_neg same, get?_cons, get?_cons, ih]
        by_cases here : entry.1 = key
        · have notAsked : name ≠ key := fun asked => same (here.trans asked.symm)
          rw [if_pos here, if_pos here, if_neg notAsked]
        · rw [if_neg here, if_neg here]

/-- Binding a value leaves the names distinct. -/
theorem nodup_names_insert {parameters : Parameters} (distinct : parameters.names.Nodup)
    (name : String) (value : Value) : (parameters.insert name value).names.Nodup := by
  rw [names_insert]
  split
  · exact distinct
  · rename_i fresh
    exact distinct.append (List.nodup_singleton name) (List.disjoint_singleton.mpr fresh)

/-! ### Many bindings -/

/-- New names go to the end, each where it comes first among the pairs. -/
theorem names_insertAll (parameters : Parameters) (pairs : List (String × Value)) :
    (parameters.insertAll pairs).names =
      parameters.names ++ ((pairs.map Prod.fst).filter (· ∉ parameters.names)).eraseDups := by
  simp only [insertAll]
  induction pairs generalizing parameters with
  | nil => simp
  | cons pair rest ih =>
      rw [List.foldl_cons, ih, names_insert, List.map_cons, List.filter_cons]
      by_cases present : pair.1 ∈ parameters.names
      · simp [present]
      · have apart (name : String) : (name ∉ parameters.names ++ [pair.1]) ↔
            (¬ name = pair.1 ∧ name ∉ parameters.names) := by
          rw [List.mem_append, List.mem_singleton, not_or, and_comm]
        simp only [present, if_false, not_false_eq_true, decide_true, if_true, apart,
          List.eraseDups_cons, List.filter_filter, List.append_assoc, List.singleton_append]
        simp only [Bool.decide_and, decide_not, beq_eq_decide]

/-- Of the pairs with a name, the last one counts. -/
theorem get?_insertAll (parameters : Parameters) (pairs : List (String × Value)) (name : String) :
    (parameters.insertAll pairs).get? name =
      ((pairs.reverse.find? (·.1 == name)).map Prod.snd).or (parameters.get? name) := by
  simp only [insertAll]
  induction pairs generalizing parameters with
  | nil => rfl
  | cons pair rest ih =>
      rw [List.foldl_cons, ih, get?_insert, List.reverse_cons, List.find?_append]
      by_cases same : pair.1 = name
      · cases rest.reverse.find? (·.1 == name) <;> simp [same]
      · cases rest.reverse.find? (·.1 == name) <;> simp [same]

theorem nodup_names_insertAll {parameters : Parameters} (distinct : parameters.names.Nodup)
    (pairs : List (String × Value)) : (parameters.insertAll pairs).names.Nodup := by
  simp only [insertAll]
  induction pairs generalizing parameters with
  | nil => exact distinct
  | cons pair rest ih => exact ih (nodup_names_insert distinct pair.1 pair.2)

/-! ### Distinct names -/

/-- Binding all entries of a map, one after the other, gives the map. -/
theorem empty_merge {parameters : Parameters} (distinct : parameters.names.Nodup) :
    empty.merge parameters = parameters := by
  have entries : (empty.merge parameters).entries = [] ++ parameters.entries :=
    entries_merge_of_disjoint distinct fun _ _ => List.not_mem_nil
  exact congrArg Parameters.mk entries

/-- Where names are distinct, the last entry with a name is the first one. -/
theorem find?_reverse_of_nodup {parameters : Parameters} (distinct : parameters.names.Nodup)
    (name : String) : (parameters.entries.reverse.find? (·.1 == name)).map Prod.snd =
      parameters.get? name := by
  calc (parameters.entries.reverse.find? (·.1 == name)).map Prod.snd
    _ = (empty.merge parameters).get? name := by
        rw [merge, get?_insertAll]
        exact Option.or_none.symm
    _ = parameters.get? name := by rw [empty_merge distinct]

theorem get?_eq_none_iff {parameters : Parameters} {name : String} :
    parameters.get? name = none ↔ name ∉ parameters.names := by
  rw [get?, Option.map_eq_none_iff, List.find?_eq_none, names]
  simp only [beq_iff_eq, List.mem_map, not_exists, not_and]

/-- Names that are distinct stand where they come first. -/
theorem eraseDups_of_nodup {names : List String} (distinct : names.Nodup) :
    names.eraseDups = names := by
  induction names with
  | nil => rfl
  | cons name rest ih =>
      obtain ⟨fresh, distinct⟩ := List.nodup_cons.mp distinct
      have kept : rest.filter (fun other => !other == name) = rest := by
        rw [List.filter_eq_self]
        intro other present
        have apart : other ≠ name := fun same => fresh (same ▸ present)
        rw [beq_eq_false_iff_ne.mpr apart, Bool.not_false]
      rw [List.eraseDups_cons, kept, ih distinct]

/-- Two maps with the same names in the same order and the same values are the same. -/
theorem ext_get? {first second : Parameters} (distinct : first.names.Nodup)
    (names : first.names = second.names) (values : ∀ name, first.get? name = second.get? name) :
    first = second := by
  obtain ⟨entries⟩ := first
  obtain ⟨entries'⟩ := second
  induction entries generalizing entries' with
  | nil => exact congrArg Parameters.mk (List.map_eq_nil_iff.mp names.symm).symm
  | cons entry rest ih =>
      cases entries' with
      | nil => cases names
      | cons entry' rest' =>
          obtain ⟨sameName, (sameNames : Parameters.names ⟨rest⟩ = Parameters.names ⟨rest'⟩)⟩ :=
            List.cons.inj names
          obtain ⟨(fresh : entry.1 ∉ Parameters.names ⟨rest⟩), distinct⟩ :=
            List.nodup_cons.mp distinct
          have sameValue := values entry.1
          rw [get?_cons, get?_cons, if_pos rfl, if_pos sameName.symm] at sameValue
          have sameEntry : entry = entry' := Prod.ext sameName (Option.some.inj sameValue)
          have sameRest : Parameters.mk rest = ⟨rest'⟩ := by
            refine ih distinct rest' sameNames ?_
            intro name
            by_cases here : entry.1 = name
            -- The first name has no second entry, so that neither tail knows it.
            · rw [here] at fresh
              rw [get?_eq_none_iff.mpr fresh, get?_eq_none_iff.mpr (sameNames ▸ fresh)]
            · have ofRest := values name
              rwa [get?_cons, get?_cons, if_neg here, if_neg (sameName ▸ here)] at ofRest
          rw [sameEntry, Parameters.mk.inj sameRest]

/-! ### Merging -/

section

variable {first second third : Parameters}

theorem names_merge (distinct : second.names.Nodup) :
    (first.merge second).names = first.names ++ second.names.filter (· ∉ first.names) := by
  have newNames : (second.names.filter (· ∉ first.names)).Nodup := distinct.filter _
  rw [merge, names_insertAll]
  exact congrArg (first.names ++ ·) (eraseDups_of_nodup newNames)

theorem get?_merge (distinct : second.names.Nodup) (name : String) :
    (first.merge second).get? name = (second.get? name).or (first.get? name) := by
  rw [merge, get?_insertAll, find?_reverse_of_nodup distinct]

theorem nodup_names_merge (distinct : first.names.Nodup) (second : Parameters) :
    (first.merge second).names.Nodup := nodup_names_insertAll distinct second.entries

theorem merge_empty (parameters : Parameters) : parameters.merge empty = parameters := rfl

theorem merge_assoc (ofFirst : first.names.Nodup) (ofSecond : second.names.Nodup)
    (ofThird : third.names.Nodup) :
    (first.merge second).merge third = first.merge (second.merge third) := by
  have ofLast := nodup_names_merge ofSecond third
  -- Either way the third map has as new names those that neither of the others has.
  apply ext_get? (nodup_names_merge (nodup_names_merge ofFirst second) third)
  · have newNames : third.names.filter (· ∉ (first.merge second).names) =
        (third.names.filter (· ∉ second.names)).filter (· ∉ first.names) := by
      rw [List.filter_filter]
      refine List.filter_congr fun name _ => ?_
      rw [← Bool.decide_and, decide_eq_decide, mem_names_merge, not_or]
    rw [names_merge ofThird, names_merge ofSecond, names_merge ofLast, names_merge ofThird,
      List.filter_append, List.append_assoc, ← names_merge ofSecond, newNames]
  · intro name
    rw [get?_merge ofThird, get?_merge ofSecond, get?_merge ofLast, get?_merge ofThird,
      Option.or_assoc]

end

/-! ### Maps that are built call by call -/

/-- What insertions, merges and collected pairs lead to. -/
inductive Built : Parameters → Prop
  | empty : Built .empty
  | insert {parameters : Parameters} (built : Built parameters) (name : String) (value : Value) :
      Built (parameters.insert name value)
  | merge {parameters other : Parameters} (built : Built parameters) (ofOther : Built other) :
      Built (parameters.merge other)
  | ofList (pairs : List (String × Value)) : Built (.ofList pairs)

theorem Built.nodup_names {parameters : Parameters} (built : parameters.Built) :
    parameters.names.Nodup := by
  have onEmpty : Parameters.empty.names.Nodup := List.nodup_nil
  induction built with
  | empty => exact onEmpty
  | insert built name value distinct => exact nodup_names_insert distinct name value
  | merge built ofOther distinct _ => exact nodup_names_merge distinct _
  | ofList pairs => exact nodup_names_insertAll onEmpty pairs

/-- Parameters are a map in the order of insertion, and merging prefers the right side. Names are
distinct; a merge keeps the names of its left side in place and appends the new ones of its right
side in their order, with the values of the right side where it has any; merging is associative and
has the empty map as unit. Collected pairs are inserted one by one, and each name stands where it
comes first and has the value that comes last. -/
theorem merge_laws {first second third : Parameters} (ofFirst : first.Built)
    (ofSecond : second.Built) (ofThird : third.Built) :
    first.names.Nodup ∧
    (first.merge second).names = first.names ++ second.names.filter (· ∉ first.names) ∧
    (∀ name, (first.merge second).get? name = (second.get? name).or (first.get? name)) ∧
    (first.merge second).merge third = first.merge (second.merge third) ∧
    empty.merge first = first ∧ first.merge empty = first ∧
    ∀ pairs : List (String × Value),
      ofList pairs = pairs.foldl (fun held pair => held.insert pair.1 pair.2) empty ∧
      (ofList pairs).names = (pairs.map Prod.fst).eraseDups ∧
      ∀ name, (ofList pairs).get? name =
        (pairs.reverse.find? (·.1 == name)).map Prod.snd := by
  have distinct := ofFirst.nodup_names
  have distinct' := ofSecond.nodup_names
  refine ⟨distinct, names_merge distinct', get?_merge distinct',
    merge_assoc distinct distinct' ofThird.nodup_names, empty_merge distinct, merge_empty first, ?_⟩
  intro pairs
  refine ⟨rfl, ?_, ?_⟩
  · rw [ofList, names_insertAll]
    simp [names, empty]
  · intro name
    rw [ofList, get?_insertAll]
    exact Option.or_none

/-- Three maps of which each binds a name of the others anew. -/
theorem overlapping_merge_laws :
    ∃ first second third : Parameters, first.Built ∧ second.Built ∧ third.Built ∧
      (first.merge second).names = ["@p0", "@p1", "@p2"] ∧
      (first.merge second).get? "@p1" = some (.string "b") ∧
      (first.merge second).get? "@p0" = some (.int 0) ∧
      (first.merge second).merge third = first.merge (second.merge third) ∧
      (ofList [("@p0", .int 0), ("@p1", .null), ("@p0", .int 1)]).names = ["@p0", "@p1"] := by
  let first := ofList [("@p0", .int 0), ("@p1", .int 1)]
  let second := (empty.insert "@p1" (.string "b")).insert "@p2" .null
  let third := second.merge (ofList [("@p0", .bool true)])
  have ofFirst : first.Built := .ofList _
  have ofSecond : second.Built := .insert (.insert .empty _ _) _ _
  have ofThird : third.Built := .merge ofSecond (.ofList _)
  obtain ⟨-, names, values, assoc, -, -, collected⟩ := merge_laws ofFirst ofSecond ofThird
  exact ⟨first, second, third, ofFirst, ofSecond, ofThird, names, values "@p1", values "@p0", assoc,
    (collected _).2.1⟩

end TypedQuery.Parameters
