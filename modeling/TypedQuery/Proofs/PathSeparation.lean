/-
Module: TypedQuery.Proofs.PathSeparation
Purpose: Select nodes of one command do not get in each other's way. Each is compiled
  under a prefix of its own, and an alias tells the prefix of the node that it belongs
  to, unless a name in the query is made up to look like a part of a prefix.
Main exports: openedPaths, CommandTrace.opens, CommandTrace.aliases,
  Query.openedPaths_nodup_and_aliases_apart
-/
import TypedQuery.Proofs.PathSegments
import TypedQuery.Proofs.TraceAgreement

namespace TypedQuery

namespace Sql

/-- The prefix of the select node that the event begins. -/
def Event.openedPath? : Event → Option String
  | .opened path => some path
  | .aliased _ _ | .bound _ _ _ | .merged _ _ => none

/-- The prefixes of the select nodes, in the order in which the nodes are begun. -/
def openedPaths (events : List Event) : List String := events.filterMap Event.openedPath?

@[simp]
theorem openedPaths_append (events events' : List Event) :
    openedPaths (events ++ events') = openedPaths events ++ openedPaths events' :=
  List.filterMap_append

@[simp]
theorem openedPaths_nil : openedPaths [] = [] := rfl

@[simp]
theorem openedPaths_opened (path : String) (events : List Event) :
    openedPaths (.opened path :: events) = path :: openedPaths events := rfl

@[simp]
theorem openedPaths_aliased (path table : String) (events : List Event) :
    openedPaths (.aliased path table :: events) = openedPaths events := rfl

@[simp]
theorem openedPaths_bound (held : Parameters) (name : String) (value : Value)
    (events : List Event) :
    openedPaths (.bound held name value :: events) = openedPaths events := rfl

@[simp]
theorem openedPaths_merged (held other : Parameters) (events : List Event) :
    openedPaths (.merged held other :: events) = openedPaths events := rfl

variable {allowed : String → Prop}

/-! ### Prefixes -/

/-- Prefixes that go on with different segments are different. -/
theorem append_segment_ne {path rest rest' : String} {segment segment' : Segment}
    (different : segment ≠ segment') :
    path ++ segment.text ++ rest ≠ path ++ segment'.text ++ rest' := by
  intro same
  rw [String.append_assoc, String.append_assoc, String.append_right_inj] at same
  exact different (Segment.text_append_inj same).1

/-- A prefix that goes on is longer. -/
theorem append_segment_ne_self (path rest : String) (segment : Segment) :
    path ≠ path ++ segment.text ++ rest := by
  intro same
  have behind : path ++ "" = path ++ (segment.text ++ rest) := by
    rw [String.append_empty, ← String.append_assoc]
    exact same
  exact Segment.text_append_ne_empty segment rest ((String.append_right_inj path).mp behind).symm

/-- The prefixes below the two sides of a set operation, taken together. -/
theorem nodup_sides {path : String} {first second : List String}
    (ofFirst : first.Nodup ∧ ∀ opened ∈ first, ∃ rest, opened = path ++ "so0_" ++ rest)
    (ofSecond : second.Nodup ∧ ∀ opened ∈ second, ∃ rest, opened = path ++ "so1_" ++ rest) :
    (first ++ second).Nodup ∧ ∀ opened ∈ first ++ second, ∃ rest, opened = path ++ rest := by
  constructor
  · rw [List.nodup_append]
    refine ⟨ofFirst.1, ofSecond.1, ?_⟩
    intro opened inFirst opened' inSecond
    obtain ⟨rest, rfl⟩ := ofFirst.2 opened inFirst
    obtain ⟨rest', rfl⟩ := ofSecond.2 opened' inSecond
    have different : Segment.first ≠ Segment.second := by decide
    exact append_segment_ne different
  · intro opened present
    rcases List.mem_append.mp present with present | present
    · obtain ⟨rest, rfl⟩ := ofFirst.2 opened present
      exact ⟨_, String.append_assoc⟩
    · obtain ⟨rest, rfl⟩ := ofSecond.2 opened present
      exact ⟨_, String.append_assoc⟩

mutual

/-- The nodes begun by parts of a command have prefixes of their own, each behind the
number of a nested command that is counted from here on. -/
theorem PartTrace.opens {path : String} {progress : Progress} {events : List Event}
    {final : Option Progress} (parts : PartTrace allowed path progress events final) :
    (openedPaths events).Nodup ∧
      ∀ opened ∈ openedPaths events, ∃ number rest, progress.nested ≤ number ∧
        opened = path ++ (Segment.nested number).text ++ rest := by
  match parts with
  | .done _ _ => simp
  | .failed _ _ => simp
  | .bound value rest =>
      rw [openedPaths_bound]
      exact rest.opens
  | .aliased permitted rest =>
      rw [openedPaths_aliased]
      exact rest.opens
  | .nested command rest =>
      have counted := command.nested_le rfl
      have inner := command.opens
      have outer := rest.opens
      rw [openedPaths_append, openedPaths_merged]
      simp only [nestedPath_eq] at inner
      constructor
      · rw [List.nodup_append]
        refine ⟨inner.1, outer.1, ?_⟩
        intro opened inInner opened' inOuter
        obtain ⟨behind, rfl⟩ := inner.2 opened inInner
        obtain ⟨number, behind', later, rfl⟩ := outer.2 opened' inOuter
        have greater := Nat.lt_of_lt_of_le counted later
        apply append_segment_ne
        intro same
        exact Nat.ne_of_lt greater (Segment.nested.inj same)
      · intro opened present
        rcases List.mem_append.mp present with present | present
        · obtain ⟨behind, rfl⟩ := inner.2 opened present
          exact ⟨_, behind, Nat.le_refl _, rfl⟩
        · obtain ⟨number, behind, later, rfl⟩ := outer.2 opened present
          exact ⟨number, behind, Nat.le_trans (Nat.le_of_lt counted) later, rfl⟩
  | .nestedFailed command =>
      have inner := command.opens
      simp only [nestedPath_eq] at inner
      refine ⟨inner.1, ?_⟩
      intro opened present
      obtain ⟨behind, rfl⟩ := inner.2 opened present
      exact ⟨_, behind, Nat.le_refl _, rfl⟩

/-- The nodes begun by a command have prefixes of their own, each behind the command's
prefix. -/
theorem CommandTrace.opens {path : String} {nested : Nat} {events : List Event}
    {result : Option (Parameters × Nat)}
    (command : CommandTrace allowed path nested events result) :
    (openedPaths events).Nodup ∧
      ∀ opened ∈ openedPaths events, ∃ rest, opened = path ++ rest := by
  match command with
  | .table _ _ => simp
  | .select parts =>
      have inner := parts.opens
      rw [openedPaths_opened]
      constructor
      · rw [List.nodup_cons]
        refine ⟨?_, inner.1⟩
        intro present
        obtain ⟨number, behind, -, same⟩ := inner.2 path present
        exact append_segment_ne_self _ _ _ same
      · intro opened present
        rcases List.mem_cons.mp present with rfl | present
        · exact ⟨"", String.append_empty.symm⟩
        · obtain ⟨number, behind, -, rfl⟩ := inner.2 opened present
          exact ⟨_, String.append_assoc⟩
  | .combine first second =>
      simp only [openedPaths_append, openedPaths_merged, openedPaths_nil, List.append_nil]
      exact nodup_sides first.opens second.opens
  | .firstFailed first =>
      have inner := first.opens
      refine ⟨inner.1, ?_⟩
      intro opened present
      obtain ⟨behind, rfl⟩ := inner.2 opened present
      exact ⟨_, String.append_assoc⟩
  | .secondFailed first second =>
      rw [openedPaths_append]
      exact nodup_sides first.opens second.opens

end

/-! ### Aliases -/

/-- An alias belongs to a node under a prefix: the prefix goes on with segments, and the
alias is the node's prefix followed by a permitted name. -/
def BelongsTo (allowed : String → Prop) (path node table : String) : Prop :=
  ∃ segments name, allowed name ∧ node = path ++ segmentsText segments ∧ table = node ++ name

theorem BelongsTo.below {path node table : String} (segment : Segment)
    (belongs : BelongsTo allowed (path ++ segment.text) node table) :
    BelongsTo allowed path node table := by
  obtain ⟨segments, name, permitted, rfl, rfl⟩ := belongs
  refine ⟨segment :: segments, name, permitted, ?_, rfl⟩
  rw [segmentsText, String.append_assoc]

/-- An alias tells its node, as long as names stand apart from segments. -/
theorem BelongsTo.node_eq {path node node' table : String}
    (belongs : BelongsTo StandsApart path node table)
    (belongs' : BelongsTo StandsApart path node' table) : node = node' := by
  obtain ⟨segments, name, apart, rfl, rfl⟩ := belongs
  obtain ⟨segments', name', apart', rfl, same⟩ := belongs'
  rw [String.append_assoc, String.append_assoc, String.append_right_inj] at same
  rw [(segmentsText_append_inj apart apart' same).1]

mutual

/-- The aliases that parts of a command give belong to the command's node or to a node
begun on the way. -/
theorem PartTrace.aliases {path : String} {progress : Progress} {events : List Event}
    {final : Option Progress} (parts : PartTrace allowed path progress events final)
    {node table : String} (given : .aliased node table ∈ events) :
    (node = path ∨ .opened node ∈ events) ∧ BelongsTo allowed path node table := by
  match parts with
  | .done _ _ => simp at given
  | .failed _ _ => simp at given
  | .bound value rest =>
      have inRest := (List.mem_cons.mp given).resolve_left (by simp)
      have inner := rest.aliases inRest
      exact ⟨inner.1.imp_right (List.mem_cons_of_mem _), inner.2⟩
  | .aliased permitted rest =>
      rcases List.mem_cons.mp given with same | inRest
      · cases same
        exact ⟨.inl rfl, [], _, permitted, by simp [segmentsText], rfl⟩
      · have inner := rest.aliases inRest
        exact ⟨inner.1.imp_right (List.mem_cons_of_mem _), inner.2⟩
  | .nested command rest =>
      simp only [List.mem_append, List.mem_cons, reduceCtorEq, false_or] at given ⊢
      rcases given with given | given
      · have inner := command.aliases given
        rw [nestedPath_eq] at inner
        exact ⟨.inr (.inl inner.1), inner.2.below _⟩
      · have inner := rest.aliases given
        exact ⟨inner.1.imp_right .inr, inner.2⟩
  | .nestedFailed command =>
      have inner := command.aliases given
      rw [nestedPath_eq] at inner
      exact ⟨.inr inner.1, inner.2.below _⟩

/-- The aliases that a command gives belong to nodes begun in it. -/
theorem CommandTrace.aliases {path : String} {nested : Nat} {events : List Event}
    {result : Option (Parameters × Nat)}
    (command : CommandTrace allowed path nested events result) {node table : String}
    (given : .aliased node table ∈ events) :
    .opened node ∈ events ∧ BelongsTo allowed path node table := by
  match command with
  | .table _ _ => simp at given
  | .select parts =>
      have inRest := (List.mem_cons.mp given).resolve_left (by simp)
      have inner := parts.aliases inRest
      refine ⟨?_, inner.2⟩
      rcases inner.1 with rfl | opened
      · exact List.mem_cons_self
      · exact List.mem_cons_of_mem _ opened
  | .combine first second =>
      simp only [List.mem_append, List.mem_singleton, reduceCtorEq, or_false] at given ⊢
      rcases given with given | given
      · have inner := first.aliases given
        exact ⟨.inl inner.1, BelongsTo.below .first inner.2⟩
      · have inner := second.aliases given
        exact ⟨.inr inner.1, BelongsTo.below .second inner.2⟩
  | .firstFailed first =>
      have inner := first.aliases given
      exact ⟨inner.1, BelongsTo.below .first inner.2⟩
  | .secondFailed first second =>
      rw [List.mem_append] at given ⊢
      rcases given with given | given
      · have inner := first.aliases given
        exact ⟨.inl inner.1, BelongsTo.below .first inner.2⟩
      · have inner := second.aliases given
        exact ⟨.inr inner.1, BelongsTo.below .second inner.2⟩

end

end Sql

open Sql

/-! ### Queries -/

/-- Select nodes of one command never share a prefix, and unless a parameter or field
name begins with a segment, an alias given for one node is never given for another.
This holds of every record, also of one that ends in a failure. -/
theorem Query.openedPaths_nodup_and_aliases_apart (resolver : Resolver) (path : String)
    (nested : Nat) (query : Query) :
    (query.traced resolver path nested).outcome = query.compile resolver path nested ∧
      (openedPaths (query.traced resolver path nested).events).Nodup ∧
      (∀ node table, .aliased node table ∈ (query.traced resolver path nested).events →
        .opened node ∈ (query.traced resolver path nested).events) ∧
      ((∀ mention ∈ query.mentions, mention.Permitted StandsApart) →
        ∀ node table node' table',
          .aliased node table ∈ (query.traced resolver path nested).events →
          .aliased node' table' ∈ (query.traced resolver path nested).events →
          node ≠ node' → table ≠ table') := by
  have ended := Query.traced_follows resolver path query
    (fun mention _ => mention.permitted_of_all) nested
  obtain ⟨result, left⟩ := ended.exists_left
  refine ⟨ended.outcome_eq, left.opens.1, ?_, ?_⟩
  · intro node table given
    exact (left.aliases given).1
  · intro apart node table node' table' given given' different same
    have ended' := Query.traced_follows resolver path query apart nested
    obtain ⟨result', left'⟩ := ended'.exists_left
    have belongs := (left'.aliases given).2
    have belongs' := (left'.aliases given').2
    rw [same] at belongs
    exact different (belongs.node_eq belongs')

/-- The node of a query and the node of the query that it captures. -/
theorem usersByLogin_aliases_apart :
    (∀ mention ∈ (usersByLogin (.int 7) .null).mentions, mention.Permitted StandsApart) ∧
      .aliased "" "u" ∈ ((usersByLogin (.int 7) .null).traced .identity "" 0).events ∧
      .aliased "sq1_" "sq1_v" ∈ ((usersByLogin (.int 7) .null).traced .identity "" 0).events ∧
      "u" ≠ "sq1_v" := by
  have heads : ∀ mention ∈ (usersByLogin (.int 7) .null).mentions,
      mention.name.toList.head? ≠ some 's' := by decide
  have apart : ∀ mention ∈ (usersByLogin (.int 7) .null).mentions,
      mention.Permitted StandsApart :=
    fun mention present => standsApart_of_head? (heads mention present)
  have outer : ((usersByLogin (.int 7) .null).traced .identity "" 0).events[1]? =
      some (.aliased "" "u") := rfl
  have inner : ((usersByLogin (.int 7) .null).traced .identity "" 0).events[5]? =
      some (.aliased "sq1_" "sq1_v") := rfl
  refine ⟨apart, List.mem_of_getElem? outer, List.mem_of_getElem? inner, ?_⟩
  exact (Query.openedPaths_nodup_and_aliases_apart .identity "" 0
    (usersByLogin (.int 7) .null)).2.2.2 apart _ _ _ _ (List.mem_of_getElem? outer)
    (List.mem_of_getElem? inner) (by decide)

end TypedQuery
