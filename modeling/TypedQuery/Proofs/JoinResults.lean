/-
Module: TypedQuery.Proofs.JoinResults
Purpose: The result of a join as the columns of a command. The result of a single join, when it is
  selected, reads its two sides under their own aliases, provided that no field keeps the whole row
  of the outer side. If one does, everything is read under the alias of the joined source.
Main exports: Expr.OccursAt, Sql.Term.ReadsAt, Select.SelectsJoin,
  Select.SelectsJoin.ofParam_joined, Select.SelectsJoin.columns_read
-/
import TypedQuery.Proofs.Qualifiers

namespace TypedQuery

open Sql Sql.Compile

/-! ### Occurrences of parameters -/

/-- The parameter is rendered at the place: as a whole row, or as the row that a column is taken
from. -/
inductive Expr.OccursAt (expr : Expr) (place : List Nat) (param : Param) : Prop
  | row (placed : expr.Renders place (.parameter param))
  | column {name : Member} {ty : Ty} (isRow : name.owner.kind = .model)
      (placed : expr.Renders place (.member (some (.parameter param)) name ty))

/-- At the place stands a row, or a column, of the source with the alias. -/
def Sql.Term.ReadsAt (term : Term) (place : List Nat) (table : String) : Prop :=
  ∃ part, term.partAt? place = some part ∧ part.table? = some table

/-- A parameter is read under the alias that it has in the scope. -/
theorem Sql.Scope.Gives.readsAt {scope : Scope} {expr : Expr} {term : Term}
    (gives : scope.Gives expr term) {place : List Nat} {param : Param}
    (occurs : expr.OccursAt place param) : term.ReadsAt place (scope.aliases.ofParam param) := by
  cases occurs with
  | row placed =>
      obtain ⟨part, isPart, condition, progress, progress', done⟩ := gives.rendered placed
      rw [Expr.compile] at done
      cases done
      exact ⟨_, isPart, rfl⟩
  | column isRow placed =>
      obtain ⟨part, isPart, condition, progress, progress', done⟩ := gives.rendered placed
      rw [Expr.compile_member, Expr.memberForm_of_row scope _ isRow (by simp)] at done
      cases done
      refine ⟨_, isPart, ?_⟩
      rw [paramColumn]
      split <;> rfl

/-! ### Fields that keep a row -/

namespace Sql.Aliases

theorem length_takeWhile_lt_iff (param : Param) (values : List Expr) :
    (values.takeWhile fun value => !isParam param value).length < values.length ↔
      .parameter param ∈ values := by
  induction values with
  | nil => simp
  | cons value rest ih =>
      by_cases isKept : value = .parameter param
      · rw [List.takeWhile_cons, isParam_iff.mpr isKept]
        simp [isKept]
      · have other : isParam param value = false := by
          rw [← Bool.not_eq_true, isParam_iff]
          exact isKept
        have differs : .parameter param ≠ value := fun same => isKept same.symm
        simp [other, differs, ih]

/-- A side of a join's result is kept in a field if and only if the parameter alone is the value of
one. -/
theorem rowField?_isSome_iff {params : List Param} {fields : List (String × Expr)} {side : Nat}
    {param : Param} {ty : Ty} (isSide : params[side]? = some param) :
    (rowField? ⟨params, .construct (.record (fields.map Prod.fst)) (fields.map Prod.snd) ty⟩
      side).isSome ↔ ∃ name, (name, .parameter param) ∈ fields := by
  have position := length_takeWhile_lt_iff param (fields.map Prod.snd)
  rw [List.length_map] at position
  simp [rowField?, isSide, position]

end Sql.Aliases

/-! ### A single join -/

/-- The columns of the node are the result of its only join: a row with the given fields, made of a
row of either side. -/
structure Select.SelectsJoin (node : Select) (join : Join) (outer inner : Param)
    (fields : List (String × Expr)) : Prop where
  joins : node.joins = [join]
  noProjection : node.projection = none
  params : join.result.params = [outer, inner]
  row : ∃ ty, join.result.body =
    .construct (.record (fields.map Prod.fst)) (fields.map Prod.snd) ty

namespace Select.SelectsJoin

variable {node : Select} {join : Join} {outer inner : Param} {fields : List (String × Expr)}
  {resolver : Resolver} {path : String} {first joined : Aliases} {key : Option Term} {body : Body}

theorem kept_iff (selects : node.SelectsJoin join outer inner fields) :
    (Aliases.rowField? join.result 0).isSome ↔ ∃ name, (name, .parameter outer) ∈ fields := by
  obtain ⟨ty, row⟩ := selects.row
  have isParams := selects.params
  generalize join.result = result at row isParams
  obtain ⟨params, body⟩ := result
  obtain rfl : params = [outer, inner] := isParams
  obtain rfl : body = _ := row
  exact Aliases.rowField?_isSome_iff rfl

theorem sideName?_eq (selects : node.SelectsJoin join outer inner fields) :
    join.sideName? 0 = some outer.name ∧ join.sideName? 1 = some inner.name := by
  rw [Join.sideName?, Join.sideName?, selects.params]
  exact ⟨rfl, rfl⟩

/-- The sources go by the names of the two sides. -/
theorem tables_eq (selects : node.SelectsJoin join outer inner fields)
    (compiled : node.CompiledTo resolver path first joined key body) :
    body.table = some (path ++ outer.name) ∧
      ∃ clause, body.joins = [clause] ∧ clause.table = path ++ inner.name ∧
        joined.path = path ∧
        joined.last = (Aliases.rowField? join.result 0).map fun _ => clause.table := by
  obtain ⟨isOuter, isInner⟩ := selects.sideName?_eq
  obtain ⟨name, isName, isTable, rfl⟩ := Aliases.bindSource_of_join selects.joins compiled.binds
  obtain rfl : outer.name = name := Option.some.inj (isOuter.symm.trans isName)
  obtain ⟨progress, progress', ofJoins⟩ := compiled.joins
  rw [selects.joins] at ofJoins
  obtain ⟨bound, clause, others, later, ofJoin, isClauses, ofRest⟩ := Join.compileAll_cons ofJoins
  rw [Join.compileAll] at ofRest
  cases ofRest
  obtain ⟨name, isName, isInnerTable, rfl⟩ := Aliases.bindJoin_eq_ok ofJoin.binds
  obtain rfl : inner.name = name := Option.some.inj (isInner.symm.trans isName)
  rw [Aliases.path_beforeJoin] at isInnerTable
  refine ⟨isTable, clause, isClauses, isInnerTable, ?_, ?_⟩
  · rw [Aliases.advance, Aliases.path_register, Aliases.path_beforeJoin]
  · rw [Aliases.advance, Aliases.last_register, Aliases.last_beforeJoin, Option.map_map]
    rfl

/-- Where a field keeps the whole row of the outer side, every parameter stands for the joined
source; otherwise each one stands for itself. -/
theorem ofParam_joined (selects : node.SelectsJoin join outer inner fields)
    (compiled : node.CompiledTo resolver path first joined key body) (param : Param) :
    ((∃ name, (name, .parameter outer) ∈ fields) →
        joined.ofParam param = path ++ inner.name) ∧
      ((∀ name, (name, .parameter outer) ∉ fields) →
        joined.ofParam param = path ++ param.name) := by
  obtain ⟨-, clause, -, isTable, isPath, isLast⟩ := selects.tables_eq compiled
  rw [Aliases.ofParam, isLast, isTable]
  constructor
  · intro kept
    obtain ⟨member, isMember⟩ := Option.isSome_iff_exists.mp (selects.kept_iff.mpr kept)
    rw [isMember]
    rfl
  · intro unkept
    have isNone : Aliases.rowField? join.result 0 = none := by
      rw [← Option.not_isSome_iff_eq_none, selects.kept_iff]
      rintro ⟨name, present⟩
      exact unkept name present
    rw [isNone, Aliases.named, isPath]
    rfl

/-- The columns of the command are one term, in which every parameter has its alias. -/
theorem columns (selects : node.SelectsJoin join outer inner fields)
    (compiled : node.CompiledTo resolver path first joined key body) :
    ∃ term, body.selection = .terms term ∧ ∀ place param, join.result.body.OccursAt place param →
      term.ReadsAt place (joined.ofParam param) := by
  obtain ⟨term, isSelection, gives⟩ := compiled.onGroups.columns join.result
    (by simp [selects.noProjection, selects.joins])
  obtain ⟨ty, row⟩ := selects.row
  rw [row] at isSelection
  exact ⟨term, isSelection, fun _ _ occurs => gives.readsAt occurs⟩

/-- The result of the only join, as the columns of a command. The source is named after the outer
side and the joined source after the inner side. Where no field of the result keeps the whole outer
row, every occurrence of the outer parameter is read from the first source and every occurrence of
the inner one from the joined source. Where a field does, every occurrence of either is read from
the joined source. -/
theorem columns_read (selects : node.SelectsJoin join outer inner fields)
    (gives : node.GivesBody resolver path body) :
    ∃ clause term, body.table = some (path ++ outer.name) ∧ body.joins = [clause] ∧
      clause.table = path ++ inner.name ∧ body.selection = .terms term ∧
      ((∀ name, (name, .parameter outer) ∉ fields) →
        (∀ place, join.result.body.OccursAt place outer →
          term.ReadsAt place (path ++ outer.name)) ∧
        ∀ place, join.result.body.OccursAt place inner →
          term.ReadsAt place (path ++ inner.name)) ∧
      ((∃ name, (name, .parameter outer) ∈ fields) →
        ∀ place, join.result.body.OccursAt place outer ∨ join.result.body.OccursAt place inner →
          term.ReadsAt place (path ++ inner.name)) := by
  obtain ⟨first, joined, key, compiled⟩ := gives.compiledTo
  obtain ⟨isTable, clause, isClauses, isInnerTable, -⟩ := selects.tables_eq compiled
  obtain ⟨term, isSelection, reads⟩ := selects.columns compiled
  refine ⟨clause, term, isTable, isClauses, isInnerTable, isSelection, ?_, ?_⟩
  · intro unkept
    constructor
    · intro place occurs
      rw [← (selects.ofParam_joined compiled outer).2 unkept]
      exact reads place outer occurs
    · intro place occurs
      rw [← (selects.ofParam_joined compiled inner).2 unkept]
      exact reads place inner occurs
  · rintro kept place (occurs | occurs)
    · rw [← (selects.ofParam_joined compiled outer).1 kept]
      exact reads place outer occurs
    · rw [← (selects.ofParam_joined compiled inner).1 kept]
      exact reads place inner occurs

end Select.SelectsJoin

namespace Query

/-- Ids from both sides of a join; no whole row is kept. -/
def roleIdFields : List (String × Expr) :=
  [("UserId", (Expr.parameter userRow).field "Id"),
    ("RoleId", (Expr.parameter linkRow).field "RoleId")]

/-- From users to their ids and those of their roles. -/
def roleIds : List Call :=
  [.add (.join .inner linkTable userLinks.outerKey userLinks.innerKey
    ⟨[userRow, linkRow], .record roleIdFields⟩)]

/-- Without whole rows, either side is read from its own source. -/
theorem roleIds_columns :
    ∃ node body parameters nested join term, run roleIds userTable = .ok (.select node) ∧
      node.SelectsJoin join userRow linkRow roleIdFields ∧
      node.compile .identity "" 0 = .ok ((body, parameters), nested) ∧
      (∀ name, (name, Expr.parameter userRow) ∉ roleIdFields) ∧
      body.selection = .terms term ∧ term.ReadsAt [0] "user" ∧ term.ReadsAt [1] "link" := by
  obtain ⟨node, body, parameters, nested, join, ran, compiled, selects⟩ :
      ∃ node body parameters nested join, run roleIds userTable = .ok (.select node) ∧
        node.compile .identity "" 0 = .ok ((body, parameters), nested) ∧
        node.SelectsJoin join userRow linkRow roleIdFields :=
    ⟨_, _, _, _, _, rfl, rfl, rfl, rfl, rfl, _, rfl⟩
  have unkept : ∀ name, (name, Expr.parameter userRow) ∉ roleIdFields := by
    simp [roleIdFields, Expr.field]
  obtain ⟨clause, term, -, -, -, isSelection, reads, -⟩ :=
    Select.SelectsJoin.columns_read selects ⟨_, _, _, compiled⟩
  obtain ⟨ofOuter, ofInner⟩ := reads unkept
  obtain ⟨ty, row⟩ := selects.row
  have isOuter : join.result.body.OccursAt [0] userRow := by
    rw [row]
    exact .column rfl (.field (by decide) rfl (.whole _))
  have isInner : join.result.body.OccursAt [1] linkRow := by
    rw [row]
    exact .column rfl (.field (by decide) rfl (.whole _))
  exact ⟨node, body, parameters, nested, join, term, ran, selects, compiled, unkept, isSelection,
    ofOuter _ isOuter, ofInner _ isInner⟩

/-- From users to their links, the whole user kept in a field. -/
def linkedUsers : List Call :=
  [.add (.join .inner linkTable userLinks.outerKey userLinks.innerKey userLinks.toJoin.result)]

theorem linkedUsers_typed : AllowedRun Call.Typed linkedUsers userTable := by
  refine ⟨by decide, List.forall_mem_singleton.mpr (.table _), ?_⟩
  rintro _ ⟨⟩
  trivial

/-- With the user kept, its login is read as a column of links, and its row as the link. -/
theorem linkedUsers_columns_mismatch :
    ∃ query body parameters nested, run linkedUsers userTable = .ok query ∧
      query.ReachableBy Call.Typed ∧
      query.compile .identity "" 0 = .ok ((.select body, parameters), nested) ∧
      body.tables = ["user", "link"] ∧
      body.selection = .terms (.columns [⟨.row "link", "link"⟩,
        ⟨.column "link" "Login", "login"⟩, ⟨.row "link", "user"⟩]) := by
  obtain ⟨query, body, parameters, nested, ran, compiled, tables, selection⟩ :
      ∃ query body parameters nested, run linkedUsers userTable = .ok query ∧
        query.compile .identity "" 0 = .ok ((.select body, parameters), nested) ∧
        body.tables = ["user", "link"] ∧
        body.selection = .terms (.columns [⟨.row "link", "link"⟩,
          ⟨.column "link" "Login", "login"⟩, ⟨.row "link", "user"⟩]) :=
    ⟨_, _, _, _, rfl, rfl, rfl, rfl⟩
  have users : userTable.ReachableBy Call.Typed := .table _
  exact ⟨query, body, parameters, nested, ran, users.run linkedUsers_typed ran, compiled, tables,
    selection⟩

end Query

end TypedQuery
