/-
Module: TypedQuery.Proofs.SourceNames
Purpose: The name of a source without joins. The search for it goes level by level through a scope
  from which later parameters of a type are left out. What is found depends on types alone, and
  parameters of one type have the same fields; so nothing is lost, and the search finds what a plain
  reading of the lambdas finds.
Main exports: Sql.Aliases.AlikeByType, Sql.Aliases.plainSearch, Sql.Aliases.search_eq_plainSearch,
  Select.sourceName?, Select.bindSource_sourceName
-/
import TypedQuery.Proofs.SoleSources

namespace TypedQuery

open Sql Query

namespace Sql.Aliases

/-! ### The search in a scope with repeated types -/

/-- Name of the first parameter of the type. -/
def firstOfType? (ty : Ty) (params : List Param) : Option String :=
  (params.find? (·.ty == ty)).map (·.name)

/-- The fields of a parameter's type, as parameters. -/
def fieldParams (param : Param) : List Param :=
  param.ty.fields.map fun field => ⟨field.name, field.ty⟩

/-- Name of the first parameter of the type; without one, of the first field, and so on down the
levels. Nothing is left out of any level. -/
def plainSearch (ty : Ty) : Nat → List Param → Option String
  | 0, params => firstOfType? ty params
  | levels + 1, params =>
    (firstOfType? ty params).or (plainSearch ty levels (params.flatMap fieldParams))

/-- What is found in a parameter by its type alone is found in both lists or in neither, and it is
the same: types come up for the first time in the same order and under the same names. -/
def AlikeByType (first second : List Param) : Prop :=
  ∀ found : Param → Option Param,
    (∀ param other : Param, param.ty = other.ty → found param = none → found other = none) →
      first.findSome? found = second.findSome? found

theorem alikeByType_firstOfEachType (params : List Param) :
    AlikeByType (firstOfEachType params) params :=
  fun _ byType => findSome?_firstOfEachType byType params

namespace AlikeByType

variable {first second : List Param}

theorem firstOfType? (alike : AlikeByType first second) (ty : Ty) :
    Aliases.firstOfType? ty first = Aliases.firstOfType? ty second := by
  have sameFirst : first.find? (·.ty == ty) = second.find? (·.ty == ty) := by
    rw [← List.findSome?_guard, ← List.findSome?_guard]
    refine alike _ ?_
    intro param other sameType missed
    simpa [Option.guard, sameType] using missed
  rw [Aliases.firstOfType?, sameFirst, Aliases.firstOfType?]

theorem findSome?_flatMap_fieldParams (found : Param → Option Param) (params : List Param) :
    (params.flatMap fieldParams).findSome? found =
      params.findSome? fun param => (fieldParams param).findSome? found := by
  induction params with
  | nil => rfl
  | cons param rest ih =>
      rw [List.flatMap_cons, List.findSome?_append, ih, List.findSome?_cons]
      cases (fieldParams param).findSome? found <;> rfl

/-- The step: parameters of one type have the same fields, so that the lists stay alike one level
down. -/
theorem flatMap_fieldParams (alike : AlikeByType first second) :
    AlikeByType (first.flatMap fieldParams) (second.flatMap fieldParams) := by
  intro found byType
  rw [findSome?_flatMap_fieldParams, findSome?_flatMap_fieldParams]
  refine alike _ ?_
  intro param other sameType missed
  have sameFields : fieldParams other = fieldParams param := by
    rw [fieldParams, fieldParams, sameType]
  rw [sameFields]
  exact missed

/-- The run: a search does not tell the lists apart. -/
theorem plainSearch (alike : AlikeByType first second) (ty : Ty) (levels : Nat) :
    Aliases.plainSearch ty levels first = Aliases.plainSearch ty levels second := by
  induction levels generalizing first second with
  | zero => exact alike.firstOfType? ty
  | succ levels ih =>
      rw [Aliases.plainSearch, Aliases.plainSearch, alike.firstOfType? ty,
        ih alike.flatMap_fieldParams]

end AlikeByType

theorem plainSearch_nil (ty : Ty) (levels : Nat) : plainSearch ty levels [] = none := by
  induction levels with
  | zero => rfl
  | succ levels ih => exact ih

/-- The search leaves later fields of a type out of each level; it finds the same as without. -/
theorem search_eq_plainSearch (ty : Ty) (levels : Nat) (params : List Param) :
    search ty levels params = plainSearch ty levels params := by
  induction levels generalizing params with
  | zero => rfl
  | succ levels ih =>
      rw [search, plainSearch, firstOfType?]
      cases params.find? (·.ty == ty) with
      | some param => rfl
      | none =>
          have below : search ty levels (expand params) =
              plainSearch ty levels (params.flatMap fieldParams) := by
            rw [ih]
            exact (alikeByType_firstOfEachType _).plainSearch ty levels
          cases params with
          | nil => exact (plainSearch_nil ty levels).symm
          | cons param rest => exact below

end Sql.Aliases

/-! ### The name of the source -/

namespace Select

/-- The lambda parameters that may range over the source, in the order in which they are asked:
those of the projection, the group key, the group element, the filters and the sort keys. -/
def askedParams (node : Select) : List Param :=
  node.projection.toList.flatMap (·.params) ++ node.groupKey.toList.flatMap (·.params) ++
    node.groupElement.toList.flatMap (·.params) ++ node.filters.flatMap (·.params) ++
    node.orderBy.flatMap (·.key.params)

theorem askedParams_eq (node : Select) :
    node.askedParams = (Aliases.lambdas node).flatMap (·.params) := by
  simp only [askedParams, Aliases.lambdas, List.flatMap_append, List.flatMap_map]

/-- The name that the lambdas of a node give to the rows of its source: the first parameter of their
type, or else the first field of their type among the fields of the parameters. -/
def sourceName? (node : Select) : Option String :=
  let parameter := node.askedParams.find? (·.ty == node.modelType)
  let field := (node.askedParams.flatMap (·.ty.fields)).find? (·.ty == node.modelType)
  (parameter.map (·.name)).or (field.map (·.name))

theorem sourceName?_eq (node : Select) :
    node.sourceName? = Aliases.plainSearch node.modelType Aliases.expansionLevels
      node.askedParams := by
  have ofField : Aliases.firstOfType? node.modelType
      (node.askedParams.flatMap Aliases.fieldParams) =
        ((node.askedParams.flatMap (·.ty.fields)).find? (·.ty == node.modelType)).map (·.name) := by
    have listed : node.askedParams.flatMap Aliases.fieldParams =
        (node.askedParams.flatMap (·.ty.fields)).map fun field => ⟨field.name, field.ty⟩ := by
      rw [List.map_flatMap]
      rfl
    rw [Aliases.firstOfType?, listed, List.find?_map, Option.map_map]
    rfl
  rw [sourceName?, Aliases.expansionLevels, Aliases.plainSearch, Aliases.plainSearch, ofField]
  rfl

/-- Without joins, the alias of the source is the name that the lambdas give to its rows, behind the
prefix of the command, and there is none if they give no name. The source is the last one bound just
if it has an alias. That the search takes the first parameter of each type only, on whichever of its
levels, makes no difference to any search. -/
theorem bindSource_sourceName {node : Select} (noJoins : node.joins = []) (path : String) :
    Aliases.bindSource path node = .ok (node.sourceName?.map (path ++ ·),
      { Aliases.start path with last := node.sourceName?.map (path ++ ·) }) ∧
    ∀ ty levels params,
      Aliases.search ty levels (Aliases.firstOfEachType params) =
          Aliases.plainSearch ty levels params ∧
        Aliases.search ty levels params = Aliases.plainSearch ty levels params ∧
        Aliases.plainSearch ty levels (Aliases.firstOfEachType params) =
          Aliases.plainSearch ty levels params := by
  have sameFirsts (ty levels params) :
      Aliases.plainSearch ty levels (Aliases.firstOfEachType params) =
        Aliases.plainSearch ty levels params :=
    (Aliases.alikeByType_firstOfEachType params).plainSearch ty levels
  constructor
  · have isName : Aliases.search node.modelType Aliases.expansionLevels
        (Aliases.firstOfEachType ((Aliases.lambdas node).flatMap (·.params))) =
          node.sourceName? := by
      rw [Aliases.search_eq_plainSearch, sameFirsts, sourceName?_eq, askedParams_eq]
    rw [Aliases.bindSource_eq_search noJoins, isName]
  · intro ty levels params
    exact ⟨(Aliases.search_eq_plainSearch ty levels _).trans (sameFirsts ty levels params),
      Aliases.search_eq_plainSearch ty levels params, sameFirsts ty levels params⟩

/-- Users, paired with links: no lambda ranges over users themselves. The type of the pairs comes up
twice, and so do users among the fields, once as the key of a group. -/
def pairedUsers : Select :=
  let pair (name : String) : Param :=
    ⟨name, .model (.record [⟨"link", linkTable.rowType⟩, ⟨"owner", userTable.rowType⟩])⟩
  let owner (row : Param) : Expr := (Expr.parameter row).field "owner"
  let group : Param := ⟨"g", .group userTable.rowType .int⟩
  { Select.over userTable with
    projection := some ⟨[pair "p"], (owner (pair "p")).field "Login"⟩
    filters := [⟨[pair "again"], (owner (pair "again")).field "Login" |>.equals
      (.literal (.string "a"))⟩]
    orderBy := [⟨⟨[group], (Expr.parameter group).key.field "Id"⟩, true⟩] }

theorem pairedUsers_alias :
    pairedUsers.joins = [] ∧ pairedUsers.sourceName? = some "owner" ∧
      Aliases.bindSource "sq0_" pairedUsers = .ok (some "sq0_owner",
        { Aliases.start "sq0_" with last := some "sq0_owner" }) := by
  have noJoins : pairedUsers.joins = [] := rfl
  have isName : pairedUsers.sourceName? = some "owner" := by decide
  obtain ⟨binds, -⟩ := bindSource_sourceName noJoins "sq0_"
  rw [isName] at binds
  exact ⟨noJoins, isName, binds⟩

end Select

end TypedQuery
