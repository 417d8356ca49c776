/-
Module: TypedQuery.Proofs.Literals
Purpose: The values that a query hands to its command, read off the tree: the constants
  and captured values in its clauses, from the sources to the columns, with those of
  nested queries where the queries stand.
Main exports: Expr.literals, Select.literals, Query.literals, Select.literals_of_isTrivial,
  usersByLogin
-/
import TypedQuery.Query.RowType
import TypedQuery.Sql.Catalog

namespace TypedQuery

/-- Does a grouping clause leave a single key, which stands for itself from then on? -/
def Lambda.givesKey : Option Lambda → Bool
  | none => false
  | some ⟨_, .construct (.record _) _ _⟩ => false
  | some _ => true

mutual

/-- Values of an expression from left to right. With `grouped`, the key of the groups
has been written before, so that it hands over nothing. -/
def Expr.literals (grouped : Bool) : Expr → List Value
  | .binary _ left right _ => left.literals grouped ++ right.literals grouped
  | .unary _ operand _ => operand.literals grouped
  | .conditional test ifTrue ifFalse _ =>
    test.literals grouped ++ ifTrue.literals grouped ++ ifFalse.literals grouped
  | .member target name _ =>
    if grouped ∧ name.name = "Key" ∧ name.owner.isGroup then []
    else if name.owner = .timeSpan then
      match target with
      | some (.call callee _ args _) =>
        Expr.literalsTarget grouped callee ++ Expr.literalsAll grouped args
      | _ => []
    else
      match target with
      | some (.closure captures _) => Capture.literals name.name captures
      | other =>
        if (Sql.propertyTemplate? name.owner.kind name.name).isSome then
          Expr.literalsTarget grouped other
        else []
  | .call target _ args _ =>
    Expr.literalsTarget grouped target ++ Expr.literalsAll grouped args
  | .construct _ args _ => Expr.literalsAll grouped args
  | .constant .null _ => []
  | .constant value _ => [value]
  | .closure _ _ => []
  | .parameter _ => []
  | .lambda ⟨_, body⟩ => body.literals grouped
termination_by structural expr => expr

/-- Values of a target. -/
def Expr.literalsTarget (grouped : Bool) : Option Expr → List Value
  | none => []
  | some target => target.literals grouped
termination_by structural target => target

/-- Values of several expressions. -/
def Expr.literalsAll (grouped : Bool) : List Expr → List Value
  | [] => []
  | expr :: rest => expr.literals grouped ++ Expr.literalsAll grouped rest
termination_by structural exprs => exprs

/-- Values of the captured variable of a name. -/
def Capture.literals (name : String) : List Capture → List Value
  | [] => []
  | .value held value :: rest => if held = name then [value] else Capture.literals name rest
  | .query held query :: rest => if held = name then query.literals else Capture.literals name rest
termination_by structural captures => captures

/-- Values of what a lambda returns. -/
def Lambda.literals (grouped : Bool) : Lambda → List Value
  | ⟨_, body⟩ => body.literals grouped
termination_by structural function => function

/-- Values of a clause that may be missing. -/
def Lambda.literalsOption (grouped : Bool) : Option Lambda → List Value
  | none => []
  | some function => function.literals grouped
termination_by structural function => function

/-- Values of predicates. -/
def Lambda.literalsAll (grouped : Bool) : List Lambda → List Value
  | [] => []
  | function :: rest => function.literals grouped ++ Lambda.literalsAll grouped rest
termination_by structural functions => functions

/-- Values of joins, of each the source's and the outer key's. -/
def Join.literalsAll : List Join → List Value
  | [] => []
  | ⟨_, source, outerKey, _, _⟩ :: rest =>
    source.literals ++ outerKey.literals false ++ Join.literalsAll rest
termination_by structural joins => joins

/-- Values of the last join's result. -/
def Join.literalsLast (grouped : Bool) : List Join → List Value
  | [] => []
  | [⟨_, _, _, _, result⟩] => result.literals grouped
  | _ :: join :: rest => Join.literalsLast grouped (join :: rest)
termination_by structural joins => joins

/-- Values of sort keys. -/
def Order.literalsAll (grouped : Bool) : List Order → List Value
  | [] => []
  | ⟨key, _⟩ :: rest => key.literals grouped ++ Order.literalsAll grouped rest
termination_by structural orders => orders

/-- Values of a select node: the source, the joins, the filters, the grouping, the
predicates on groups, the sort keys, the columns. -/
def Select.literals : Select → List Value
  | ⟨source, _, filters, having, projection, groupKey, _, joins, orderBy, _, _, _, _⟩ =>
    source.literals ++ Join.literalsAll joins ++ Lambda.literalsAll false filters ++
      Lambda.literalsOption false groupKey ++
      Lambda.literalsAll (Lambda.givesKey groupKey) having ++
      Order.literalsAll (Lambda.givesKey groupKey) orderBy ++
      match projection with
      | some function => function.literals (Lambda.givesKey groupKey)
      | none => Join.literalsLast (Lambda.givesKey groupKey) joins
termination_by structural node => node

/-- Values of a query, with those of its operands from left to right. -/
def Query.literals : Query → List Value
  | .table _ => []
  | .select node => node.literals
  | .combine _ first second => first.literals ++ second.literals
termination_by structural query => query

end

/-- A node that leaves its source as it is adds no values. -/
theorem Select.literals_of_isTrivial {node : Select} (trivial : node.isTrivial = true) :
    node.literals = node.source.literals := by
  obtain ⟨source, modelType, filters, having, projection, groupKey, groupElement, joins, orderBy,
    skip, take, distinct, stage⟩ := node
  simp only [isTrivial, Bool.and_eq_true, List.isEmpty_iff, Option.isNone_iff_eq_none]
    at trivial
  obtain ⟨⟨⟨⟨⟨⟨⟨⟨rfl, rfl⟩, rfl⟩, rfl⟩, rfl⟩, rfl⟩, -⟩, -⟩, -⟩ := trivial
  simp [Select.literals, Join.literalsAll, Lambda.literalsAll, Lambda.literalsOption,
    Order.literalsAll, Join.literalsLast]

/-- Users whose login is a literal, or one of those that a captured query finds by a
captured variable. -/
def usersByLogin (literal wanted : Value) : Query :=
  let users : Model := .table "User" [⟨"Login", .string⟩]
  let login (name : String) : Expr :=
    .member (some (.parameter ⟨name, .model users⟩)) ⟨.model users, "Login"⟩ .string
  let captured (captures : List Capture) (name : String) : Expr :=
    .member (some (.closure captures .closure)) ⟨.closure, name⟩ .string
  let filtered (name : String) (predicate : Expr) : Query :=
    .select { Select.over (.table users) with filters := [⟨[⟨name, .model users⟩], predicate⟩] }
  let found : Query :=
    filtered "v" (.binary .eq (login "v") (captured [.value "wanted" wanted] "wanted") .bool)
  filtered "u" (.binary .or
    (.binary .eq (login "u") (.constant literal .string) .bool)
    (.call (some (captured [.query "found" found] "found")) ⟨.query, "Contains", [.object]⟩
      [login "u"] .bool) .bool)

example : (usersByLogin (.int 7) (.string "x")).literals = [.int 7, .string "x"] := rfl

end TypedQuery
