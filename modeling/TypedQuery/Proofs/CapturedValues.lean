/-
Module: TypedQuery.Proofs.CapturedValues
Purpose: A captured value is as good as a literal. Wherever a query reads a value other than null
  from an environment, the value itself may be written instead: the command stays the same. Left
  out are the two places in which compilation looks at the access without compiling it, the whole
  inner key of a join and the target of a column. Null is left out because a captured null is
  bound to a placeholder, while the literal is a word of the text.
Main exports: Expr.Inlines, Select.Inlines, Query.Inlines, Query.Inlines.toCommand_eq
-/
import TypedQuery.Expr.Combinators
import TypedQuery.Proofs.BuilderCalls
import TypedQuery.Proofs.Interchange
import TypedQuery.Proofs.Vocabulary

namespace TypedQuery

open Sql Sql.Compile

/-! ### Writing a value for an access -/

/-- In one place of the expression a captured value is written as a literal, or a captured query is
exchanged for a related one. -/
inductive Expr.Inlines (value : Value) (queries : Query → Query → Prop) : Expr → Expr → Prop
  | access {closure : Closure} {name held : String}
      (isValue : closure.get? name = some (.value held value)) :
      Inlines value queries (closure.var name) (.literal value)
  | captured {before after : List Capture} {name : String} {query query' : Query} {ty : Ty}
      (below : queries query query') :
      Inlines value queries (.closure (before ++ .query name query :: after) ty)
        (.closure (before ++ .query name query' :: after) ty)
  /-- The target of a column is looked at, so the access as a whole stays there. -/
  | target {expr expr' : Expr} {name : Member} {ty : Ty}
      (below : Inlines value queries expr expr')
      (compiled : (propertyTemplate? name.owner.kind name.name).isSome ∨
        ∀ value ty, expr' ≠ .constant value ty) :
      Inlines value queries (.member (some expr) name ty) (.member (some expr') name ty)
  | operand {op : UnaryOp} {operand operand' : Expr} {ty : Ty}
      (below : Inlines value queries operand operand') :
      Inlines value queries (.unary op operand ty) (.unary op operand' ty)
  | left {op : BinaryOp} {left left' right : Expr} {ty : Ty}
      (below : Inlines value queries left left') :
      Inlines value queries (.binary op left right ty) (.binary op left' right ty)
  | right {op : BinaryOp} {left right right' : Expr} {ty : Ty}
      (below : Inlines value queries right right') :
      Inlines value queries (.binary op left right ty) (.binary op left right' ty)
  | test {test test' ifTrue ifFalse : Expr} {ty : Ty} (below : Inlines value queries test test') :
      Inlines value queries (.conditional test ifTrue ifFalse ty)
        (.conditional test' ifTrue ifFalse ty)
  | ifTrue {test ifTrue ifTrue' ifFalse : Expr} {ty : Ty}
      (below : Inlines value queries ifTrue ifTrue') :
      Inlines value queries (.conditional test ifTrue ifFalse ty)
        (.conditional test ifTrue' ifFalse ty)
  | ifFalse {test ifTrue ifFalse ifFalse' : Expr} {ty : Ty}
      (below : Inlines value queries ifFalse ifFalse') :
      Inlines value queries (.conditional test ifTrue ifFalse ty)
        (.conditional test ifTrue ifFalse' ty)
  | callee {callee callee' : Expr} {method : Method} {args : List Expr} {ty : Ty}
      (below : Inlines value queries callee callee') :
      Inlines value queries (.call (some callee) method args ty)
        (.call (some callee') method args ty)
  | argument {target : Option Expr} {method : Method} {before after : List Expr}
      {arg arg' : Expr} {ty : Ty} (below : Inlines value queries arg arg') :
      Inlines value queries (.call target method (before ++ arg :: after) ty)
        (.call target method (before ++ arg' :: after) ty)
  | part {ctor : Constructor} {before after : List Expr} {arg arg' : Expr} {ty : Ty}
      (below : Inlines value queries arg arg') :
      Inlines value queries (.construct ctor (before ++ arg :: after) ty)
        (.construct ctor (before ++ arg' :: after) ty)
  | body {params : List Param} {body body' : Expr} (below : Inlines value queries body body') :
      Inlines value queries (.lambda ⟨params, body⟩) (.lambda ⟨params, body'⟩)

/-- In one place of the lambda's body. -/
inductive Lambda.Inlines (value : Value) (queries : Query → Query → Prop) : Lambda → Lambda → Prop
  | body {params : List Param} {body body' : Expr} (below : Expr.Inlines value queries body body') :
      Inlines value queries ⟨params, body⟩ ⟨params, body'⟩

/-- In one place of the join. An inner key selects a member, so it is no access as a whole. -/
inductive Join.Inlines (value : Value) (queries : Query → Query → Prop) : Join → Join → Prop
  | source (join : Join) {source : Query} (below : queries join.source source) :
      Inlines value queries join { join with source := source }
  | outerKey (join : Join) {outerKey : Lambda}
      (below : Lambda.Inlines value queries join.outerKey outerKey) :
      Inlines value queries join { join with outerKey := outerKey }
  | innerKey (join : Join) {innerKey : Lambda}
      (below : Lambda.Inlines value queries join.innerKey innerKey)
      (notWhole : ∀ value ty, innerKey.body ≠ .constant value ty) :
      Inlines value queries join { join with innerKey := innerKey }
  | result (join : Join) {result : Lambda}
      (below : Lambda.Inlines value queries join.result result) :
      Inlines value queries join { join with result := result }

/-- In one place of the sort key. -/
inductive Order.Inlines (value : Value) (queries : Query → Query → Prop) : Order → Order → Prop
  | key (order : Order) {key : Lambda} (below : Lambda.Inlines value queries order.key key) :
      Inlines value queries order { order with key := key }

/-- In one member of the list. -/
inductive Sql.InOneMember {α : Type} (changes : α → α → Prop) : List α → List α → Prop
  | member (before after : List α) {item item' : α} (changed : changes item item') :
      InOneMember changes (before ++ item :: after) (before ++ item' :: after)

theorem Sql.InOneMember.forall₂ {α : Type} {changes related : α → α → Prop}
    {items items' : List α} (inMember : InOneMember changes items items')
    (refl : ∀ item, related item item)
    (imp : ∀ item item', changes item item' → related item item') :
    List.Forall₂ related items items' := by
  cases inMember with
  | member before after changed => exact forall₂_exchange refl (imp _ _ changed) after before

/-- In one place of the node. -/
inductive Select.Inlines (value : Value) (queries : Query → Query → Prop) : Select → Select → Prop
  | source (node : Select) {source : Query} (below : queries node.source source) :
      Inlines value queries node { node with source := source }
  | filter (node : Select) {filters : List Lambda}
      (below : InOneMember (Lambda.Inlines value queries) node.filters filters) :
      Inlines value queries node { node with filters := filters }
  | having (node : Select) {having : List Lambda}
      (below : InOneMember (Lambda.Inlines value queries) node.having having) :
      Inlines value queries node { node with having := having }
  | projection (node : Select) {function function' : Lambda}
      (isProjection : node.projection = some function)
      (below : Lambda.Inlines value queries function function') :
      Inlines value queries node { node with projection := some function' }
  | groupKey (node : Select) {key key' : Lambda} (isKey : node.groupKey = some key)
      (below : Lambda.Inlines value queries key key') :
      Inlines value queries node { node with groupKey := some key' }
  | groupElement (node : Select) {element element' : Lambda}
      (isElement : node.groupElement = some element)
      (below : Lambda.Inlines value queries element element') :
      Inlines value queries node { node with groupElement := some element' }
  | join (node : Select) {joins : List Join}
      (below : InOneMember (Join.Inlines value queries) node.joins joins) :
      Inlines value queries node { node with joins := joins }
  | orderBy (node : Select) {orderBy : List Order}
      (below : InOneMember (Order.Inlines value queries) node.orderBy orderBy) :
      Inlines value queries node { node with orderBy := orderBy }

/-- In one place of the query a captured value is written as a literal: in a select node, in a query
below one, or in an operand of a set operation. -/
inductive Query.Inlines (value : Value) : Query → Query → Prop
  | own {node node' : Select} (here : Select.Inlines value (fun _ _ => False) node node') :
      Inlines value (.select node) (.select node')
  | operand {node node' : Select} {query query' : Query} (deeper : Inlines value query query')
      (here : Select.Inlines value (fun held held' => held = query ∧ held' = query') node node') :
      Inlines value (.select node) (.select node')
  | first {op : SetOp} {first first' second : Query} (deeper : Inlines value first first') :
      Inlines value (.combine op first second) (.combine op first' second)
  | second {op : SetOp} {first second second' : Query} (deeper : Inlines value second second') :
      Inlines value (.combine op first second) (.combine op first second')

/-! ### The value stands for the access -/

theorem Expr.compile_literal {value : Value} (notNull : value ≠ .null) (scope : Scope)
    (condition : Bool) : (Expr.literal value).compile scope condition = bindValue scope value := by
  cases value with
  | null => exact absurd rfl notNull
  | _ => rfl

theorem Expr.interchangeable_access {closure : Closure} {name held : String} {value : Value}
    (isValue : closure.get? name = some (.value held value)) (notNull : value ≠ .null) :
    (closure.var name).Interchangeable (.literal value) := by
  refine .of_plain rfl rfl fun scope condition => ?_
  rw [Closure.compile_var isValue, Expr.compile_literal notNull]
  exact .refl _

section Steps

variable {value : Value} {queries : Query → Query → Prop}

/-- A property of the access is a property of the value. -/
theorem Expr.interchangeable_property {closure : Closure} {held : String} {accessed : String}
    {name : Member} {ty : Ty} (isValue : closure.get? accessed = some (.value held value))
    (notNull : value ≠ .null)
    (isProperty : (propertyTemplate? name.owner.kind name.name).isSome) :
    (Expr.member (some (closure.var accessed)) name ty).Interchangeable
      (.member (some (.literal value)) name ty) := by
  refine (Expr.interchangeable_access isValue notNull).member nofun nofun
    (fun timed => Expr.Interchangeable.durations_refused timed nofun nofun) fun noProperty => ?_
  rw [noProperty] at isProperty
  cases isProperty

/-- Stand for each other, as a whole and, unless the exchanged part is a bare literal now, as the
target of any member. -/
structure Expr.InterchangeableTarget (expr expr' : Expr) : Prop where
  whole : expr.Interchangeable expr'
  target : (∀ value ty, expr' ≠ .constant value ty) → ∀ name ty,
    (Expr.member (some expr) name ty).Interchangeable (.member (some expr') name ty)

theorem Expr.InterchangeableTarget.of_other {expr expr' : Expr}
    (whole : expr.Interchangeable expr') (looked : expr.isLookedInto = false)
    (looked' : expr'.isLookedInto = false) : expr.InterchangeableTarget expr' :=
  ⟨whole, fun _ _ _ => whole.member_of_other looked looked'⟩

theorem Expr.Inlines.interchangeableTarget (notNull : value ≠ .null)
    (captured : ∀ query query', queries query query' → query.Interchangeable query')
    {expr expr' : Expr} (inlines : Expr.Inlines value queries expr expr') :
    expr.InterchangeableTarget expr' := by
  induction inlines with
  | access isValue =>
      exact ⟨Expr.interchangeable_access isValue notNull, fun notWhole => absurd rfl (notWhole _ _)⟩
  | @captured before after name query query' ty below =>
      have all := forall₂_exchange Capture.Interchangeable.refl
        (.query name (captured query query' below)) after before
      exact ⟨.of_plain rfl rfl fun scope condition => .unsupported _ _,
        fun _ name ty => .member_of_closure all⟩
  | @target expr expr' name ty below compiled ih =>
      have whole : (Expr.member (some expr) name ty).Interchangeable
          (.member (some expr') name ty) := by
        cases below with
        | access isValue =>
            rcases compiled with isProperty | notWhole
            · exact Expr.interchangeable_property isValue notNull isProperty
            · exact absurd rfl (notWhole _ _)
        | _ => exact ih.target nofun name ty
      exact ⟨whole, fun _ _ _ => whole.member_of_member⟩
  | operand below ih => exact .of_other (ih.whole.unary _) rfl rfl
  | left below ih => exact .of_other (ih.whole.binary (.refl _) _) rfl rfl
  | right below ih => exact .of_other ((Expr.Interchangeable.refl _).binary ih.whole _) rfl rfl
  | test below ih => exact .of_other (ih.whole.conditional (.refl _) (.refl _)) rfl rfl
  | ifTrue below ih =>
      exact .of_other ((Expr.Interchangeable.refl _).conditional ih.whole (.refl _)) rfl rfl
  | ifFalse below ih =>
      exact .of_other ((Expr.Interchangeable.refl _).conditional (.refl _) ih.whole) rfl rfl
  | @callee callee callee' method args ty below ih =>
      have targets := Option.Rel.some ih.whole
      have all := forall₂_of_refl Expr.Interchangeable.refl args
      exact ⟨.call targets all _, fun _ _ _ => .member_of_call targets all _⟩
  | @argument target method before after arg arg' ty below ih =>
      have targets := optionRel_of_refl Expr.Interchangeable.refl target
      have all := forall₂_exchange Expr.Interchangeable.refl ih.whole after before
      exact ⟨.call targets all _, fun _ _ _ => .member_of_call targets all _⟩
  | @part ctor before after arg arg' ty below ih =>
      have all := forall₂_exchange Expr.Interchangeable.refl ih.whole after before
      exact .of_other (.construct all ctor) rfl rfl
  | body below ih => exact .of_other (.lambda ⟨rfl, ih.whole⟩) rfl rfl

theorem Expr.Inlines.keyMember?_eq {params params' : List Param} {body body' : Expr}
    (inlines : Expr.Inlines value queries body body')
    (notWhole : ∀ value ty, body' ≠ .constant value ty) :
    keyMember? ⟨params, body⟩ = keyMember? ⟨params', body'⟩ := by
  cases inlines with
  | access isValue => exact absurd rfl (notWhole _ _)
  | _ => rfl

variable (notNull : value ≠ .null)
  (related : ∀ query query', queries query query' → query.Interchangeable query')
include notNull related

theorem Lambda.Inlines.interchangeable {function function' : Lambda}
    (inlines : Lambda.Inlines value queries function function') :
    function.Interchangeable function' := by
  cases inlines with
  | body below => exact ⟨rfl, (below.interchangeableTarget notNull related).whole⟩

theorem Join.Inlines.interchangeable {join join' : Join}
    (inlines : Join.Inlines value queries join join') : join.Interchangeable join' := by
  cases inlines with
  | source below => exact ⟨rfl, related _ _ below, .refl _, rfl, .refl _⟩
  | outerKey below => exact ⟨rfl, .refl _, below.interchangeable notNull related, rfl, .refl _⟩
  | innerKey below notWhole =>
      refine ⟨rfl, .refl _, .refl _, ?_, .refl _⟩
      generalize join.innerKey = before at below
      cases below with
      | body below => exact below.keyMember?_eq notWhole
  | result below => exact ⟨rfl, .refl _, .refl _, rfl, below.interchangeable notNull related⟩

theorem Order.Inlines.interchangeable {order order' : Order}
    (inlines : Order.Inlines value queries order order') : order.Interchangeable order' := by
  cases inlines with
  | key below => exact ⟨below.interchangeable notNull related, rfl⟩

theorem Select.Inlines.interchangeable {node node' : Select}
    (inlines : Select.Inlines value queries node node') : node.Interchangeable node' := by
  have same := Select.Interchangeable.refl node
  have functions (function function' : Lambda)
      (inlines : Lambda.Inlines value queries function function') :
      function.Interchangeable function' := inlines.interchangeable notNull related
  cases inlines with
  | source below => exact { same with source := related _ _ below }
  | filter below =>
      exact { same with filters := below.forall₂ Lambda.Interchangeable.refl functions }
  | having below =>
      exact { same with having := below.forall₂ Lambda.Interchangeable.refl functions }
  | projection isProjection below =>
      exact { same with projection := by rw [isProjection]; exact .some (functions _ _ below) }
  | groupKey isKey below =>
      exact { same with groupKey := by rw [isKey]; exact .some (functions _ _ below) }
  | groupElement isElement below =>
      exact { same with groupElement := by rw [isElement]; exact .some (functions _ _ below) }
  | join below =>
      exact { same with joins := below.forall₂ Join.Interchangeable.refl fun _ _ inlines =>
        inlines.interchangeable notNull related }
  | orderBy below =>
      exact { same with orderBy := below.forall₂ Order.Interchangeable.refl fun _ _ inlines =>
        inlines.interchangeable notNull related }

end Steps

/-! ### Whole queries -/

theorem Query.Inlines.interchangeable {value : Value} (notNull : value ≠ .null)
    {query query' : Query} (inlines : Query.Inlines value query query') :
    query.Interchangeable query' := by
  induction inlines with
  | own here => exact .select (here.interchangeable notNull nofun)
  | operand deeper here ih =>
      refine .select (here.interchangeable notNull ?_)
      rintro held held' ⟨rfl, rfl⟩
      exact ih
  | first deeper ih => exact ih.combine (.refl _) _
  | second deeper ih => exact (Query.Interchangeable.refl _).combine ih _

/-- Captured values are as good as literals: where a value other than null is written for an access
to it, both queries have one command, or both fail with one class of failure. -/
theorem Query.Inlines.toCommand_eq {value : Value} (notNull : value ≠ .null)
    {query query' : Query} (inlines : Query.Inlines value query query') (resolver : Resolver) :
    Paired (· = ·) Error.SameKind (query.toCommand resolver) (query'.toCommand resolver) :=
  (inlines.interchangeable notNull).toCommand resolver

namespace Query

/-- Users with the login that an expression gives. -/
def usersWithLogin (login : Expr) : Query :=
  let user : Param := ⟨"u", userTable.rowType⟩
  .select { Select.over userTable with
    filters := [⟨[user], ((Expr.parameter user).field "Login").equals login⟩] }

/-- The environment in which a variable holds a login. -/
def loginVariable (login : Value) : Closure := Closure.empty.capture (.value "login" login)

theorem usersWithLogin_inlines (login : Value) :
    Inlines login (usersWithLogin ((loginVariable login).var "login"))
      (usersWithLogin (.literal login)) :=
  .own (.filter _ (.member [] [] (.body (.right (.access rfl)))))

theorem usersWithLogin_string :
    Value.string "ann" ≠ .null ∧
      Inlines (.string "ann") (usersWithLogin ((loginVariable (.string "ann")).var "login"))
        (usersWithLogin (.literal (.string "ann"))) ∧
      Paired (· = ·) Error.SameKind
        ((usersWithLogin ((loginVariable (.string "ann")).var "login")).toCommand .identity)
        ((usersWithLogin (.literal (.string "ann"))).toCommand .identity) :=
  ⟨by decide, usersWithLogin_inlines _,
    Query.Inlines.toCommand_eq (by decide) (usersWithLogin_inlines _) .identity⟩

/-- A variable that holds null is compared with `=`, the literal null with `IS`. -/
theorem usersWithLogin_null_mismatch :
    Inlines .null (usersWithLogin ((loginVariable .null).var "login"))
        (usersWithLogin (.literal .null)) ∧
      ∃ command command',
        (usersWithLogin ((loginVariable .null).var "login")).toCommand .identity = .ok command ∧
        (usersWithLogin (.literal .null)).toCommand .identity = .ok command' ∧
        command.text = "SELECT * FROM [User] [u] WHERE ([u].[Login]) = (@p0)" ∧
        command.parameters.names = ["@p0"] ∧
        command'.text = "SELECT * FROM [User] [u] WHERE ([u].[Login]) IS (NULL)" ∧
        command'.parameters.names = [] :=
  ⟨usersWithLogin_inlines _, _, _, rfl, rfl, by decide +kernel, rfl, by decide +kernel, rfl⟩

end Query

end TypedQuery
