/-
Module: TypedQuery.Proofs.Interchange
Purpose: Parts of a query that stand for each other. Two computations have the same outcome when
  from every state both give one result or both fail with one class of failure. Every step of
  compilation keeps this, so a part can be exchanged for another one that compiles alike.
Main exports: Sql.SameOutcome, Expr.Interchangeable, Lambda.Interchangeable, Join.Interchangeable,
  Select.Interchangeable, Query.Interchangeable, Select.Interchangeable.compile,
  Query.Interchangeable.select, Query.Interchangeable.toCommand
-/
import Mathlib.Data.List.Forall2
import TypedQuery.Proofs.LiteralIndependence

namespace TypedQuery

open Sql Sql.Compile

/-! ### Same outcomes -/

namespace Sql

/-- From every state both give the same result in the same state, or both fail with one class of
failure. What a failure shows may differ. -/
def SameOutcome {σ α : Type} (first second : StateT σ (Except Error) α) : Prop :=
  ∀ state, Paired (· = ·) Error.SameKind (first state) (second state)

namespace SameOutcome

variable {σ α β : Type}

theorem refl (step : StateT σ (Except Error) α) : SameOutcome step step := by
  intro state
  cases step state with
  | ok result => exact .ok rfl
  | error error => exact .error rfl

theorem unsupported (first second : Fragment) :
    SameOutcome (Compile.unsupported first : Compile α) (Compile.unsupported second) :=
  fun _ => .error rfl

/-- Both go on from the same result. -/
theorem bind {first second : StateT σ (Except Error) α}
    {next next' : α → StateT σ (Except Error) β} (head : SameOutcome first second)
    (tail : ∀ result, SameOutcome (next result) (next' result)) :
    SameOutcome (first >>= next) (second >>= next') := by
  intro state
  change Paired _ _ (first state >>= fun reached => next reached.1 reached.2)
    (second state >>= fun reached => next' reached.1 reached.2)
  have heads := head state
  generalize first state = outcome at heads ⊢
  generalize second state = outcome' at heads ⊢
  cases heads with
  | ok same =>
      cases same
      exact tail _ _
  | error related => exact .error related

/-- Only what comes first differs. -/
theorem before {first second : StateT σ (Except Error) α} (head : SameOutcome first second)
    (next : α → StateT σ (Except Error) β) : SameOutcome (first >>= next) (second >>= next) :=
  head.bind fun _ => refl _

/-- Only what comes after a step differs. -/
theorem after (first : StateT σ (Except Error) α) {next next' : α → StateT σ (Except Error) β}
    (tail : ∀ result, SameOutcome (next result) (next' result)) :
    SameOutcome (first >>= next) (first >>= next') :=
  (refl first).bind tail

theorem embed {first second : Nested (α × Parameters)} (commands : SameOutcome first second) :
    SameOutcome (Compile.embed first) (Compile.embed second) := by
  intro progress
  have outcomes := commands progress.nested
  simp only [Compile.embed]
  generalize first progress.nested = outcome at outcomes ⊢
  generalize second progress.nested = outcome' at outcomes ⊢
  cases outcomes with
  | ok same =>
      cases same
      exact .ok rfl
  | error related => exact .error related

theorem toNested {first second : Compile α} (parts : SameOutcome first second) :
    SameOutcome (Compile.toNested first) (Compile.toNested second) := by
  intro nested
  have outcomes := parts ⟨nested, .empty⟩
  simp only [Compile.toNested]
  generalize first ⟨nested, .empty⟩ = outcome at outcomes ⊢
  generalize second ⟨nested, .empty⟩ = outcome' at outcomes ⊢
  cases outcomes with
  | ok same =>
      cases same
      exact .ok rfl
  | error related => exact .error related

end SameOutcome

end Sql

/-! ### What is interchangeable

Compilation compiles a part, and for some parts looks at their outermost shape: a predicate may be
a disjunction, a projection a bare parameter, a key a row, a join's result a row with fields that
are bare parameters. -/

/-- Both compile alike in every scope, and their outermost shapes are the same to the clauses that
look at them. -/
structure Expr.Interchangeable (expr expr' : Expr) : Prop where
  compile : ∀ scope condition,
    SameOutcome (expr.compile scope condition) (expr'.compile scope condition)
  encloses : ∀ term, encloseDisjunction expr term = encloseDisjunction expr' term
  selects : ∀ term, selectionOf expr term = selectionOf expr' term
  groupFields : ∀ scope, SameOutcome (Expr.compileAll scope expr.groupFields)
    (Expr.compileAll scope expr'.groupFields)
  keyTerm : ∀ terms, expr.keyTerm? terms = expr'.keyTerm? terms
  isParam : ∀ param, Aliases.isParam param expr = Aliases.isParam param expr'
  rowField : ∀ params side,
    Aliases.rowField? ⟨params, expr⟩ side = Aliases.rowField? ⟨params, expr'⟩ side

/-- The same parameters, and bodies that stand for each other. -/
structure Lambda.Interchangeable (function function' : Lambda) : Prop where
  params : function.params = function'.params
  body : function.body.Interchangeable function'.body

/-- Both compile alike under every prefix, as commands and as sources. -/
structure Query.Interchangeable (query query' : Query) : Prop where
  compile : ∀ resolver path,
    SameOutcome (query.compile resolver path) (query'.compile resolver path)
  compileSource : ∀ resolver path,
    SameOutcome (query.compileSource resolver path) (query'.compileSource resolver path)

/-- The same pairing of rows; of the inner key only the member that it selects counts. -/
structure Join.Interchangeable (join join' : Join) : Prop where
  kind : join.kind = join'.kind
  source : join.source.Interchangeable join'.source
  outerKey : join.outerKey.Interchangeable join'.outerKey
  innerKey : keyMember? join.innerKey = keyMember? join'.innerKey
  result : join.result.Interchangeable join'.result

/-- The same value, or queries that stand for each other, under one name. -/
inductive Capture.Interchangeable : Capture → Capture → Prop
  | value (name : String) (value : Value) : Interchangeable (.value name value) (.value name value)
  | query (name : String) {query query' : Query} (queries : query.Interchangeable query') :
      Interchangeable (.query name query) (.query name query')

/-- Sort keys that stand for each other, in the same direction. -/
structure Order.Interchangeable (order order' : Order) : Prop where
  key : order.key.Interchangeable order'.key
  ascending : order.ascending = order'.ascending

/-- The same clauses, one by one. -/
structure Select.Interchangeable (node node' : Select) : Prop where
  source : node.source.Interchangeable node'.source
  modelType : node.modelType = node'.modelType
  filters : List.Forall₂ Lambda.Interchangeable node.filters node'.filters
  having : List.Forall₂ Lambda.Interchangeable node.having node'.having
  projection : Option.Rel Lambda.Interchangeable node.projection node'.projection
  groupKey : Option.Rel Lambda.Interchangeable node.groupKey node'.groupKey
  groupElement : Option.Rel Lambda.Interchangeable node.groupElement node'.groupElement
  joins : List.Forall₂ Join.Interchangeable node.joins node'.joins
  orderBy : List.Forall₂ Order.Interchangeable node.orderBy node'.orderBy
  skip : node.skip = node'.skip
  take : node.take = node'.take
  distinct : node.distinct = node'.distinct

theorem Expr.Interchangeable.refl (expr : Expr) : expr.Interchangeable expr :=
  ⟨fun _ _ => .refl _, fun _ => rfl, fun _ => rfl, fun _ => .refl _, fun _ => rfl, fun _ => rfl,
    fun _ _ => rfl⟩

theorem Lambda.Interchangeable.refl (function : Lambda) : function.Interchangeable function :=
  ⟨rfl, .refl _⟩

theorem Query.Interchangeable.refl (query : Query) : query.Interchangeable query :=
  ⟨fun _ _ => .refl _, fun _ _ => .refl _⟩

theorem Capture.Interchangeable.refl : ∀ capture : Capture, capture.Interchangeable capture
  | .value name held => .value name held
  | .query name _ => .query name (.refl _)

theorem Join.Interchangeable.refl (join : Join) : join.Interchangeable join :=
  ⟨rfl, .refl _, .refl _, rfl, .refl _⟩

theorem Order.Interchangeable.refl (order : Order) : order.Interchangeable order :=
  ⟨.refl _, rfl⟩

namespace Sql

section Exchanges

variable {α : Type} {related : α → α → Prop} (refl : ∀ item, related item item)
include refl

theorem forall₂_of_refl (items : List α) : List.Forall₂ related items items :=
  List.forall₂_same.2 fun item _ => refl item

theorem optionRel_of_refl : ∀ item : Option α, Option.Rel related item item
  | none => .none
  | some item => .some (refl item)

/-- One member of a list is exchanged. -/
theorem forall₂_exchange {item item' : α} (exchanged : related item item') (after : List α) :
    ∀ before : List α, List.Forall₂ related (before ++ item :: after) (before ++ item' :: after)
  | [] => .cons exchanged (forall₂_of_refl refl after)
  | first :: before => .cons (refl first) (forall₂_exchange exchanged after before)

end Exchanges

end Sql

theorem Select.Interchangeable.refl (node : Select) : node.Interchangeable node where
  source := .refl _
  modelType := rfl
  filters := forall₂_of_refl Lambda.Interchangeable.refl _
  having := forall₂_of_refl Lambda.Interchangeable.refl _
  projection := optionRel_of_refl Lambda.Interchangeable.refl _
  groupKey := optionRel_of_refl Lambda.Interchangeable.refl _
  groupElement := optionRel_of_refl Lambda.Interchangeable.refl _
  joins := forall₂_of_refl Join.Interchangeable.refl _
  orderBy := forall₂_of_refl Order.Interchangeable.refl _
  skip := rfl
  take := rfl
  distinct := rfl

/-! ### Lists of parts -/

theorem Expr.compileAll_sameOutcome {exprs exprs' : List Expr}
    (all : List.Forall₂ Expr.Interchangeable exprs exprs') (scope : Scope) :
    SameOutcome (Expr.compileAll scope exprs) (Expr.compileAll scope exprs') := by
  induction all with
  | nil => exact .refl _
  | cons head tail ih =>
      rw [Expr.compileAll, Expr.compileAll]
      exact (head.compile scope false).bind fun term => ih.before _

theorem Expr.compileTarget_sameOutcome {target target' : Option Expr}
    (targets : Option.Rel Expr.Interchangeable target target') (scope : Scope) :
    SameOutcome (Expr.compileTarget scope target) (Expr.compileTarget scope target') := by
  cases targets with
  | none => exact .refl _
  | some whole => exact whole.compile scope false

theorem Lambda.compileBody_sameOutcome {function function' : Lambda}
    (functions : function.Interchangeable function') (scope : Scope) :
    SameOutcome (Lambda.compileBody scope function) (Lambda.compileBody scope function') := by
  obtain ⟨params, body⟩ := function
  obtain ⟨params', body'⟩ := function'
  rw [Lambda.compileBody, Lambda.compileBody]
  exact functions.body.compile scope false

theorem Lambda.compileAll_sameOutcome {predicates predicates' : List Lambda}
    (all : List.Forall₂ Lambda.Interchangeable predicates predicates') (scope : Scope) :
    SameOutcome (Lambda.compileAll scope predicates) (Lambda.compileAll scope predicates') := by
  induction all with
  | nil => exact .refl _
  | @cons predicate predicate' rest rest' head tail ih =>
      obtain ⟨params, body⟩ := predicate
      obtain ⟨params', body'⟩ := predicate'
      rw [Lambda.compileAll, Lambda.compileAll]
      refine (head.body.compile scope true).bind fun term => ih.bind fun terms => ?_
      rw [head.body.encloses]
      exact .refl _

theorem Lambda.compileSelection_sameOutcome {function function' : Lambda}
    (functions : function.Interchangeable function') (scope : Scope) :
    SameOutcome (Lambda.compileSelection scope function)
      (Lambda.compileSelection scope function') := by
  obtain ⟨params, body⟩ := function
  obtain ⟨params', body'⟩ := function'
  rw [Lambda.compileSelection, Lambda.compileSelection]
  refine (functions.body.compile scope false).bind fun term => ?_
  rw [functions.body.selects]
  exact .refl _

theorem Lambda.compileGroupKey_sameOutcome {key key' : Option Lambda}
    (keys : Option.Rel Lambda.Interchangeable key key') (scope : Scope) :
    SameOutcome (Lambda.compileGroupKey scope key) (Lambda.compileGroupKey scope key') := by
  cases keys with
  | none => exact .refl _
  | some whole =>
      rw [Lambda.compileGroupKey_some, Lambda.compileGroupKey_some]
      refine (whole.body.groupFields scope).bind fun terms => ?_
      rw [whole.body.keyTerm]
      exact .refl _

theorem Order.compileAll_sameOutcome {orders orders' : List Order}
    (all : List.Forall₂ Order.Interchangeable orders orders') (scope : Scope) :
    SameOutcome (Order.compileAll scope orders) (Order.compileAll scope orders') := by
  induction all with
  | nil => exact .refl _
  | @cons order order' rest rest' head tail ih =>
      obtain ⟨key, ascending⟩ := order
      obtain ⟨key', ascending'⟩ := order'
      obtain rfl : ascending = ascending' := head.ascending
      rw [Order.compileAll, Order.compileAll]
      exact (Lambda.compileBody_sameOutcome head.key scope).bind fun term => ih.before _

theorem Capture.compile_sameOutcome {captures captures' : List Capture}
    (all : List.Forall₂ Capture.Interchangeable captures captures') (scope : Scope)
    (name : String) :
    SameOutcome (Capture.compile scope name captures) (Capture.compile scope name captures') := by
  induction all with
  | nil => exact .refl _
  | cons head tail ih =>
      cases head with
      | value held value =>
          rw [Capture.compile, Capture.compile]
          split
          · exact .refl _
          · exact ih
      | query held queries =>
          rw [Capture.compile, Capture.compile]
          split
          · exact .after _ fun path => (queries.compile _ path).embed.before _
          · exact ih

/-! ### Larger expressions

An expression is exchanged by exchanging its parts. Only operators, bare parameters and
constructions have a shape that clauses look at. -/

/-- Nothing in the outermost shape that a clause looks at. -/
def Expr.isPlain : Expr → Bool
  | .binary _ _ _ _ | .parameter _ | .construct _ _ _ => false
  | _ => true

/-- What a member looks into when it is compiled, apart from compiling it. -/
def Expr.isLookedInto : Expr → Bool
  | .call _ _ _ _ | .closure _ _ | .member _ _ _ | .parameter _ => true
  | _ => false

namespace Expr.Interchangeable

variable {expr expr' : Expr} {ty : Ty}

theorem compileAll_single
    (compile : ∀ scope condition,
      SameOutcome (expr.compile scope condition) (expr'.compile scope condition))
    (scope : Scope) :
    SameOutcome (Expr.compileAll scope [expr]) (Expr.compileAll scope [expr']) := by
  rw [Expr.compileAll, Expr.compileAll]
  exact (compile scope false).before _

/-- Plain expressions only have to compile alike. -/
theorem of_plain (plain : expr.isPlain) (plain' : expr'.isPlain)
    (compile : ∀ scope condition,
      SameOutcome (expr.compile scope condition) (expr'.compile scope condition)) :
    expr.Interchangeable expr' := by
  have looks (plainExpr : Expr) (isPlain : plainExpr.isPlain) :
      (∀ term, encloseDisjunction plainExpr term = term) ∧
        (∀ term, selectionOf plainExpr term = .terms term) ∧
        plainExpr.groupFields = [plainExpr] ∧
        (∀ terms, plainExpr.keyTerm? terms = terms.head?) ∧
        (∀ param, Aliases.isParam param plainExpr = false) ∧
        ∀ params side, Aliases.rowField? ⟨params, plainExpr⟩ side = none := by
    cases plainExpr with
    | binary => cases isPlain
    | parameter => cases isPlain
    | construct => cases isPlain
    | _ => exact ⟨fun _ => rfl, fun _ => rfl, rfl, fun _ => rfl, fun _ => rfl,
        fun _ _ => by simp [Aliases.rowField?]⟩
  obtain ⟨encloses, selects, fields, key, isParam, rowField⟩ := looks expr plain
  obtain ⟨encloses', selects', fields', key', isParam', rowField'⟩ := looks expr' plain'
  exact
    { compile := compile
      encloses := fun term => by rw [encloses, encloses']
      selects := fun term => by rw [selects, selects']
      groupFields := by
        rw [fields, fields']
        exact compileAll_single compile
      keyTerm := fun terms => by rw [key, key']
      isParam := fun param => by rw [isParam, isParam']
      rowField := fun params side => by rw [rowField, rowField'] }

theorem unary (operands : expr.Interchangeable expr') (op : UnaryOp) :
    (Expr.unary op expr ty).Interchangeable (.unary op expr' ty) := by
  refine of_plain rfl rfl fun scope condition => ?_
  rw [Expr.compile, Expr.compile]
  exact (operands.compile scope _).before _

theorem binary {left left' right right' : Expr} (lefts : left.Interchangeable left')
    (rights : right.Interchangeable right') (op : BinaryOp) :
    (Expr.binary op left right ty).Interchangeable (.binary op left' right' ty) := by
  have compile (scope : Scope) (condition : Bool) :
      SameOutcome ((Expr.binary op left right ty).compile scope condition)
        ((Expr.binary op left' right' ty).compile scope condition) := by
    rw [Expr.compile, Expr.compile]
    exact (lefts.compile scope _).bind fun term => (rights.compile scope _).before _
  exact ⟨compile, fun _ => rfl, fun _ => rfl, compileAll_single compile, fun _ => rfl,
    fun _ => rfl, fun _ _ => by simp [Aliases.rowField?]⟩

theorem conditional {test test' ifTrue ifTrue' ifFalse ifFalse' : Expr}
    (tests : test.Interchangeable test') (trues : ifTrue.Interchangeable ifTrue')
    (falses : ifFalse.Interchangeable ifFalse') :
    (Expr.conditional test ifTrue ifFalse ty).Interchangeable
      (.conditional test' ifTrue' ifFalse' ty) := by
  refine of_plain rfl rfl fun scope condition => ?_
  rw [Expr.compile, Expr.compile]
  refine (tests.compile scope true).bind fun test => ?_
  exact (trues.compile scope false).bind fun ifTrue => (falses.compile scope false).before _

theorem call {target target' : Option Expr} {args args' : List Expr}
    (targets : Option.Rel Expr.Interchangeable target target')
    (all : List.Forall₂ Expr.Interchangeable args args') (method : Method) :
    (Expr.call target method args ty).Interchangeable (.call target' method args' ty) := by
  refine of_plain rfl rfl fun scope condition => ?_
  rw [Expr.compile, Expr.compile]
  exact (Expr.compileTarget_sameOutcome targets scope).bind fun callee =>
    (Expr.compileAll_sameOutcome all scope).before _

theorem lambda {function function' : Lambda} (functions : function.Interchangeable function') :
    (Expr.lambda function).Interchangeable (.lambda function') := by
  obtain ⟨params, body⟩ := function
  obtain ⟨params', body'⟩ := function'
  refine of_plain rfl rfl fun scope condition => ?_
  rw [Expr.compile, Expr.compile]
  exact functions.body.compile scope false

/-- Rows have the same bare parameters in the same fields. -/
theorem construct {args args' : List Expr} (all : List.Forall₂ Expr.Interchangeable args args')
    (ctor : Constructor) :
    (Expr.construct ctor args ty).Interchangeable (.construct ctor args' ty) := by
  have positions (param : Param) :
      (args.takeWhile fun arg => !Aliases.isParam param arg).length =
        (args'.takeWhile fun arg => !Aliases.isParam param arg).length := by
    induction all with
    | nil => rfl
    | cons head tail ih =>
        rw [List.takeWhile_cons, List.takeWhile_cons, head.isParam]
        split
        · rw [List.length_cons, List.length_cons, ih]
        · rfl
  have compile (scope : Scope) (condition : Bool) :
      SameOutcome ((Expr.construct ctor args ty).compile scope condition)
        ((Expr.construct ctor args' ty).compile scope condition) := by
    rw [Expr.compile, Expr.compile]
    exact (Expr.compileAll_sameOutcome all scope).before _
  refine ⟨compile, fun _ => rfl, fun _ => rfl, fun scope => ?_, fun _ => ?_, fun _ => rfl,
    fun params side => ?_⟩
  · cases ctor with
    | record names => exact Expr.compileAll_sameOutcome all scope
    | _ => exact compileAll_single compile scope
  · cases ctor <;> rfl
  · cases ctor with
    | record names =>
        simp only [Aliases.rowField?]
        cases params[side]? with
        | none => rfl
        | some param => simp only [positions]
    | _ => simp [Aliases.rowField?]

/-! #### Members

A duration looks into its target for a call, a captured variable for an environment, and a column
for a parameter or a member. -/

/-- Only a call has a duration. -/
theorem durations_refused {name : Member} (timed : name.owner = .timeSpan)
    (notCall : ∀ callee method args ty, expr ≠ .call callee method args ty)
    (notCall' : ∀ callee method args ty, expr' ≠ .call callee method args ty) (scope : Scope)
    (condition : Bool) :
    SameOutcome ((Expr.member (some expr) name ty).compile scope condition)
      ((Expr.member (some expr') name ty).compile scope condition) := by
  have refused (target : Expr)
      (notCall : ∀ callee method args ty, target ≠ .call callee method args ty) :
      ∃ fragment, Expr.memberForm scope (some target) name ty = .refused fragment := by
    unfold Expr.memberForm
    rw [scope.groupKeyOf?_eq_none (by rw [timed]; rfl)]
    simp only [if_pos timed]
    split
    · next isCall => exact absurd (Option.some.inj isCall) (notCall _ _ _ _)
    · exact ⟨_, rfl⟩
  obtain ⟨fragment, form⟩ := refused expr notCall
  obtain ⟨fragment', form'⟩ := refused expr' notCall'
  rw [Expr.compile_member, Expr.compile_member, form, form']
  exact .unsupported _ _

/-- A member of a target that is no environment: where it is a property the target is compiled. -/
theorem member {name : Member} (targets : expr.Interchangeable expr')
    (notClosure : ∀ captures ty, expr ≠ .closure captures ty)
    (notClosure' : ∀ captures ty, expr' ≠ .closure captures ty)
    (durations : name.owner = .timeSpan → ∀ scope condition,
      SameOutcome ((Expr.member (some expr) name ty).compile scope condition)
        ((Expr.member (some expr') name ty).compile scope condition))
    (columns : propertyTemplate? name.owner.kind name.name = none → ∀ scope condition,
      SameOutcome (memberColumn scope condition (some expr) name ty)
        (memberColumn scope condition (some expr') name ty)) :
    (Expr.member (some expr) name ty).Interchangeable (.member (some expr') name ty) := by
  refine of_plain rfl rfl fun scope condition => ?_
  by_cases timed : name.owner = .timeSpan
  · exact durations timed scope condition
  · rw [Expr.compile_member, Expr.compile_member,
      Expr.memberForm_of_untimed scope ty timed notClosure,
      Expr.memberForm_of_untimed scope ty timed notClosure']
    cases scope.groupKeyOf? name with
    | some key => exact .refl _
    | none =>
        cases found : propertyTemplate? name.owner.kind name.name with
        | some template => exact (targets.compile scope false).before _
        | none => exact columns found scope condition

/-- A member of something that no member looks into. -/
theorem member_of_other {name : Member} (targets : expr.Interchangeable expr')
    (looked : expr.isLookedInto = false) (looked' : expr'.isLookedInto = false) :
    (Expr.member (some expr) name ty).Interchangeable (.member (some expr') name ty) := by
  refine targets.member ?_ ?_ (fun timed => durations_refused timed ?_ ?_)
    fun _ scope condition => ?_
  · rintro captures ty rfl
    cases looked
  · rintro captures ty rfl
    cases looked'
  · rintro callee method args ty rfl
    cases looked
  · rintro callee method args ty rfl
    cases looked'
  · have refused (target : Expr) (looked : target.isLookedInto = false) :
        memberColumn scope condition (some target) name ty =
          unsupported (.expression (.member (some target) name ty)) := by
      cases target with
      | parameter => cases looked
      | member => cases looked
      | _ => rfl
    rw [refused expr looked, refused expr' looked']
    exact .unsupported _ _

theorem member_of_member {name inner : Member} {outer outer' : Option Expr} {innerTy : Ty}
    (targets : (Expr.member outer inner innerTy).Interchangeable (.member outer' inner innerTy)) :
    (Expr.member (some (.member outer inner innerTy)) name ty).Interchangeable
      (.member (some (.member outer' inner innerTy)) name ty) := by
  refine targets.member nofun nofun (fun timed => durations_refused timed nofun nofun)
    fun _ scope condition => ?_
  rw [memberColumn, memberColumn]
  split
  · exact .refl _
  · exact .unsupported _ _

theorem member_of_call {name : Member} {target target' : Option Expr} {args args' : List Expr}
    {callTy : Ty} (targets : Option.Rel Expr.Interchangeable target target')
    (all : List.Forall₂ Expr.Interchangeable args args') (method : Method) :
    (Expr.member (some (.call target method args callTy)) name ty).Interchangeable
      (.member (some (.call target' method args' callTy)) name ty) := by
  refine (call targets all method).member nofun nofun (fun timed scope condition => ?_)
    fun _ scope condition => .unsupported _ _
  rw [Expr.compile_member, Expr.compile_member]
  unfold Expr.memberForm
  rw [scope.groupKeyOf?_eq_none (by rw [timed]; rfl)]
  simp only [if_pos timed]
  cases durationUnit? name.name with
  | none => exact .unsupported _ _
  | some unit =>
      dsimp only
      cases method.template? with
      | none => exact .unsupported _ _
      | some template =>
          exact (Expr.compileTarget_sameOutcome targets scope).bind fun callee =>
            (Expr.compileAll_sameOutcome all scope).before _

theorem member_of_closure {name : Member} {captures captures' : List Capture} {closureTy : Ty}
    (all : List.Forall₂ Capture.Interchangeable captures captures') :
    (Expr.member (some (.closure captures closureTy)) name ty).Interchangeable
      (.member (some (.closure captures' closureTy)) name ty) := by
  refine of_plain rfl rfl fun scope condition => ?_
  by_cases timed : name.owner = .timeSpan
  · refine durations_refused timed ?_ ?_ scope condition <;> nofun
  · rw [Expr.compile_member, Expr.compile_member]
    unfold Expr.memberForm
    simp only [if_neg timed]
    cases scope.groupKeyOf? name with
    | some key => exact .refl _
    | none => exact Capture.compile_sameOutcome all scope name.name

end Expr.Interchangeable

/-! ### Joins -/

theorem Lambda.Interchangeable.rowField {result result' : Lambda}
    (results : result.Interchangeable result') (side : Nat) :
    Aliases.rowField? result side = Aliases.rowField? result' side := by
  obtain ⟨params, body⟩ := result
  obtain ⟨params', body'⟩ := result'
  obtain rfl : params = params' := results.params
  exact results.body.rowField params side

theorem Join.Interchangeable.resultParam {join join' : Join} (joins : join.Interchangeable join')
    (side : Nat) : Aliases.resultParam join side = Aliases.resultParam join' side := by
  rw [Aliases.resultParam, Aliases.resultParam, joins.result.params]

theorem Join.Interchangeable.bindJoin {join join' : Join} (joins : join.Interchangeable join')
    (aliases : Aliases) : aliases.bindJoin join = aliases.bindJoin join' := by
  rw [Aliases.bindJoin, Aliases.bindJoin, joins.resultParam, joins.result.rowField]

theorem Join.compileAll_sameOutcome {joins joins' : List Join}
    (all : List.Forall₂ Join.Interchangeable joins joins') (scope : Scope) :
    SameOutcome (Join.compileAll scope joins) (Join.compileAll scope joins') := by
  induction all generalizing scope with
  | nil => exact .refl _
  | @cons join join' rest rest' head tail ih =>
      have binds := head.bindJoin scope.aliases
      obtain ⟨kind, source, outerKey, innerKey, result⟩ := join
      obtain ⟨kind', source', outerKey', innerKey', result'⟩ := join'
      obtain rfl : kind = kind' := head.kind
      have selects : keyMember? innerKey = keyMember? innerKey' := head.innerKey
      rw [Join.compileAll, Join.compileAll]
      simp only [binds, selects]
      refine .after _ fun bound => .after _ fun path => ?_
      refine (head.source.compileSource _ path).embed.bind fun source => ?_
      refine (Lambda.compileBody_sameOutcome head.outerKey _).bind fun outer => ?_
      cases keyMember? innerKey' with
      | none => exact .unsupported _ _
      | some member => exact (ih _).before _

theorem Join.compileLast_sameOutcome {joins joins' : List Join}
    (all : List.Forall₂ Join.Interchangeable joins joins') (scope : Scope) :
    SameOutcome (Join.compileLast scope joins) (Join.compileLast scope joins') := by
  induction all with
  | nil => exact .refl _
  | cons head tail ih =>
      cases tail with
      | nil =>
          rw [Join.compileLast_eq, Join.compileLast_eq]
          exact Lambda.compileSelection_sameOutcome head.result scope
      | cons next rest => simpa only [Join.compileLast_eq, List.getLast?_cons_cons] using ih

/-! ### Nodes and queries -/

namespace Select.Interchangeable

variable {node node' : Select}

/-- The lambdas over the source have the same parameters. -/
theorem lambdas_params (nodes : node.Interchangeable node') :
    (Aliases.lambdas node).flatMap (·.params) = (Aliases.lambdas node').flatMap (·.params) := by
  have ofList {functions functions' : List Lambda}
      (all : List.Forall₂ Lambda.Interchangeable functions functions') :
      functions.flatMap (·.params) = functions'.flatMap (·.params) := by
    induction all with
    | nil => rfl
    | cons head tail ih => rw [List.flatMap_cons, List.flatMap_cons, head.params, ih]
  have ofOption {function function' : Option Lambda}
      (functions : Option.Rel Lambda.Interchangeable function function') :
      function.toList.flatMap (·.params) = function'.toList.flatMap (·.params) := by
    cases functions with
    | none => rfl
    | some whole => exact ofList (.cons whole .nil)
  have keys : List.Forall₂ Lambda.Interchangeable (node.orderBy.map (·.key))
      (node'.orderBy.map (·.key)) := by
    rw [List.forall₂_map_left_iff, List.forall₂_map_right_iff]
    exact nodes.orderBy.imp fun _ _ orders => orders.key
  simp only [Aliases.lambdas, List.flatMap_append, ofOption nodes.projection,
    ofOption nodes.groupKey, ofOption nodes.groupElement, ofList nodes.filters, ofList keys]

/-- The first source gets the same alias. -/
theorem bindSource (nodes : node.Interchangeable node') (path : String) :
    Aliases.bindSource path node = Aliases.bindSource path node' := by
  have params := nodes.lambdas_params
  have joins := nodes.joins
  rw [Aliases.bindSource, Aliases.bindSource]
  generalize node.joins = before at joins ⊢
  generalize node'.joins = after at joins ⊢
  cases joins with
  | nil => simp only [params, nodes.modelType]
  | cons head tail => simp only [head.resultParam, head.result.rowField]

/-- The columns come from the projection or from the result of the last join. -/
theorem compileColumns (nodes : node.Interchangeable node') (scope : Scope) :
    SameOutcome (Select.compileColumns scope node.projection node.joins)
      (Select.compileColumns scope node'.projection node'.joins) := by
  have projections := nodes.projection
  generalize node.projection = before at projections ⊢
  generalize node'.projection = after at projections ⊢
  cases projections with
  | some whole => exact Lambda.compileSelection_sameOutcome whole scope
  | none =>
      rw [Select.compileColumns, Select.compileColumns]
      exact Join.compileLast_sameOutcome nodes.joins scope

/-- Nodes with the same clauses compile alike. -/
theorem compile (nodes : node.Interchangeable node') (resolver : Resolver) (path : String) :
    SameOutcome (node.compile resolver path) (node'.compile resolver path) := by
  rw [Select.compile_eq, Select.compile_eq, nodes.bindSource, nodes.skip, nodes.take,
    nodes.distinct]
  refine SameOutcome.toNested (.after _ fun bound => .after _ fun sourcePath => ?_)
  refine (nodes.source.compileSource resolver sourcePath).embed.bind fun source => ?_
  refine (Join.compileAll_sameOutcome nodes.joins _).bind fun joined => ?_
  refine (Lambda.compileAll_sameOutcome nodes.filters _).bind fun filters => ?_
  refine (Lambda.compileGroupKey_sameOutcome nodes.groupKey _).bind fun grouped => ?_
  refine (Lambda.compileAll_sameOutcome nodes.having _).bind fun having => ?_
  refine (Order.compileAll_sameOutcome nodes.orderBy _).bind fun sortKeys => ?_
  exact (nodes.compileColumns _).before _

/-- Either both add nothing to their sources, or neither. -/
theorem isTrivial_eq (nodes : node.Interchangeable node') : node.isTrivial = node'.isTrivial := by
  have ofList {α : Type} {related : α → α → Prop} {items items' : List α}
      (all : List.Forall₂ related items items') : items.isEmpty = items'.isEmpty := by
    cases all <;> rfl
  have ofOption {function function' : Option Lambda}
      (functions : Option.Rel Lambda.Interchangeable function function') :
      function.isNone = function'.isNone := by
    cases functions <;> rfl
  rw [isTrivial, isTrivial, ofList nodes.filters, ofList nodes.having, ofOption nodes.projection,
    ofOption nodes.groupKey, ofList nodes.joins, ofList nodes.orderBy, nodes.skip, nodes.take,
    nodes.distinct]

end Select.Interchangeable

namespace Query.Interchangeable

theorem select {node node' : Select} (nodes : node.Interchangeable node') :
    (Query.select node).Interchangeable (.select node') where
  compile resolver path := by
    rw [Query.compile, Query.compile]
    exact (nodes.compile resolver path).before _
  compileSource resolver path := by
    rw [Query.compileSource_select, Query.compileSource_select, nodes.isTrivial_eq]
    split
    · exact nodes.source.compileSource resolver path
    · exact (nodes.compile resolver path).before _

theorem combine {first first' second second' : Query} (firsts : first.Interchangeable first')
    (seconds : second.Interchangeable second') (op : SetOp) :
    (Query.combine op first second).Interchangeable (.combine op first' second') where
  compile resolver path := by
    rw [Query.compile, Query.compile]
    exact (firsts.compile resolver _).bind fun _ => (seconds.compile resolver _).before _
  compileSource resolver path := by
    rw [Query.compileSource, Query.compileSource]
    exact (firsts.compile resolver _).bind fun _ => (seconds.compile resolver _).before _

/-- Queries that stand for each other have one command, or fail with one class of failure. -/
theorem toCommand {query query' : Query} (queries : query.Interchangeable query')
    (resolver : Resolver) :
    Paired (· = ·) Error.SameKind (query.toCommand resolver) (query'.toCommand resolver) := by
  have outcomes := queries.compile resolver "" 0
  unfold Query.toCommand
  generalize query.compile resolver "" 0 = outcome at outcomes ⊢
  generalize query'.compile resolver "" 0 = outcome' at outcomes ⊢
  cases outcomes with
  | ok same =>
      cases same
      exact .ok rfl
  | error related => exact .error related

end Query.Interchangeable

end TypedQuery
