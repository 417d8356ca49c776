/-
Module: TypedQuery.Proofs.Compilation
Purpose: What the steps of compilation that do not recurse can do. Every proof about
  compilation goes through these statements and leaves the steps themselves closed.
Main exports: bind_eq_ok, binaryTerm_cases, unaryTerm_cases, callTerm_cases, memberColumn_cases,
  Compile.Still, MemberForm, Expr.compile_member, Expr.memberForm_arises,
  Expr.memberForm_of_untimed, Expr.memberForm_of_value, Lambda.compileGroupKey_some,
  Select.compileColumns_eq, Select.compile_eq, Query.compileSource_select
-/
import TypedQuery.Sql.Compile

namespace TypedQuery

namespace Sql

open Compile

/-! ### One step after another -/

section Steps

variable {σ α β : Type} {step : StateT σ (Except Error) α} {next : α → StateT σ (Except Error) β}
  {state : σ}

theorem bind_of_ok {result : α} {state' : σ} (done : step state = .ok (result, state')) :
    (step >>= next) state = next result state' := by
  change (step state >>= fun reached => next reached.1 reached.2) = _
  rw [done]
  rfl

theorem bind_of_error {error : Error} (failed : step state = .error error) :
    (step >>= next) state = .error error := by
  change (step state >>= fun reached => next reached.1 reached.2) = _
  rw [failed]
  rfl

/-- Two steps succeed only if the first does and the second does from there. -/
theorem bind_eq_ok {result : β} {final : σ} (done : (step >>= next) state = .ok (result, final)) :
    ∃ middle state', step state = .ok (middle, state') ∧
      next middle state' = .ok (result, final) := by
  cases first : step state with
  | error error =>
      rw [bind_of_error first] at done
      cases done
  | ok reached =>
      obtain ⟨middle, state'⟩ := reached
      rw [bind_of_ok first] at done
      exact ⟨middle, state', rfl, done⟩

end Steps

theorem liftM_eq_ok {α : Type} {action : Except Error α} {progress progress' : Progress}
    {result : α} (done : (liftM action : Compile α) progress = .ok (result, progress')) :
    action = .ok result := by
  cases action with
  | error error => cases done
  | ok value =>
      cases done
      rfl

theorem toNested_eq_ok {α : Type} {parts : Compile α} {nested nested' : Nat} {result : α}
    {parameters : Parameters}
    (done : toNested parts nested = .ok ((result, parameters), nested')) :
    ∃ progress, parts ⟨nested, .empty⟩ = .ok (result, progress) := by
  unfold toNested at done
  cases outcome : parts ⟨nested, .empty⟩ with
  | error error =>
      rw [outcome] at done
      cases done
  | ok reached =>
      rw [outcome] at done
      cases done
      exact ⟨_, rfl⟩

theorem embed_eq_ok {α : Type} {command : Nested (α × Parameters)} {progress progress' : Progress}
    {result : α} (done : embed command progress = .ok (result, progress')) :
    ∃ parameters nested, command progress.nested = .ok ((result, parameters), nested) := by
  unfold embed at done
  cases outcome : command progress.nested with
  | error error =>
      rw [outcome] at done
      cases done
  | ok reached =>
      rw [outcome] at done
      cases done
      exact ⟨_, _, rfl⟩

/-! ### Forms of single nodes -/

/-- An operator between two operands has its SQL form or is refused. -/
theorem binaryTerm_cases (op : BinaryOp) (left right : Term) :
    (∃ operator, binaryTerm op left right = pure (.binary operator left right)) ∨
      ∃ fragment, binaryTerm op left right = unsupported fragment := by
  unfold binaryTerm
  split
  · exact .inl ⟨_, rfl⟩
  · exact .inr ⟨_, rfl⟩

/-- An operator with one operand is a conversion, a modifier or refused. -/
theorem unaryTerm_cases (op : UnaryOp) (operand : Term) (ty : Ty) :
    (∃ target, unaryTerm op operand ty = pure (.convert target operand)) ∨
      (∃ modifier, unaryTerm op operand ty = pure (.unary modifier operand)) ∨
      ∃ fragment, unaryTerm op operand ty = unsupported fragment := by
  unfold unaryTerm
  split
  · split
    · exact .inl ⟨_, rfl⟩
    · exact .inr (.inr ⟨_, rfl⟩)
  · split
    · exact .inr (.inl ⟨_, rfl⟩)
    · exact .inr (.inr ⟨_, rfl⟩)

/-- A method call fills the method's template or is refused. -/
theorem callTerm_cases (method : Method) (slots : List Term) :
    (∃ template, method.template? = some template ∧
        callTerm method slots = pure (.apply template slots)) ∨
      ∃ fragment, callTerm method slots = unsupported fragment := by
  unfold callTerm
  split
  · exact .inl ⟨_, ‹_›, rfl⟩
  · exact .inr ⟨_, rfl⟩

/-- A member as a column is a column, perhaps compared explicitly, or refused. -/
theorem memberColumn_cases (scope : Scope) (condition : Bool) (target : Option Expr)
    (name : Member) (ty : Ty) :
    (∃ param, target = some (.parameter param) ∧
        memberColumn scope condition target name ty =
          pure (paramColumn scope condition param name ty)) ∨
      (∃ outer inner innerTy table, target = some (.member outer inner innerTy) ∧
        scope.aliases.ofMember? inner = some table ∧
        memberColumn scope condition target name ty =
          pure (.column table (scope.resolver.columnName name))) ∨
      ∃ fragment, memberColumn scope condition target name ty = unsupported fragment := by
  unfold memberColumn
  split
  · exact .inl ⟨_, rfl, rfl⟩
  · split
    · exact .inr (.inl ⟨_, _, _, _, rfl, ‹_›, rfl⟩)
    · exact .inr (.inr ⟨_, rfl⟩)
  · exact .inr (.inr ⟨_, rfl⟩)

/-! ### Steps that leave the state alone -/

/-- A step that neither reads nor changes the state. -/
inductive Compile.Still {α : Type} : Compile α → Prop
  | pure (result : α) : Still (pure result)
  | unsupported (fragment : Fragment) : Still (unsupported fragment)

theorem binaryTerm_still (op : BinaryOp) (left right : Term) :
    Still (binaryTerm op left right) := by
  rcases binaryTerm_cases op left right with ⟨operator, form⟩ | ⟨fragment, form⟩
  · rw [form]
    exact .pure _
  · rw [form]
    exact .unsupported _

theorem unaryTerm_still (op : UnaryOp) (operand : Term) (ty : Ty) :
    Still (unaryTerm op operand ty) := by
  rcases unaryTerm_cases op operand ty with ⟨target, form⟩ | ⟨modifier, form⟩ | ⟨fragment, form⟩
  · rw [form]
    exact .pure _
  · rw [form]
    exact .pure _
  · rw [form]
    exact .unsupported _

theorem callTerm_still (method : Method) (slots : List Term) :
    Still (callTerm method slots) := by
  rcases callTerm_cases method slots with ⟨template, -, form⟩ | ⟨fragment, form⟩
  · rw [form]
    exact .pure _
  · rw [form]
    exact .unsupported _

theorem constructTerm_still (ctor : Constructor) (args : List Term) :
    Still (constructTerm ctor args) := by
  cases ctor with
  | named name => exact .unsupported _
  | _ => exact .pure _

theorem memberColumn_still (scope : Scope) (condition : Bool) (target : Option Expr)
    (name : Member) (ty : Ty) : Still (memberColumn scope condition target name ty) := by
  rcases memberColumn_cases scope condition target name ty with
    ⟨param, -, form⟩ | ⟨outer, inner, innerTy, table, -, -, form⟩ | ⟨fragment, form⟩
  · rw [form]
    exact .pure _
  · rw [form]
    exact .pure _
  · rw [form]
    exact .unsupported _

/-! ### Members

A member is compiled in one of six ways. Which one is settled before anything is
compiled, by the scope, the member and the outermost shape of the target. -/

/-- How a member is compiled. -/
inductive MemberForm
  /-- The key of the groups, compiled before. -/
  | key (term : Term)
  | refused (fragment : Fragment)
  /-- A duration, read off the call that it is a part of. -/
  | duration (unit : String) (template : Template) (callee : Option Expr) (args : List Expr)
  | captured (captures : List Capture)
  /-- A property of the compiled target. -/
  | property (template : Template)
  | column

end Sql

open Sql Sql.Compile

/-- The way in which a member is compiled. -/
def Expr.memberForm (scope : Scope) (target : Option Expr) (name : Member) (ty : Ty) :
    MemberForm :=
  match scope.groupKeyOf? name with
  | some key => .key key
  | none =>
    if name.owner = .timeSpan then
      match durationUnit? name.name, target with
      | some unit, some (.call callee method args _) =>
        match method.template? with
        | some template => .duration unit template callee args
        | none => .refused (.method method)
      | _, other => .refused (.expression (.member other name ty))
    else
      match target with
      | some (.closure captures _) => .captured captures
      | _ =>
        match propertyTemplate? name.owner.kind name.name with
        | some template => .property template
        | none => .column

/-- Compile a member in the way that its form says. -/
def Expr.compileMember (scope : Scope) (condition : Bool) (target : Option Expr) (name : Member)
    (ty : Ty) : MemberForm → Compile Term
  | .key term => return term
  | .refused fragment => unsupported fragment
  | .duration unit template callee args => do
    let callee ← Expr.compileTarget scope callee
    let args ← Expr.compileAll scope args
    return durationTerm ty (.apply template (.word unit :: callee :: args))
  | .captured captures => Capture.compile scope name.name captures
  | .property template => do
    let callee ← Expr.compileTarget scope target
    return .apply template [callee]
  | .column => memberColumn scope condition target name ty

/-- A member is compiled as its form says. -/
theorem Expr.compile_member (scope : Scope) (condition : Bool) (target : Option Expr)
    (name : Member) (ty : Ty) :
    (Expr.member target name ty).compile scope condition =
      Expr.compileMember scope condition target name ty (Expr.memberForm scope target name ty) := by
  rw [Expr.compile.eq_def]
  unfold Expr.memberForm
  dsimp only
  cases scope.groupKeyOf? name with
  | some key => rfl
  | none =>
      by_cases timed : name.owner = .timeSpan
      · simp only [if_pos timed]
        cases durationUnit? name.name with
        | none => rfl
        | some unit =>
            cases target with
            | none => rfl
            | some expr =>
                cases expr with
                | call callee method args ty =>
                    dsimp only
                    cases method.template? <;> rfl
                | _ => rfl
      · simp only [if_neg timed]
        cases target with
        | none =>
            dsimp only
            cases propertyTemplate? name.owner.kind name.name <;> rfl
        | some expr =>
            cases expr with
            | closure captures ty => rfl
            | _ =>
                dsimp only
                cases propertyTemplate? name.owner.kind name.name <;> rfl

/-- What has to be the case for a member to be compiled in a way. -/
inductive Sql.MemberForm.Arises (scope : Scope) (target : Option Expr) (name : Member) :
    MemberForm → Prop
  | key {term : Term} (keyed : scope.groupKeyOf? name = some term) :
      Arises scope target name (.key term)
  | refused (fragment : Fragment) : Arises scope target name (.refused fragment)
  | duration {unit : String} {template : Template} {callee : Option Expr} {method : Method}
      {args : List Expr} {ty : Ty} (unkeyed : scope.groupKeyOf? name = none)
      (timed : name.owner = .timeSpan) (isUnit : durationUnit? name.name = some unit)
      (isCall : target = some (.call callee method args ty))
      (found : method.template? = some template) :
      Arises scope target name (.duration unit template callee args)
  | captured {captures : List Capture} {ty : Ty} (unkeyed : scope.groupKeyOf? name = none)
      (untimed : name.owner ≠ .timeSpan) (isClosure : target = some (.closure captures ty)) :
      Arises scope target name (.captured captures)
  | property {template : Template} (unkeyed : scope.groupKeyOf? name = none)
      (untimed : name.owner ≠ .timeSpan)
      (notClosure : ∀ captures ty, target ≠ some (.closure captures ty))
      (found : propertyTemplate? name.owner.kind name.name = some template) :
      Arises scope target name (.property template)
  | column (unkeyed : scope.groupKeyOf? name = none) (untimed : name.owner ≠ .timeSpan)
      (notClosure : ∀ captures ty, target ≠ some (.closure captures ty))
      (none : propertyTemplate? name.owner.kind name.name = none) :
      Arises scope target name .column

theorem Expr.memberForm_arises (scope : Scope) (target : Option Expr) (name : Member) (ty : Ty) :
    (Expr.memberForm scope target name ty).Arises scope target name := by
  unfold Expr.memberForm
  cases keyed : scope.groupKeyOf? name with
  | some term => exact .key keyed
  | none =>
      by_cases timed : name.owner = .timeSpan
      · simp only [if_pos timed]
        split
        · split
          · exact .duration keyed timed ‹_› rfl ‹_›
          · exact .refused _
        · exact .refused _
      · simp only [if_neg timed]
        split
        · exact .captured keyed timed rfl
        · split
          · exact .property keyed timed ‹_› ‹_›
          · exact .column keyed timed ‹_› ‹_›

theorem Sql.Scope.groupKeyOf?_eq_none (scope : Scope) {name : Member}
    (isNoGroup : name.owner.isGroup = false) : scope.groupKeyOf? name = none := by
  simp [groupKeyOf?, isNoGroup]

theorem Sql.Scope.groupKeyOf?_mem (scope : Scope) {name : Member} {key : Term}
    (isKey : scope.groupKeyOf? name = some key) : key ∈ scope.groupKey := by
  unfold groupKeyOf? at isKey
  split at isKey
  · exact isKey
  · cases isKey

/-- A member that is no duration, of a target that is no environment: the key of the groups, a
property or a column. -/
theorem Expr.memberForm_of_untimed (scope : Scope) {target : Expr} {name : Member} (ty : Ty)
    (untimed : name.owner ≠ .timeSpan)
    (notClosure : ∀ captures ty, target ≠ .closure captures ty) :
    Expr.memberForm scope (some target) name ty =
      match scope.groupKeyOf? name with
      | some key => .key key
      | none =>
        match propertyTemplate? name.owner.kind name.name with
        | some template => .property template
        | none => .column := by
  unfold Expr.memberForm
  rw [if_neg untimed]
  cases target with
  | closure captures ty => exact absurd rfl (notClosure captures ty)
  | _ => rfl

/-- A member of a value is a property where the catalogue has it, else a column; groups,
durations and environments apart. -/
theorem Expr.memberForm_of_value (scope : Scope) {target : Expr} {name : Member} (ty : Ty)
    (isNoGroup : name.owner.isGroup = false) (untimed : name.owner ≠ .timeSpan)
    (notClosure : ∀ captures ty, target ≠ .closure captures ty) :
    Expr.memberForm scope (some target) name ty =
      match propertyTemplate? name.owner.kind name.name with
      | some template => .property template
      | none => .column := by
  rw [Expr.memberForm_of_untimed scope ty untimed notClosure, scope.groupKeyOf?_eq_none isNoGroup]

/-- What holds of the parts of a member's target that may be compiled without it:
the callee and the arguments of a call, the captures of an environment. -/
def Expr.TargetParts (call : Option Expr → List Expr → Prop) (captured : List Capture → Prop) :
    Option Expr → Prop
  | some (.call callee _ args _) => call callee args
  | some (.closure captures _) => captured captures
  | _ => True

namespace Expr.TargetParts

variable {call : Option Expr → List Expr → Prop} {captured : List Capture → Prop}
  {scope : Scope} {target : Option Expr} {name : Member} {ty : Ty}

/-- The parts of a duration come from its target. -/
theorem duration (parts : Expr.TargetParts call captured target) {unit : String}
    {template : Template} {callee : Option Expr} {args : List Expr}
    (form : Expr.memberForm scope target name ty = .duration unit template callee args) :
    call callee args := by
  have arises := Expr.memberForm_arises scope target name ty
  rw [form] at arises
  cases arises with
  | duration unkeyed timed isUnit isCall found =>
      rw [isCall] at parts
      exact parts

/-- The captures that a variable is looked up in are the target's. -/
theorem captures (parts : Expr.TargetParts call captured target) {captures : List Capture}
    (form : Expr.memberForm scope target name ty = .captured captures) : captured captures := by
  have arises := Expr.memberForm_arises scope target name ty
  rw [form] at arises
  cases arises with
  | captured unkeyed untimed isClosure =>
      rw [isClosure] at parts
      exact parts

end Expr.TargetParts

/-! ### Grouping -/

/-- The expressions that a key groups by: the fields of a row, or the key itself. -/
def Expr.groupFields : Expr → List Expr
  | .construct (.record _) args _ => args
  | key => [key]

/-- The term that stands for a key as a whole: none for a row, whose fields are grouped by one
by one. -/
def Expr.keyTerm? (terms : List Term) : Expr → Option Term
  | .construct (.record _) _ _ => none
  | _ => terms.head?

/-- A grouping clause compiles the expressions that its key groups by. -/
theorem Lambda.compileGroupKey_some (scope : Scope) (key : Lambda) :
    Lambda.compileGroupKey scope (some key) = (do
      let terms ← Expr.compileAll scope key.body.groupFields
      return (some terms,
        { scope with groupKey := (key.body.keyTerm? terms).or scope.groupKey })) := by
  obtain ⟨params, body⟩ := key
  have single (expr : Expr) : Expr.compileAll scope [expr] =
      (do let term ← expr.compile scope false
          return [term]) := by
    simp [Expr.compileAll]
  cases body with
  | construct ctor args ty =>
      cases ctor with
      | record names => rfl
      | _ => simp [Lambda.compileGroupKey, Expr.groupFields, Expr.keyTerm?, single]
  | _ => simp [Lambda.compileGroupKey, Expr.groupFields, Expr.keyTerm?, single]

/-! ### Select nodes -/

/-- Compile the columns of a node: its projection, or else the result of the last
join. -/
def Select.compileColumns (scope : Scope) (projection : Option Lambda) (joins : List Join) :
    Compile Selection :=
  match projection with
  | some function => Lambda.compileSelection scope function
  | none => Join.compileLast scope joins

theorem Join.compileLast_eq (scope : Scope) : ∀ joins : List Join,
    Join.compileLast scope joins =
      match joins.getLast? with
      | some join => Lambda.compileSelection scope join.result
      | none => return .all
  | [] => rfl
  | [⟨kind, source, outerKey, innerKey, result⟩] => rfl
  | _ :: join :: rest => by
      rw [Join.compileLast, Join.compileLast_eq scope (join :: rest), List.getLast?_cons_cons]

/-- The columns of a node are those of one lambda, or all. -/
theorem Select.compileColumns_eq (scope : Scope) (projection : Option Lambda)
    (joins : List Join) :
    Select.compileColumns scope projection joins =
      match projection.or (joins.getLast?.map (·.result)) with
      | some function => Lambda.compileSelection scope function
      | none => return .all := by
  cases projection with
  | some function => rfl
  | none =>
      rw [Select.compileColumns, Join.compileLast_eq]
      cases joins.getLast? with
      | some join => rfl
      | none => rfl

/-- A select node is compiled clause by clause. -/
theorem Select.compile_eq (resolver : Resolver) (path : String) (node : Select) :
    node.compile resolver path = toNested (do
      let (table, aliases) ← (Aliases.bindSource path node : Except Error _)
      let scope : Scope := ⟨resolver, path, aliases, none⟩
      let sourcePath ← nextPath scope
      let source ← embed (node.source.compileSource resolver sourcePath)
      let (joinClauses, scope) ← Join.compileAll scope node.joins
      let filterTerms ← Lambda.compileAll scope node.filters
      let (groupBy, scope) ← Lambda.compileGroupKey scope node.groupKey
      let havingTerms ← Lambda.compileAll scope node.having
      let sortKeys ← Order.compileAll scope node.orderBy
      let selection ← Select.compileColumns scope node.projection node.joins
      return {
        distinct := node.distinct
        selection := selection
        source := source
        table := table
        joins := joinClauses
        filters := filterTerms
        groupBy := groupBy
        having := havingTerms
        orderBy := sortKeys
        skip := node.skip
        take := node.take }) := by
  obtain ⟨source, modelType, filters, having, projection, groupKey, groupElement, joins, orderBy,
    skip, take, distinct, stage⟩ := node
  cases projection with
  | none => rfl
  | some function => rfl

/-- A node as a source is its own source if it adds nothing, else a derived table. -/
theorem Query.compileSource_select (resolver : Resolver) (path : String) (node : Select) :
    (Query.select node).compileSource resolver path =
      if node.isTrivial then node.source.compileSource resolver path
      else do
        let (body, parameters) ← node.compile resolver path
        return (.derived (.select body), parameters) := by
  cases node
  rw [Query.compileSource]

end TypedQuery
