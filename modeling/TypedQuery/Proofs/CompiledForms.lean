/-
Module: TypedQuery.Proofs.CompiledForms
Purpose: What one node of an expression is compiled to. One case per form of term says what the
  node has to be and what its parts were compiled to, so that a statement about compiled terms is a
  case analysis that leaves the compiler closed.
Main exports: Sql.Scope.TargetGives, Sql.Scope.Makes, Sql.Scope.GivesAs.makes
-/
import TypedQuery.Proofs.RenderedParts

namespace TypedQuery

open Sql Sql.Compile

namespace Sql.Scope

/-- The term is what the target of a call is compiled to; a call without a target has an empty
place for it. -/
inductive TargetGives (scope : Scope) : Option Expr → Term → Prop
  | missing : TargetGives scope none .nothing
  | given {target : Expr} {term : Term} (gives : scope.GivesAs false target term) :
      TargetGives scope (some target) term

/-- The term is what the node is compiled to, from what its parts are compiled to. -/
inductive Makes (scope : Scope) (condition : Bool) : Expr → Term → Prop
  | binary {op : BinaryOp} {left right : Expr} {ty : Ty} {operator : Operator}
      {leftTerm rightTerm : Term}
      (found : op.sqlOperator? (leftTerm.isNull || rightTerm.isNull) = some operator)
      (ofLeft : scope.GivesAs ty.isBool left leftTerm)
      (ofRight : scope.GivesAs ty.isBool right rightTerm) :
      Makes scope condition (.binary op left right ty) (.binary operator leftTerm rightTerm)
  | convert {operand : Expr} {ty : Ty} {target : SqlType} {operandTerm : Term}
      (found : ty.sqlType? = some target)
      (ofOperand : scope.GivesAs ty.isBool operand operandTerm) :
      Makes scope condition (.unary .convert operand ty) (.convert target operandTerm)
  | unary {op : UnaryOp} {operand : Expr} {ty : Ty} {modifier : Modifier} {operandTerm : Term}
      (found : op.sqlModifier? = some modifier)
      (ofOperand : scope.GivesAs ty.isBool operand operandTerm) :
      Makes scope condition (.unary op operand ty) (.unary modifier operandTerm)
  | conditional {test ifTrue ifFalse : Expr} {ty : Ty} {testTerm trueTerm falseTerm : Term}
      (ofTest : scope.GivesAs true test testTerm) (ofTrue : scope.GivesAs false ifTrue trueTerm)
      (ofFalse : scope.GivesAs false ifFalse falseTerm) :
      Makes scope condition (.conditional test ifTrue ifFalse ty) (.iif testTerm trueTerm falseTerm)
  /-- The key of the groups, compiled before. -/
  | key {target : Option Expr} {name : Member} {ty : Ty} {key : Term}
      (isKey : scope.groupKeyOf? name = some key) :
      Makes scope condition (.member target name ty) key
  /-- A duration fills the template of the call that it is read off, behind its unit. -/
  | duration {callee : Option Expr} {method : Method} {args : List Expr} {callTy : Ty}
      {name : Member} {ty : Ty} {unit : String} {template : Template} {calleeTerm : Term}
      {terms : List Term} (timed : name.owner = .timeSpan)
      (isUnit : durationUnit? name.name = some unit) (found : method.template? = some template)
      (ofCallee : scope.TargetGives callee calleeTerm)
      (ofArgs : List.Forall₂ (scope.GivesAs false) args terms) :
      Makes scope condition (.member (some (.call callee method args callTy)) name ty)
        (durationTerm ty (.apply template (.word unit :: calleeTerm :: terms)))
  | captured {captures : List Capture} {closureTy : Ty} {name : Member} {ty : Ty} {term : Term}
      {progress progress' : Progress} (untimed : name.owner ≠ .timeSpan)
      (done : Capture.compile scope name.name captures progress = .ok (term, progress')) :
      Makes scope condition (.member (some (.closure captures closureTy)) name ty) term
  | property {target : Option Expr} {name : Member} {ty : Ty} {template : Template}
      {calleeTerm : Term} (untimed : name.owner ≠ .timeSpan)
      (notClosure : ∀ captures closureTy, target ≠ some (.closure captures closureTy))
      (found : propertyTemplate? name.owner.kind name.name = some template)
      (ofTarget : scope.TargetGives target calleeTerm) :
      Makes scope condition (.member target name ty) (.apply template [calleeTerm])
  | column (param : Param) {name : Member} (ty : Ty) (untimed : name.owner ≠ .timeSpan)
      (noProperty : propertyTemplate? name.owner.kind name.name = none) :
      Makes scope condition (.member (some (.parameter param)) name ty)
        (paramColumn scope condition param name ty)
  /-- A column of a row that a field keeps. -/
  | keptColumn {outer : Option Expr} {inner name : Member} {innerTy ty : Ty} {table : String}
      (untimed : name.owner ≠ .timeSpan)
      (noProperty : propertyTemplate? name.owner.kind name.name = none)
      (isTable : scope.aliases.ofMember? inner = some table) :
      Makes scope condition (.member (some (.member outer inner innerTy)) name ty)
        (.column table (scope.resolver.columnName name))
  | call {target : Option Expr} {method : Method} {args : List Expr} {ty : Ty}
      {template : Template} {calleeTerm : Term} {terms : List Term}
      (found : method.template? = some template) (ofTarget : scope.TargetGives target calleeTerm)
      (ofArgs : List.Forall₂ (scope.GivesAs false) args terms) :
      Makes scope condition (.call target method args ty) (.apply template (calleeTerm :: terms))
  | record {names : List String} {args : List Expr} {ty : Ty} {terms : List Term}
      (ofArgs : List.Forall₂ (scope.GivesAs false) args terms) :
      Makes scope condition (.construct (.record names) args ty) (.columns (label terms names))
  | dateTime {args : List Expr} {ty : Ty} {terms : List Term}
      (ofArgs : List.Forall₂ (scope.GivesAs false) args terms) :
      Makes scope condition (.construct .dateTime args ty) (.dateTime (padParts terms))
  | random (args : List Expr) (ty : Ty) :
      Makes scope condition (.construct .random args ty) .nothing
  | null (ty : Ty) : Makes scope condition (.constant .null ty) .null
  | literal {value : Value} (notNull : value ≠ .null) (ty : Ty) (index : Nat) :
      Makes scope condition (.constant value ty)
        (.placeholder ("@" ++ scope.path ++ "p" ++ toString index))
  | row (param : Param) :
      Makes scope condition (.parameter param) (.row (scope.aliases.ofParam param))
  /-- A lambda is compiled to what its body is compiled to, as a value. -/
  | lambda {params : List Param} {body : Expr} {term : Term}
      (ofBody : scope.GivesAs false body term) :
      Makes scope condition (.lambda ⟨params, body⟩) term

namespace TargetGives

theorem of_compileTarget {scope : Scope} {target : Option Expr} {term : Term}
    {progress progress' : Progress}
    (done : Expr.compileTarget scope target progress = .ok (term, progress')) :
    scope.TargetGives target term := by
  cases target with
  | none =>
      rw [Expr.compileTarget] at done
      cases done
      exact .missing
  | some target =>
      rw [Expr.compileTarget] at done
      exact .given ⟨_, _, done⟩

end TargetGives

namespace GivesAs

variable {scope : Scope} {condition : Bool} {term : Term} {ty : Ty}

theorem makes_binary {op : BinaryOp} {left right : Expr}
    (gives : scope.GivesAs condition (.binary op left right ty) term) :
    scope.Makes condition (.binary op left right ty) term := by
  obtain ⟨progress, progress', done⟩ := gives
  rw [Expr.compile] at done
  obtain ⟨leftTerm, _, ofLeft, done⟩ := bind_eq_ok done
  obtain ⟨rightTerm, _, ofRight, done⟩ := bind_eq_ok done
  rw [binaryTerm] at done
  cases found : op.sqlOperator? (leftTerm.isNull || rightTerm.isNull) with
  | none =>
      simp only [found] at done
      cases done
  | some operator =>
      simp only [found] at done
      cases done
      exact .binary found ⟨_, _, ofLeft⟩ ⟨_, _, ofRight⟩

theorem makes_unary {op : UnaryOp} {operand : Expr}
    (gives : scope.GivesAs condition (.unary op operand ty) term) :
    scope.Makes condition (.unary op operand ty) term := by
  obtain ⟨progress, progress', done⟩ := gives
  rw [Expr.compile] at done
  obtain ⟨operandTerm, _, ofOperand, done⟩ := bind_eq_ok done
  rw [unaryTerm] at done
  by_cases isConvert : op = .convert
  · subst isConvert
    rw [if_pos rfl] at done
    cases found : ty.sqlType? with
    | none =>
        simp only [found] at done
        cases done
    | some target =>
        simp only [found] at done
        cases done
        exact .convert found ⟨_, _, ofOperand⟩
  · rw [if_neg isConvert] at done
    cases found : op.sqlModifier? with
    | none =>
        simp only [found] at done
        cases done
    | some modifier =>
        simp only [found] at done
        cases done
        exact .unary found ⟨_, _, ofOperand⟩

theorem makes_member {target : Option Expr} {name : Member}
    (gives : scope.GivesAs condition (.member target name ty) term) :
    scope.Makes condition (.member target name ty) term := by
  obtain ⟨progress, progress', done⟩ := gives
  have arises := Expr.memberForm_arises scope target name ty
  rw [Expr.compile_member] at done
  generalize Expr.memberForm scope target name ty = form at done arises
  cases arises with
  | key keyed =>
      cases done
      exact .key keyed
  | refused fragment => cases done
  | duration unkeyed timed isUnit isCall found =>
      subst isCall
      obtain ⟨calleeTerm, _, ofCallee, done⟩ := bind_eq_ok done
      obtain ⟨terms, _, ofArgs, done⟩ := bind_eq_ok done
      cases done
      exact .duration timed isUnit found (.of_compileTarget ofCallee) (all ofArgs)
  | captured unkeyed untimed isClosure =>
      subst isClosure
      exact .captured untimed done
  | property unkeyed untimed notClosure found =>
      obtain ⟨calleeTerm, _, ofTarget, done⟩ := bind_eq_ok done
      cases done
      exact .property untimed notClosure found (.of_compileTarget ofTarget)
  | column unkeyed untimed notClosure noProperty =>
      rw [Expr.compileMember] at done
      rcases memberColumn_cases scope condition target name ty with
        ⟨param, rfl, form⟩ | ⟨outer, inner, innerTy, table, rfl, isTable, form⟩ | ⟨fragment, form⟩
      · rw [form] at done
        cases done
        exact .column param ty untimed noProperty
      · rw [form] at done
        cases done
        exact .keptColumn untimed noProperty isTable
      · rw [form] at done
        cases done

theorem makes_call {target : Option Expr} {method : Method} {args : List Expr}
    (gives : scope.GivesAs condition (.call target method args ty) term) :
    scope.Makes condition (.call target method args ty) term := by
  obtain ⟨progress, progress', done⟩ := gives
  rw [Expr.compile] at done
  obtain ⟨calleeTerm, _, ofTarget, done⟩ := bind_eq_ok done
  obtain ⟨terms, _, ofArgs, done⟩ := bind_eq_ok done
  rcases callTerm_cases method (calleeTerm :: terms) with ⟨template, found, form⟩ | ⟨fragment, form⟩
  · rw [form] at done
    cases done
    exact .call found (.of_compileTarget ofTarget) (all ofArgs)
  · rw [form] at done
    cases done

theorem makes_construct {ctor : Constructor} {args : List Expr}
    (gives : scope.GivesAs condition (.construct ctor args ty) term) :
    scope.Makes condition (.construct ctor args ty) term := by
  obtain ⟨progress, progress', done⟩ := gives
  rw [Expr.compile] at done
  obtain ⟨terms, _, ofArgs, done⟩ := bind_eq_ok done
  cases ctor with
  | record names =>
      cases done
      exact .record (all ofArgs)
  | dateTime =>
      cases done
      exact .dateTime (all ofArgs)
  | random =>
      cases done
      exact .random args ty
  | named name => cases done

/-- Whatever an expression is compiled to, its outermost node makes it. -/
theorem makes {expr : Expr} (gives : scope.GivesAs condition expr term) :
    scope.Makes condition expr term := by
  cases expr with
  | binary op left right ty => exact gives.makes_binary
  | unary op operand ty => exact gives.makes_unary
  | member target name ty => exact gives.makes_member
  | call target method args ty => exact gives.makes_call
  | construct ctor args ty => exact gives.makes_construct
  | conditional test ifTrue ifFalse ty =>
      obtain ⟨testTerm, trueTerm, falseTerm, rfl, ofTest, ofTrue, ofFalse⟩ := gives.conditional
      exact .conditional ofTest ofTrue ofFalse
  | constant value ty =>
      obtain ⟨progress, progress', done⟩ := gives
      cases value with
      | null =>
          cases done
          exact .null ty
      | _ =>
          cases done
          exact .literal (by simp) ty _
  | closure captures ty =>
      obtain ⟨progress, progress', done⟩ := gives
      cases done
  | parameter param =>
      obtain ⟨progress, progress', done⟩ := gives
      cases done
      exact .row param
  | lambda function =>
      obtain ⟨params, body⟩ := function
      exact .lambda gives.lambda

end GivesAs

end Sql.Scope

end TypedQuery
