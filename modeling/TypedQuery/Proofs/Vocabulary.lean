/-
Module: TypedQuery.Proofs.Vocabulary
Purpose: The vocabulary of expressions and the catalogue of SQL forms agree. What the combinators
  make of columns, literals and captured values is compiled in every state, unless it contains one
  of three operators, a conversion or a text form that SQL does not have; then it is given up as
  unsupported.
Main exports: Expr.InVocabulary, Expr.Contains, Expr.Unmapped, Sql.Compile.SucceedsIff,
  Expr.Settled, Expr.InVocabulary.settled, Expr.InVocabulary.compile_ok_iff
-/
import TypedQuery.Expr.Closure
import TypedQuery.Expr.Combinators
import TypedQuery.Proofs.JoinChains

namespace TypedQuery

open Sql Sql.Compile

/-! ### The vocabulary -/

namespace Expr

/-- Words that stand for themselves. -/
def constantWords : List Expr := [now, utcNow, today, newRandom]

/-- Operators with one operand; conversions, which name a type as well, apart. -/
def modifierWords : List (Expr → Expr) := [negation, negative]

/-- Methods without arguments, of strings and of generators of random numbers. -/
def bareMethodWords : List (Expr → Expr) :=
  [trim, trimStart, trimEnd, toUpper, toLower, nextDouble]

/-- Properties of strings and of points in time. -/
def propertyWords : List (Expr → Expr) :=
  [length, year, month, day, dayOfWeek, dayOfYear, hour, minute, second, millisecond]

/-- Words that read a value off a text. -/
def parserWords : List (Expr → Expr) :=
  [parseInt, parseLong, parseDouble, parseDecimal, parseDateTime]

/-- Mathematical functions that are defined on several kinds of numbers. -/
def numberWords : List (Expr → Expr) := [Math.abs, Math.sign, Math.ceiling, Math.floor]

/-- Mathematical functions of one double. -/
def doubleWords : List (Expr → Expr) :=
  [Math.acos, Math.asin, Math.atan, Math.cos, Math.tan, Math.exp, Math.log, Math.log10, Math.sqrt]

/-- All words with one operand. -/
def unaryWords : List (Expr → Expr) :=
  toText :: (modifierWords ++ bareMethodWords ++ propertyWords ++ parserWords ++ numberWords ++
    doubleWords)

/-- Operators between two operands. -/
def operatorWords : List (Expr → Expr → Expr) :=
  [equals, notEquals, lessThan, lessOrEqual, greaterThan, greaterOrEqual, both, either, coalesce,
    add, subtractNumber, multiply, divide, remainder, bitAnd, bitOr, bitXor]

/-- Methods with one argument, of strings, points in time and generators of random numbers. -/
def methodWords : List (Expr → Expr → Expr) :=
  [startsWith, indexOf, subtract, addDays, addMonths, addYears, addHours, addMinutes, addSeconds,
    addMilliseconds, next]

/-- Mathematical functions of two doubles. -/
def pairWords : List (Expr → Expr → Expr) := [Math.atan2, Math.pow]

/-- All words with two operands. -/
def binaryWords : List (Expr → Expr → Expr) :=
  contains :: Math.round :: (operatorWords ++ methodWords ++ pairWords)

/-- All words with three operands. -/
def ternaryWords : List (Expr → Expr → Expr → Expr) := [substring, replace, iif]

/-- Words that read a length of time in some unit. -/
def durationWords : List (Expr → Expr) :=
  [days, totalDays, totalHours, totalMinutes, totalSeconds, totalMilliseconds]

/-- Expressions that the combinators make of columns of rows, literals and captured values. A length
of time is read off a subtraction. -/
inductive InVocabulary : Expr → Prop
  | column {param : Param} {row : Model} (isRow : param.ty = .model row) (name : String) :
      InVocabulary ((Expr.parameter param).field name)
  | constant (value : Value) (ty : Ty) : InVocabulary (.constant value ty)
  | captured {closure : Closure} {name held : String} {value : Value}
      (isValue : closure.get? name = some (.value held value)) : InVocabulary (closure.var name)
  | word {word : Expr} (isWord : word ∈ constantWords) : InVocabulary word
  | unary {word : Expr → Expr} (isWord : word ∈ unaryWords) {operand : Expr}
      (known : InVocabulary operand) : InVocabulary (word operand)
  | binary {word : Expr → Expr → Expr} (isWord : word ∈ binaryWords) {left right : Expr}
      (knownLeft : InVocabulary left) (knownRight : InVocabulary right) :
      InVocabulary (word left right)
  | ternary {word : Expr → Expr → Expr → Expr} (isWord : word ∈ ternaryWords)
      {first second third : Expr} (knownFirst : InVocabulary first)
      (knownSecond : InVocabulary second) (knownThird : InVocabulary third) :
      InVocabulary (word first second third)
  | cast {operand : Expr} (known : InVocabulary operand) (ty : Ty) :
      InVocabulary (operand.cast ty)
  | newDateTime {parts : List Expr} (known : ∀ part ∈ parts, InVocabulary part) :
      InVocabulary (newDateTime parts)
  | duration {word : Expr → Expr} (isWord : word ∈ durationWords) {later earlier : Expr}
      (knownLater : InVocabulary later) (knownEarlier : InVocabulary earlier) :
      InVocabulary (word (later.subtract earlier))

/-! ### Parts without an SQL form -/

/-- Expressions right below an expression. -/
def parts : Expr → List Expr
  | .member target _ _ => target.toList
  | .constant _ _ | .closure _ _ | .parameter _ => []
  | .unary _ operand _ => [operand]
  | .binary _ left right _ => [left, right]
  | .conditional test ifTrue ifFalse _ => [test, ifTrue, ifFalse]
  | .call target _ args _ => target.toList ++ args
  | .construct _ args _ => args
  | .lambda function => [function.body]

/-- The part stands somewhere in the expression, or is the expression itself. -/
inductive Contains : Expr → Expr → Prop
  | whole (expr : Expr) : Contains expr expr
  | under {expr operand part : Expr} (isPart : operand ∈ expr.parts)
      (inside : Contains operand part) : Contains expr part

/-- Operators that SQL does not have. -/
def unmappedOperators : List BinaryOp := [.modulo, .bitXor, .coalesce]

/-- Types that conversions lead to. -/
def castTargets : List Ty := [.int, .long, .float, .double, .string, .dateTime, .decimal]

/-- Types whose values have a text form. -/
def textTypes : List Ty := [.int, .long, .double, .decimal]

/-- The outermost node has no SQL form: an operator, a conversion to a type, or the text form of an
operand of a type that SQL does not have. -/
def Unmapped : Expr → Prop
  | .binary op _ _ _ => op ∈ unmappedOperators
  | .unary op _ ty => op = .convert ∧ ty ∉ castTargets
  | .call target method _ _ =>
    method.name = "ToString" ∧ ∃ operand ∈ target, operand.ty ∉ textTypes
  | _ => False

/-- No part of the expression lacks an SQL form. -/
def Mapped (expr : Expr) : Prop := ∀ part, expr.Contains part → ¬ part.Unmapped

theorem mapped_iff {expr : Expr} :
    expr.Mapped ↔ ¬ expr.Unmapped ∧ ∀ part ∈ expr.parts, part.Mapped := by
  constructor
  · intro mapped
    refine ⟨mapped expr (.whole expr), ?_⟩
    intro part isPart inner inside
    exact mapped inner (.under isPart inside)
  · rintro ⟨own, below⟩ part contained
    cases contained with
    | whole => exact own
    | under isPart inside => exact below _ isPart part inside

theorem mapped_of_parts_nil {expr : Expr} (isMapped : ¬ expr.Unmapped) (isLeaf : expr.parts = []) :
    expr.Mapped :=
  mapped_iff.2 ⟨isMapped, by simp [isLeaf]⟩

theorem mapped_member {target : Expr} (mapped : target.Mapped) (name : Member) (ty : Ty) :
    (Expr.member (some target) name ty).Mapped :=
  mapped_iff.2 ⟨id, by simpa [parts] using mapped⟩

end Expr

/-! ### Steps that succeed on a condition -/

namespace Sql.Compile

variable {α β : Type}

/-- From every state, the step succeeds if the condition holds, and else gives up on a fragment
without an SQL form. -/
def SucceedsIff (step : Compile α) (condition : Prop) : Prop :=
  ∀ progress, (condition → ∃ result, step progress = .ok result) ∧
    (¬ condition → ∃ fragment, step progress = .error (.unsupported fragment))

namespace SucceedsIff

theorem pure {condition : Prop} (holds : condition) (result : α) :
    SucceedsIff (Pure.pure result) condition :=
  fun progress => ⟨fun _ => ⟨(result, progress), rfl⟩, fun fails => absurd holds fails⟩

theorem unsupported {condition : Prop} (fails : ¬ condition) (fragment : Fragment) :
    SucceedsIff (Compile.unsupported fragment : Compile α) condition :=
  fun _ => ⟨fun holds => absurd holds fails, fun _ => ⟨fragment, rfl⟩⟩

theorem bindValue {condition : Prop} (holds : condition) (scope : Scope) (value : Value) :
    SucceedsIff (Compile.bindValue scope value) condition :=
  fun _ => ⟨fun _ => ⟨_, rfl⟩, fun fails => absurd holds fails⟩

theorem congr {step : Compile α} {condition condition' : Prop}
    (succeeds : SucceedsIff step condition) (same : condition ↔ condition') :
    SucceedsIff step condition' := by
  rw [← propext same]
  exact succeeds

/-- Two steps succeed if the first does on its condition, and the second on its own. -/
theorem bind {step : Compile α} {next : α → Compile β} {first second : Prop}
    (head : SucceedsIff step first) (tail : ∀ result, SucceedsIff (next result) second) :
    SucceedsIff (step >>= next) (first ∧ second) := by
  intro progress
  by_cases holds : first
  · obtain ⟨⟨result, progress'⟩, done⟩ := (head progress).1 holds
    rw [bind_of_ok done]
    obtain ⟨succeeds, fails⟩ := tail result progress'
    exact ⟨fun both => succeeds both.2, fun notBoth => fails fun second => notBoth ⟨holds, second⟩⟩
  · obtain ⟨fragment, failed⟩ := (head progress).2 holds
    rw [bind_of_error failed]
    exact ⟨fun both => absurd both.1 holds, fun _ => ⟨fragment, rfl⟩⟩

end SucceedsIff

end Sql.Compile

/-! ### The catalogue -/

theorem BinaryOp.isSome_sqlOperator? (op : BinaryOp) (anyNull : Bool) :
    (op.sqlOperator? anyNull).isSome ↔ op ∉ Expr.unmappedOperators := by
  cases op <;> simp [sqlOperator?, Expr.unmappedOperators]

theorem Ty.isSome_sqlType? (ty : Ty) : ty.sqlType?.isSome ↔ ty ∈ Expr.castTargets := by
  cases ty with
  | scalar kind => cases kind <;> simp [sqlType?, Expr.castTargets]
  | _ => simp [sqlType?, Expr.castTargets]

theorem Expr.isSome_textTemplate? (ty : Ty) :
    (⟨textOwner ty, "ToString", []⟩ : Method).template?.isSome ↔ ty ∈ textTypes := by
  have noText : (⟨.string, "ToString", []⟩ : Method).template?.isSome = false := by decide
  cases ty with
  | scalar kind => cases kind <;> simp [textOwner, textTypes, noText] <;> decide
  | _ => simp [textOwner, textTypes, noText]

namespace Sql.Compile.SucceedsIff

theorem binaryTerm (op : BinaryOp) (left right : Term) :
    SucceedsIff (Sql.binaryTerm op left right) (op ∉ Expr.unmappedOperators) := by
  rw [← op.isSome_sqlOperator? (left.isNull || right.isNull), Sql.binaryTerm]
  cases op.sqlOperator? (left.isNull || right.isNull) with
  | some operator => exact .pure rfl _
  | none => exact .unsupported (by simp) _

theorem modifier {op : UnaryOp} (isModifier : op.sqlModifier?.isSome) (operand : Term) (ty : Ty) :
    SucceedsIff (Sql.unaryTerm op operand ty) True := by
  obtain ⟨modifier, form⟩ := Option.isSome_iff_exists.1 isModifier
  have noConversion : op ≠ .convert := by
    rintro rfl
    cases form
  simp only [Sql.unaryTerm, if_neg noConversion, form]
  exact .pure trivial _

theorem conversion (operand : Term) (ty : Ty) :
    SucceedsIff (Sql.unaryTerm .convert operand ty) (ty ∈ Expr.castTargets) := by
  rw [← ty.isSome_sqlType?, Sql.unaryTerm, if_pos rfl]
  cases ty.sqlType? with
  | some target => exact .pure rfl _
  | none => exact .unsupported (by simp) _

theorem callTerm (method : Method) (slots : List Term) :
    SucceedsIff (Sql.callTerm method slots) method.template?.isSome := by
  unfold Sql.callTerm
  cases method.template? with
  | some template => exact .pure rfl _
  | none => exact .unsupported (by simp) _

end Sql.Compile.SucceedsIff

/-! ### Expressions that are compiled exactly if they are mapped -/

theorem Sql.Compile.SucceedsIff.mapped {α : Type} {step : Compile α} {condition : Prop}
    {expr : Expr} (succeeds : SucceedsIff step condition)
    (same : condition ↔ ¬ expr.Unmapped ∧ ∀ part ∈ expr.parts, part.Mapped) :
    SucceedsIff step expr.Mapped :=
  succeeds.congr (same.trans Expr.mapped_iff.symm)

namespace Expr

/-- In every scope and from every state, the expression is compiled if it is mapped, and else given
up as unsupported. -/
def Settled (expr : Expr) : Prop :=
  ∀ scope condition, SucceedsIff (expr.compile scope condition) expr.Mapped

theorem compileAll_settled {exprs : List Expr} (settled : ∀ expr ∈ exprs, expr.Settled)
    (scope : Scope) :
    SucceedsIff (Expr.compileAll scope exprs) (∀ expr ∈ exprs, expr.Mapped) := by
  induction exprs with
  | nil => exact .pure (List.forall_mem_nil _) _
  | cons expr rest ih =>
      obtain ⟨settledHead, settledRest⟩ := List.forall_mem_cons.1 settled
      rw [List.forall_mem_cons]
      refine (settledHead scope false).bind fun term => ?_
      exact ((ih settledRest).bind fun terms => .pure trivial _).congr (Iff.of_eq (and_true _))

theorem compileTarget_settled {target : Option Expr} (settled : ∀ expr ∈ target, expr.Settled)
    (scope : Scope) :
    SucceedsIff (Expr.compileTarget scope target) (∀ expr ∈ target, expr.Mapped) := by
  cases target with
  | none => exact .pure (by simp) _
  | some expr => exact (settled expr rfl scope false).congr (by simp)

theorem settled_binary (op : BinaryOp) {left right : Expr} (settledLeft : left.Settled)
    (settledRight : right.Settled) (ty : Ty) : (Expr.binary op left right ty).Settled := by
  intro scope condition
  refine ((settledLeft scope _).bind fun left' => (settledRight scope _).bind fun right' =>
    .binaryTerm op left' right').mapped ?_
  simp only [parts, Unmapped, List.forall_mem_cons]
  tauto

theorem settled_modifier {op : UnaryOp} (isModifier : op.sqlModifier?.isSome) {operand : Expr}
    (settled : operand.Settled) (ty : Ty) : (Expr.unary op operand ty).Settled := by
  intro scope condition
  refine ((settled scope _).bind fun operand' => .modifier isModifier operand' ty).mapped ?_
  have noConversion : op ≠ .convert := by
    rintro rfl
    cases isModifier
  simp [parts, Unmapped, noConversion]

theorem settled_cast {operand : Expr} (settled : operand.Settled) (ty : Ty) :
    (operand.cast ty).Settled := by
  intro scope condition
  refine ((settled scope _).bind fun operand' => .conversion operand' ty).mapped ?_
  simp [Expr.cast, parts, Unmapped, and_comm]

theorem settled_iif {test ifTrue ifFalse : Expr} (settledTest : test.Settled)
    (settledTrue : ifTrue.Settled) (settledFalse : ifFalse.Settled) :
    (iif test ifTrue ifFalse).Settled := by
  intro scope condition
  refine ((settledTest scope _).bind fun test' => (settledTrue scope _).bind fun ifTrue' =>
    (settledFalse scope _).bind fun ifFalse' => .pure trivial _).mapped ?_
  simp [iif, parts, Unmapped]

/-- A call is settled with its target and arguments, where the catalogue has the method exactly if
the call is no text form that SQL lacks. -/
theorem settled_call {target : Option Expr} {method : Method} {args : List Expr} {ty : Ty}
    (catalogued : method.template?.isSome ↔ ¬ (Expr.call target method args ty).Unmapped)
    (settledTarget : ∀ expr ∈ target, expr.Settled) (settledArgs : ∀ expr ∈ args, expr.Settled) :
    (Expr.call target method args ty).Settled := by
  intro scope condition
  refine ((compileTarget_settled settledTarget scope).bind fun callee =>
    (compileAll_settled settledArgs scope).bind fun args' =>
    .callTerm method (callee :: args')).mapped ?_
  rw [catalogued]
  simp only [parts, List.forall_mem_append, Option.mem_toList]
  tauto

/-- Methods of the catalogue other than text forms. -/
theorem settled_method {target : Option Expr} {method : Method} {args : List Expr} {ty : Ty}
    (found : method.template?.isSome) (noText : method.name ≠ "ToString")
    (settledTarget : ∀ expr ∈ target, expr.Settled) (settledArgs : ∀ expr ∈ args, expr.Settled) :
    (Expr.call target method args ty).Settled :=
  settled_call (iff_of_true found fun unmapped => noText unmapped.1) settledTarget settledArgs

theorem settled_toText {operand : Expr} (settled : operand.Settled) : operand.toText.Settled := by
  refine settled_call ?_ (by simpa using settled) (List.forall_mem_nil _)
  rw [isSome_textTemplate?]
  simp [Unmapped]

/-- An environment is mapped and yet not compiled. -/
theorem Settled.not_closure {target : Expr} (settled : target.Settled) (captures : List Capture)
    (ty : Ty) : target ≠ .closure captures ty := by
  rintro rfl
  have mapped : (Expr.closure captures ty).Mapped := mapped_of_parts_nil id rfl
  let scope : Scope := ⟨.identity, "", ⟨"", [], none⟩, none⟩
  obtain ⟨result, compiled⟩ := (settled scope false ⟨0, .empty⟩).1 mapped
  cases compiled

theorem compile_of_property {scope : Scope} {target : Option Expr} {name : Member} {ty : Ty}
    {template : Template} (isNoGroup : name.owner.isGroup = false)
    (untimed : name.owner ≠ .timeSpan)
    (notClosure : ∀ captures ty, target ≠ some (.closure captures ty))
    (found : propertyTemplate? name.owner.kind name.name = some template) (condition : Bool) :
    (Expr.member target name ty).compile scope condition =
      (do return .apply template [← Expr.compileTarget scope target]) := by
  have form : memberForm scope target name ty = .property template := by
    unfold memberForm
    rw [scope.groupKeyOf?_eq_none isNoGroup]
    simp only [if_neg untimed, found]
  rw [compile_member, form]
  rfl

/-- Properties of the catalogue. -/
theorem settled_property {target : Option Expr} {name : Member} {ty : Ty}
    (isNoGroup : name.owner.isGroup = false) (untimed : name.owner ≠ .timeSpan)
    (found : (propertyTemplate? name.owner.kind name.name).isSome)
    (settled : ∀ expr ∈ target, expr.Settled) : (Expr.member target name ty).Settled := by
  obtain ⟨template, found⟩ := Option.isSome_iff_exists.1 found
  have notClosure : ∀ captures ty, target ≠ some (.closure captures ty) := by
    rintro captures ty rfl
    exact (settled _ rfl).not_closure captures ty rfl
  intro scope condition
  rw [compile_of_property isNoGroup untimed notClosure found]
  refine ((compileTarget_settled settled scope).bind fun callee => .pure trivial _).mapped ?_
  simp [parts, Unmapped]

/-- A length of time is read off a subtraction. -/
theorem settled_duration {name : String} (isUnit : (durationUnit? name).isSome)
    {later earlier : Expr} (settledLater : later.Settled) (settledEarlier : earlier.Settled)
    (ty : Ty) : ((later.subtract earlier).duration name ty).Settled := by
  obtain ⟨unit, isUnit⟩ := Option.isSome_iff_exists.1 isUnit
  obtain ⟨template, found⟩ := Option.isSome_iff_exists.1
    (show (⟨.dateTime, "Subtract", [.dateTime]⟩ : Method).template?.isSome from by decide)
  intro scope condition
  -- The subtraction is not compiled as a call: its operands go into the template with the unit.
  have form : memberForm scope (some (later.subtract earlier)) ⟨.timeSpan, name⟩ ty =
      .duration unit template (some later) [earlier] := by
    simp [memberForm, Scope.groupKeyOf?, Ty.isGroup, isUnit, subtract, found]
  rw [duration, compile_member, form]
  have settledTarget : ∀ expr ∈ some later, expr.Settled := by simpa using settledLater
  have settledArgs : ∀ expr ∈ [earlier], expr.Settled := by simpa using settledEarlier
  refine ((compileTarget_settled settledTarget scope).bind fun callee =>
    (compileAll_settled settledArgs scope).bind fun args => .pure trivial _).mapped ?_
  have isMapped : (later.subtract earlier).Mapped ↔ later.Mapped ∧ earlier.Mapped := by
    rw [mapped_iff]
    simp [subtract, parts, Unmapped]
  simp [parts, Unmapped, isMapped]

theorem settled_construct {ctor : Constructor} {args : List Expr} {ty : Ty}
    (made : ∀ terms, SucceedsIff (constructTerm ctor terms) True)
    (settled : ∀ expr ∈ args, expr.Settled) : (Expr.construct ctor args ty).Settled := by
  intro scope condition
  refine ((compileAll_settled settled scope).bind fun terms => made terms).mapped ?_
  simp [parts, Unmapped]

theorem settled_constant (value : Value) (ty : Ty) : (Expr.constant value ty).Settled := by
  intro scope condition
  have mapped : (Expr.constant value ty).Mapped := mapped_of_parts_nil id rfl
  cases value with
  | null => exact .pure mapped _
  | _ => exact .bindValue mapped scope _

theorem settled_column {param : Param} (isRow : param.ty.kind = .model) (name : String) :
    ((Expr.parameter param).field name).Settled := by
  intro scope condition
  have mapped : ((Expr.parameter param).field name).Mapped :=
    mapped_member (mapped_of_parts_nil id rfl) _ _
  have isRowExpr : (Expr.parameter param).ty.kind = .model := isRow
  rw [compile_rowMember scope isRowExpr (by simp)]
  exact .pure mapped _

end Expr

/-- The first capture of a name decides. -/
theorem Capture.compile_of_find? (scope : Scope) {name held : String} {value : Value}
    {captures : List Capture}
    (found : captures.find? (·.name == name) = some (.value held value)) :
    Capture.compile scope name captures = bindValue scope value := by
  induction captures with
  | nil => cases found
  | cons capture rest ih =>
      by_cases isHeld : capture.name = name
      · rw [List.find?_cons_of_pos (by simpa using isHeld)] at found
        cases found
        exact if_pos isHeld
      · rw [List.find?_cons_of_neg (by simpa using isHeld)] at found
        rw [← ih found]
        cases capture with
        | value other value => exact if_neg isHeld
        | query other query => exact if_neg isHeld

/-- A captured value is bound to a placeholder, whatever it is. -/
theorem Closure.compile_var {closure : Closure} {name held : String} {value : Value}
    (isValue : closure.get? name = some (.value held value)) (scope : Scope) (condition : Bool) :
    (closure.var name).compile scope condition = bindValue scope value := by
  have noKey : scope.groupKeyOf? ⟨.closure, name⟩ = none := scope.groupKeyOf?_eq_none rfl
  have form (ty : Ty) : Expr.memberForm scope (some closure.toExpr) ⟨.closure, name⟩ ty =
      .captured closure.captures := by
    simp [Expr.memberForm, noKey, Closure.toExpr]
  rw [Closure.var, Expr.compile_member, form, ← Capture.compile_of_find? scope isValue]
  rfl

namespace Expr

theorem settled_var {closure : Closure} {name held : String} {value : Value}
    (isValue : closure.get? name = some (.value held value)) : (closure.var name).Settled := by
  intro scope condition
  have mapped : (closure.var name).Mapped := mapped_member (mapped_of_parts_nil id rfl) _ _
  rw [Closure.compile_var isValue]
  exact .bindValue mapped scope value

/-! ### Words -/

theorem settled_constantWord {word : Expr} (isWord : word ∈ constantWords) : word.Settled := by
  simp only [constantWords, List.mem_cons, List.not_mem_nil, or_false] at isWord
  rcases isWord with rfl | rfl | rfl | rfl
  · exact settled_property rfl (by decide) (by decide) (by simp)
  · exact settled_property rfl (by decide) (by decide) (by simp)
  · exact settled_property rfl (by decide) (by decide) (by simp)
  · exact settled_construct (fun _ => .pure trivial _) (List.forall_mem_nil _)

end Expr

namespace Math

variable {x y : Expr}

theorem numeric_settled (settled : x.Settled) (accepted : List Kind) :
    (numeric x accepted).1.Settled := by
  unfold numeric
  split
  · exact settled
  · exact Expr.settled_cast settled _

theorem numeric_kind (x : Expr) {accepted : List Kind} (doubles : .double ∈ accepted) :
    (numeric x accepted).2 ∈ accepted := by
  unfold numeric
  split
  · assumption
  · exact doubles

/-- A function with a signature for each accepted kind. -/
theorem settled_overloaded {name : String} {accepted : List Kind} (doubles : .double ∈ accepted)
    (found : ∀ kind ∈ accepted, (⟨.math, name, [kind]⟩ : Method).template?.isSome)
    (noText : name ≠ "ToString") (settled : x.Settled) (ty : Ty) :
    (Expr.call none ⟨.math, name, [(numeric x accepted).2]⟩ [(numeric x accepted).1] ty).Settled :=
  Expr.settled_method (found _ (numeric_kind x doubles)) noText (by simp)
    (by simpa using numeric_settled settled accepted)

theorem settled_onDoubles {name : String} {args : List Expr} (count : Nat)
    (isCount : args.length = count)
    (found : (⟨.math, name, List.replicate count .double⟩ : Method).template?.isSome)
    (noText : name ≠ "ToString") (settled : ∀ expr ∈ args, expr.Settled) :
    (onDoubles name args).Settled := by
  subst isCount
  refine Expr.settled_method found noText (by simp) ?_
  intro converted isConverted
  obtain ⟨argument, isArgument, rfl⟩ := List.mem_map.1 isConverted
  exact numeric_settled (settled argument isArgument) _

theorem settled_round (settled : x.Settled) (settledDigits : y.Settled) : (round x y).Settled := by
  have settledDecimal : (if x.ty = .decimal then x else x.cast .decimal).Settled := by
    split
    · exact settled
    · exact Expr.settled_cast settled _
  exact Expr.settled_method (by decide) (by decide) (by simp)
    (by simp [settledDecimal, settledDigits])

end Math

namespace Expr

variable {operand left right : Expr}

theorem settled_unaryWord {word : Expr → Expr} (isWord : word ∈ unaryWords)
    (settled : operand.Settled) : (word operand).Settled := by
  have settledTarget : ∀ expr ∈ some operand, expr.Settled := by simpa using settled
  have settledArgs : ∀ expr ∈ [operand], expr.Settled := by simpa using settled
  simp only [unaryWords, List.mem_cons, List.mem_append] at isWord
  rcases isWord with rfl | (((((isModifier | isMethod) | isProperty) | isParser) | isNumber) |
    isDouble)
  · exact settled_toText settled
  · simp only [modifierWords, List.mem_cons, List.not_mem_nil, or_false] at isModifier
    rcases isModifier with rfl | rfl
    all_goals exact settled_modifier (by decide) settled _
  · simp only [bareMethodWords, List.mem_cons, List.not_mem_nil, or_false] at isMethod
    rcases isMethod with rfl | rfl | rfl | rfl | rfl | rfl
    all_goals exact settled_method (by decide) (by decide) settledTarget (List.forall_mem_nil _)
  · simp only [propertyWords, List.mem_cons, List.not_mem_nil, or_false] at isProperty
    rcases isProperty with rfl | rfl | rfl | rfl | rfl | rfl | rfl | rfl | rfl | rfl
    all_goals exact settled_property rfl (by decide) (by decide) settledTarget
  · simp only [parserWords, List.mem_cons, List.not_mem_nil, or_false] at isParser
    rcases isParser with rfl | rfl | rfl | rfl | rfl
    all_goals exact settled_method (by decide) (by decide) (by simp) settledArgs
  · simp only [numberWords, List.mem_cons, List.not_mem_nil, or_false] at isNumber
    rcases isNumber with rfl | rfl | rfl | rfl
    all_goals exact Math.settled_overloaded (by decide) (by decide) (by decide) settled _
  · simp only [doubleWords, List.mem_cons, List.not_mem_nil, or_false] at isDouble
    rcases isDouble with rfl | rfl | rfl | rfl | rfl | rfl | rfl | rfl | rfl
    all_goals exact Math.settled_onDoubles 1 rfl (by decide) (by decide) settledArgs

theorem settled_contains (settledLeft : left.Settled) (settledRight : right.Settled) :
    (left.contains right).Settled := by
  have settledTarget : ∀ expr ∈ some left, expr.Settled := by simpa using settledLeft
  have settledArgs : ∀ expr ∈ [right], expr.Settled := by simpa using settledRight
  unfold contains
  split
  · exact settled_method (by decide) (by decide) settledTarget settledArgs
  · exact settled_method (by decide) (by decide) settledTarget settledArgs

theorem settled_binaryWord {word : Expr → Expr → Expr} (isWord : word ∈ binaryWords)
    (settledLeft : left.Settled) (settledRight : right.Settled) : (word left right).Settled := by
  have settledTarget : ∀ expr ∈ some left, expr.Settled := by simpa using settledLeft
  have settledArgs : ∀ expr ∈ [right], expr.Settled := by simpa using settledRight
  have settledPair : ∀ expr ∈ [left, right], expr.Settled := by simp [settledLeft, settledRight]
  simp only [binaryWords, List.mem_cons, List.mem_append] at isWord
  rcases isWord with rfl | rfl | ((isOperator | isMethod) | isPair)
  · exact settled_contains settledLeft settledRight
  · exact Math.settled_round settledLeft settledRight
  · simp only [operatorWords, List.mem_cons, List.not_mem_nil, or_false] at isOperator
    rcases isOperator with rfl | rfl | rfl | rfl | rfl | rfl | rfl | rfl | rfl | rfl | rfl | rfl |
      rfl | rfl | rfl | rfl | rfl
    all_goals exact settled_binary _ settledLeft settledRight _
  · simp only [methodWords, List.mem_cons, List.not_mem_nil, or_false] at isMethod
    rcases isMethod with rfl | rfl | rfl | rfl | rfl | rfl | rfl | rfl | rfl | rfl | rfl
    all_goals exact settled_method (by decide) (by decide) settledTarget settledArgs
  · simp only [pairWords, List.mem_cons, List.not_mem_nil, or_false] at isPair
    rcases isPair with rfl | rfl
    all_goals exact Math.settled_onDoubles 2 rfl (by decide) (by decide) settledPair

theorem settled_ternaryWord {word : Expr → Expr → Expr → Expr} (isWord : word ∈ ternaryWords)
    {first second third : Expr} (settledFirst : first.Settled) (settledSecond : second.Settled)
    (settledThird : third.Settled) : (word first second third).Settled := by
  simp only [ternaryWords, List.mem_cons, List.not_mem_nil, or_false] at isWord
  rcases isWord with rfl | rfl | rfl
  · exact settled_method (by decide) (by decide) (by simpa using settledFirst)
      (by simp [settledSecond, settledThird])
  · exact settled_method (by decide) (by decide) (by simpa using settledFirst)
      (by simp [settledSecond, settledThird])
  · exact settled_iif settledFirst settledSecond settledThird

theorem settled_durationWord {word : Expr → Expr} (isWord : word ∈ durationWords)
    {later earlier : Expr} (settledLater : later.Settled) (settledEarlier : earlier.Settled) :
    (word (later.subtract earlier)).Settled := by
  simp only [durationWords, List.mem_cons, List.not_mem_nil, or_false] at isWord
  rcases isWord with rfl | rfl | rfl | rfl | rfl | rfl
  all_goals exact settled_duration (by decide) settledLater settledEarlier _

namespace InVocabulary

variable {expr : Expr}

/-- Every word keeps its operands' being compiled exactly if they are mapped. -/
theorem settled (known : expr.InVocabulary) : expr.Settled := by
  induction known with
  | column isRow name => exact settled_column (by rw [isRow]; rfl) name
  | constant value ty => exact settled_constant value ty
  | captured isValue => exact settled_var isValue
  | word isWord => exact settled_constantWord isWord
  | unary isWord _ settled => exact settled_unaryWord isWord settled
  | binary isWord _ _ settledLeft settledRight =>
      exact settled_binaryWord isWord settledLeft settledRight
  | ternary isWord _ _ _ settledFirst settledSecond settledThird =>
      exact settled_ternaryWord isWord settledFirst settledSecond settledThird
  | cast _ ty settled => exact settled_cast settled ty
  | newDateTime _ settled => exact settled_construct (fun _ => .pure trivial _) settled
  | duration isWord _ _ settledLater settledEarlier =>
      exact settled_durationWord isWord settledLater settledEarlier

/-- Whatever the vocabulary makes is compiled in every scope and from every state exactly if none
of its parts lacks an SQL form; else it is given up as unsupported. -/
theorem compile_ok_iff (known : expr.InVocabulary) (scope : Scope) (condition : Bool)
    (progress : Progress) :
    ((∃ result, expr.compile scope condition progress = .ok result) ↔
        ∀ part, expr.Contains part → ¬ part.Unmapped) ∧
      ((∃ part, expr.Contains part ∧ part.Unmapped) →
        ∃ fragment, expr.compile scope condition progress = .error (.unsupported fragment)) := by
  obtain ⟨succeeds, fails⟩ := known.settled scope condition progress
  refine ⟨⟨?_, succeeds⟩, ?_⟩
  · rintro ⟨result, compiled⟩
    by_contra unmapped
    obtain ⟨fragment, failed⟩ := fails unmapped
    cases compiled.symm.trans failed
  · rintro ⟨part, contained, unmapped⟩
    exact fails fun mapped => mapped part contained unmapped

end InVocabulary

/-- The id of a user. -/
def userId : Expr := (Expr.parameter Query.userRow).field "Id"

/-- An environment with some digits. -/
def digits : Closure := Closure.empty.capture (.value "digits" (.string "12"))

/-- Does the id of a user start with the captured digits? -/
def idStarts : Expr := (Math.abs userId).toText.startsWith (digits.var "digits")

/-- A remainder by the id of a user, where there is one. -/
def idRemainder : Expr := iif (userId.equals null) null ((literal (.int 7)).remainder userId)

theorem userId_inVocabulary : userId.InVocabulary := .column rfl "Id"

theorem idStarts_inVocabulary : idStarts.InVocabulary := by
  have isAbs : Math.abs ∈ unaryWords := by simp [unaryWords, numberWords]
  have isToText : toText ∈ unaryWords := by simp [unaryWords]
  have isStartsWith : startsWith ∈ binaryWords := by simp [binaryWords, methodWords]
  have isCaptured : digits.get? "digits" = some (.value "digits" (.string "12")) := rfl
  exact .binary isStartsWith (.unary isToText (.unary isAbs userId_inVocabulary))
    (.captured isCaptured)

theorem idRemainder_inVocabulary : idRemainder.InVocabulary := by
  have isEquals : equals ∈ binaryWords := by simp [binaryWords, operatorWords]
  have isRemainder : remainder ∈ binaryWords := by simp [binaryWords, operatorWords]
  have isIif : iif ∈ ternaryWords := by simp [ternaryWords]
  exact .ternary isIif (.binary isEquals userId_inVocabulary (.constant _ _)) (.constant _ _)
    (.binary isRemainder (.constant _ _) userId_inVocabulary)

/-- The first example is compiled, so that none of its parts lacks an SQL form; in the second, the
remainder does, so that it is given up. -/
theorem idStarts_mapped_idRemainder_fails :
    let scope : Scope := ⟨.identity, "", .start "", none⟩
    idStarts.InVocabulary ∧ idRemainder.InVocabulary ∧
      (∃ result, idStarts.compile scope true ⟨0, .empty⟩ = .ok result) ∧
      (∀ part, idStarts.Contains part → ¬ part.Unmapped) ∧
      ∃ fragment, idRemainder.compile scope true ⟨0, .empty⟩ = .error (.unsupported fragment) := by
  intro scope
  have starts := idStarts_inVocabulary.compile_ok_iff scope true ⟨0, .empty⟩
  have fails := idRemainder_inVocabulary.compile_ok_iff scope true ⟨0, .empty⟩
  have compiled : ∃ result, idStarts.compile scope true ⟨0, .empty⟩ = .ok result := ⟨_, rfl⟩
  have inside : idRemainder.Contains ((literal (.int 7)).remainder userId) :=
    .under (List.mem_of_getElem? (show idRemainder.parts[2]? = _ from rfl)) (.whole _)
  have unmapped : ((literal (.int 7)).remainder userId).Unmapped :=
    show BinaryOp.modulo ∈ unmappedOperators by decide
  exact ⟨idStarts_inVocabulary, idRemainder_inVocabulary, compiled, starts.1.1 compiled,
    fails.2 ⟨_, inside, unmapped⟩⟩

end Expr

end TypedQuery
