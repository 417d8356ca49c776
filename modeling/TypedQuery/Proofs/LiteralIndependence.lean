/-
Module: TypedQuery.Proofs.LiteralIndependence
Purpose: Literals never influence the text of a command. Blanking every literal of a
  query leaves the text and the placeholder names as they are, so two queries that
  are the same once blanked have one text.
Main exports: Query.masked, Query.compile_masked, Query.toCommand_paired_of_masked_eq
-/
import TypedQuery.Proofs.Compilation
import TypedQuery.Proofs.Coupling
import TypedQuery.Proofs.Literals
import TypedQuery.Proofs.ParameterMap

namespace TypedQuery

open Sql Sql.Compile

/-! ### Blanking literals -/

/-- A literal without its content; null stays what it is, because it is not bound to
a placeholder. -/
def Value.masked : Value → Value
  | .null => .null
  | _ => .bool false

mutual

/-- The expression with every literal blanked. Shapes, names and types stay. -/
def Expr.masked : Expr → Expr
  | .member target name ty => .member (Expr.maskedTarget target) name ty
  | .constant value ty => .constant value.masked ty
  | .closure captures ty => .closure (Capture.maskedAll captures) ty
  | .parameter param => .parameter param
  | .unary op operand ty => .unary op operand.masked ty
  | .binary op left right ty => .binary op left.masked right.masked ty
  | .conditional test ifTrue ifFalse ty =>
    .conditional test.masked ifTrue.masked ifFalse.masked ty
  | .call target method args ty =>
    .call (Expr.maskedTarget target) method (Expr.maskedAll args) ty
  | .construct ctor args ty => .construct ctor (Expr.maskedAll args) ty
  | .lambda function => .lambda function.masked
termination_by structural expr => expr

/-- The target of a call or member, blanked. -/
def Expr.maskedTarget : Option Expr → Option Expr
  | none => none
  | some target => some target.masked
termination_by structural target => target

/-- Several expressions, blanked. -/
def Expr.maskedAll : List Expr → List Expr
  | [] => []
  | expr :: rest => expr.masked :: Expr.maskedAll rest
termination_by structural exprs => exprs

/-- The lambda with its body blanked. -/
def Lambda.masked : Lambda → Lambda
  | ⟨params, body⟩ => ⟨params, body.masked⟩
termination_by structural function => function

/-- A clause that may be missing, blanked. -/
def Lambda.maskedOption : Option Lambda → Option Lambda
  | none => none
  | some function => some function.masked
termination_by structural function => function

/-- Several lambdas, blanked. -/
def Lambda.maskedAll : List Lambda → List Lambda
  | [] => []
  | function :: rest => function.masked :: Lambda.maskedAll rest
termination_by structural functions => functions

/-- A capture, blanked. Every captured value is bound, null too, so all are alike. -/
def Capture.masked : Capture → Capture
  | .value name _ => .value name .null
  | .query name query => .query name query.masked
termination_by structural capture => capture

/-- An environment, blanked. -/
def Capture.maskedAll : List Capture → List Capture
  | [] => []
  | capture :: rest => capture.masked :: Capture.maskedAll rest
termination_by structural captures => captures

/-- A join with its source and its lambdas blanked. -/
def Join.masked : Join → Join
  | ⟨kind, source, outerKey, innerKey, result⟩ =>
    ⟨kind, source.masked, outerKey.masked, innerKey.masked, result.masked⟩
termination_by structural join => join

/-- Several joins, blanked. -/
def Join.maskedAll : List Join → List Join
  | [] => []
  | join :: rest => join.masked :: Join.maskedAll rest
termination_by structural joins => joins

/-- A sort key, blanked. -/
def Order.masked : Order → Order
  | ⟨key, ascending⟩ => ⟨key.masked, ascending⟩
termination_by structural order => order

/-- Several sort keys, blanked. -/
def Order.maskedAll : List Order → List Order
  | [] => []
  | order :: rest => order.masked :: Order.maskedAll rest
termination_by structural orders => orders

/-- A select node with its source and its clauses blanked; the row counts stay. -/
def Select.masked : Select → Select
  | ⟨source, modelType, filters, having, projection, groupKey, groupElement, joins, orderBy,
      skip, take, distinct, stage⟩ =>
    ⟨source.masked, modelType, Lambda.maskedAll filters, Lambda.maskedAll having,
      Lambda.maskedOption projection, Lambda.maskedOption groupKey,
      Lambda.maskedOption groupElement, Join.maskedAll joins, Order.maskedAll orderBy,
      skip, take, distinct, stage⟩
termination_by structural node => node

/-- The query with every literal blanked, also inside captured queries. -/
def Query.masked : Query → Query
  | .table model => .table model
  | .select node => .select node.masked
  | .combine op first second => .combine op first.masked second.masked
termination_by structural query => query

end

/-! ### Shapes do not change

What compilation looks at without compiling it: parameters, the outermost node of a
lambda's body, and which clauses there are. -/

@[simp] theorem Lambda.masked_params (function : Lambda) :
    function.masked.params = function.params := by
  cases function
  rw [Lambda.masked]

theorem Expr.maskedAll_eq_map : ∀ exprs : List Expr, Expr.maskedAll exprs = exprs.map Expr.masked
  | [] => by rw [Expr.maskedAll, List.map_nil]
  | _ :: rest => by rw [Expr.maskedAll, maskedAll_eq_map rest, List.map_cons]

theorem Lambda.maskedAll_eq_map : ∀ functions : List Lambda,
    Lambda.maskedAll functions = functions.map Lambda.masked
  | [] => by rw [Lambda.maskedAll, List.map_nil]
  | _ :: rest => by rw [Lambda.maskedAll, maskedAll_eq_map rest, List.map_cons]

theorem Lambda.maskedOption_eq_map (function : Option Lambda) :
    Lambda.maskedOption function = function.map Lambda.masked := by
  cases function <;> simp [Lambda.maskedOption]

theorem Join.maskedAll_eq_map : ∀ joins : List Join, Join.maskedAll joins = joins.map Join.masked
  | [] => by rw [Join.maskedAll, List.map_nil]
  | _ :: rest => by rw [Join.maskedAll, maskedAll_eq_map rest, List.map_cons]

theorem Order.maskedAll_eq_map : ∀ orders : List Order,
    Order.maskedAll orders = orders.map Order.masked
  | [] => by rw [Order.maskedAll, List.map_nil]
  | _ :: rest => by rw [Order.maskedAll, maskedAll_eq_map rest, List.map_cons]

theorem Join.masked_result (join : Join) : join.masked.result = join.result.masked := by
  cases join
  rw [Join.masked]

theorem Order.masked_key (order : Order) : order.masked.key = order.key.masked := by
  cases order
  rw [Order.masked]

theorem Select.isTrivial_masked (node : Select) : node.masked.isTrivial = node.isTrivial := by
  cases node
  simp [Select.isTrivial, Select.masked, Lambda.maskedAll_eq_map, Lambda.maskedOption_eq_map,
    Order.maskedAll_eq_map, Join.maskedAll_eq_map]

namespace Sql

theorem Aliases.isParam_masked (param : Param) (expr : Expr) :
    Aliases.isParam param expr.masked = Aliases.isParam param expr := by
  cases expr <;> simp [Expr.masked, Aliases.isParam]

theorem Aliases.rowField?_masked (result : Lambda) (side : Nat) :
    Aliases.rowField? result.masked side = Aliases.rowField? result side := by
  obtain ⟨params, body⟩ := result
  cases found : params[side]? with
  | none => simp [Aliases.rowField?, Lambda.masked, found]
  | some param =>
      cases body with
      | construct ctor args ty =>
          cases ctor with
          | record names =>
              simp [Aliases.rowField?, Lambda.masked, Expr.masked, found, Expr.maskedAll_eq_map,
                List.takeWhile_map, Function.comp_def, Aliases.isParam_masked]
          | _ => simp [Aliases.rowField?, Lambda.masked, Expr.masked]
      | _ => simp [Aliases.rowField?, Lambda.masked, Expr.masked]

theorem Aliases.bindJoin_masked (aliases : Aliases) (join : Join) :
    aliases.bindJoin join.masked = aliases.bindJoin join := by
  simp only [Aliases.bindJoin, Aliases.resultParam, Join.masked_result, Lambda.masked_params,
    Aliases.rowField?_masked]

theorem Aliases.lambdas_masked (node : Select) :
    Aliases.lambdas node.masked = (Aliases.lambdas node).map Lambda.masked := by
  obtain ⟨source, modelType, filters, having, projection, groupKey, groupElement, joins, orderBy,
    skip, take, distinct, stage⟩ := node
  cases projection <;> cases groupKey <;> cases groupElement <;>
    simp [Select.masked, Aliases.lambdas, Lambda.maskedAll_eq_map, Lambda.maskedOption_eq_map,
      Order.maskedAll_eq_map, Order.masked_key, Function.comp_def]

/-- The aliases of a node do not depend on its literals. -/
theorem Aliases.bindSource_masked (path : String) (node : Select) :
    Aliases.bindSource path node.masked = Aliases.bindSource path node := by
  have sameParams : (Aliases.lambdas node.masked).flatMap (·.params) =
      (Aliases.lambdas node).flatMap (·.params) := by
    simp [Aliases.lambdas_masked, List.flatMap_map]
  simp only [Aliases.bindSource, sameParams]
  obtain ⟨source, modelType, filters, having, projection, groupKey, groupElement, joins, orderBy,
    skip, take, distinct, stage⟩ := node
  cases joins with
  | nil => simp [Select.masked, Join.maskedAll]
  | cons join rest =>
      simp [Select.masked, Join.maskedAll, Aliases.resultParam, Join.masked_result,
        Aliases.rowField?_masked]

theorem keyMember?_masked (key : Lambda) : keyMember? key.masked = keyMember? key := by
  obtain ⟨params, body⟩ := key
  cases body <;> simp [keyMember?, Lambda.masked, Expr.masked]

theorem encloseDisjunction_masked (predicate : Expr) (term : Term) :
    encloseDisjunction predicate.masked term = encloseDisjunction predicate term := by
  cases predicate <;> simp [encloseDisjunction, Expr.masked]

theorem selectionOf_masked (projection : Expr) (term : Term) :
    selectionOf projection.masked term = selectionOf projection term := by
  cases projection <;> simp [selectionOf, Expr.masked]

end Sql

/-! ### Compilations that differ in bound values only -/

/-- Failures of one class. -/
def Error.SameKind (first second : Error) : Prop := first.kind = second.kind

namespace Sql

/-- The same numbering so far and the same names bound. -/
def Progress.Alike (first second : Progress) : Prop :=
  first.nested = second.nested ∧ first.parameters.names = second.parameters.names

/-- Parts of commands: the same result, and nothing but values told apart. -/
abbrev Compile.Alike {α : Type} (first second : Compile α) : Prop :=
  Coupled Progress.Alike (· = ·) Error.SameKind first second

/-- Whole commands: the same result, and the same names in the same order. -/
abbrev Nested.Alike {α : Type} (first second : Nested (α × Parameters)) : Prop :=
  Coupled (· = ·) (fun one two => one.1 = two.1 ∧ one.2.names = two.2.names) Error.SameKind
    first second

namespace Compile.Alike

theorem lift {α : Type} (outcome : Except Error α) :
    Compile.Alike (liftM outcome : Compile α) (liftM outcome) := by
  cases outcome with
  | ok result => exact .pure rfl
  | error error => exact .throw rfl

theorem unsupported {α : Type} (first second : Fragment) :
    Compile.Alike (Compile.unsupported first : Compile α) (Compile.unsupported second) :=
  .throw rfl

/-- The name of a placeholder depends on how many names there are, not on what is
bound to them. -/
theorem bindValue (scope : Scope) (first second : Value) :
    Compile.Alike (Compile.bindValue scope first) (Compile.bindValue scope second) := by
  intro s t states
  have sameSize : s.parameters.size = t.parameters.size := by
    rw [Parameters.size_eq_length_names, Parameters.size_eq_length_names, states.2]
  refine .ok ⟨?_, states.1, ?_⟩
  · simp only [sameSize]
  · simp only [sameSize]
    exact Parameters.names_insert_congr states.2 _ first second

theorem nextPath (scope : Scope) :
    Compile.Alike (Compile.nextPath scope) (Compile.nextPath scope) := by
  intro s t states
  refine .ok ⟨?_, ?_, states.2⟩
  · simp only [states.1]
  · simp only [states.1]

theorem embed {α : Type} {first second : Nested (α × Parameters)}
    (commands : Nested.Alike first second) :
    Compile.Alike (Compile.embed first) (Compile.embed second) :=
  Coupled.embed (fun one two => one.names = two.names) commands (fun _ _ related => related.1)
    fun _ _ related _ _ held => Parameters.names_merge_congr held related.2

theorem still {α : Type} {step : Compile α} (still : Compile.Still step) :
    Compile.Alike step step := by
  cases still with
  | pure result => exact .pure rfl
  | unsupported fragment => exact .unsupported _ _

/-- Both go on from the same result. -/
theorem bind_same {α β : Type} {first second : Compile α} {next next' : α → Compile β}
    (head : Compile.Alike first second)
    (tail : ∀ result, Compile.Alike (next result) (next' result)) :
    Compile.Alike (first >>= next) (second >>= next') := by
  apply Coupled.bind head
  intro result result' same
  cases same
  exact tail result

/-- Both go on from the same command in them. -/
theorem nest_bind {α β : Type} {compiled compiled' : String → Nested (α × Parameters)}
    {next next' : α → Compile β} (scope : Scope)
    (commands : ∀ path, Nested.Alike (compiled path) (compiled' path))
    (tail : ∀ result, Compile.Alike (next result) (next' result)) :
    Compile.Alike
      (do let path ← Compile.nextPath scope
          let result ← Compile.embed (compiled path)
          next result)
      (do let path ← Compile.nextPath scope
          let result ← Compile.embed (compiled' path)
          next' result) := by
  apply bind_same (nextPath scope)
  intro path
  exact bind_same (embed (commands path)) tail

end Compile.Alike

namespace Nested.Alike

theorem toNested {α : Type} {first second : Compile α} (parts : Compile.Alike first second) :
    Nested.Alike (Compile.toNested first) (Compile.toNested second) :=
  Coupled.toNested (fun one two => one.names = two.names) rfl parts
    fun _ _ _ _ same sameNames => ⟨same, sameNames⟩

/-- The result is put into a larger one. -/
theorem map {α β : Type} {first second : Nested (α × Parameters)}
    (commands : Nested.Alike first second) (whole : α → β) :
    Nested.Alike
      (do let (result, parameters) ← first
          return (whole result, parameters))
      (do let (result, parameters) ← second
          return (whole result, parameters)) := by
  apply Coupled.bind commands
  intro one two related
  obtain ⟨sameResult, sameNames⟩ := related
  exact .pure ⟨congrArg whole sameResult, sameNames⟩

/-- Two commands are put together, and their names. -/
theorem combine {α β γ : Type} {first first' : Nested (α × Parameters)}
    {second second' : Nested (β × Parameters)} (firsts : Nested.Alike first first')
    (seconds : Nested.Alike second second') (both : α → β → γ) :
    Nested.Alike
      (do let (left, parameters) ← first
          let (right, others) ← second
          return (both left right, parameters.merge others))
      (do let (left, parameters) ← first'
          let (right, others) ← second'
          return (both left right, parameters.merge others)) := by
  apply Coupled.bind firsts
  intro one one' related
  apply Coupled.bind seconds
  intro two two' related'
  obtain ⟨sameLeft, sameNames⟩ := related
  obtain ⟨sameRight, sameOthers⟩ := related'
  exact .pure ⟨by rw [sameLeft, sameRight], Parameters.names_merge_congr sameNames sameOthers⟩

end Nested.Alike

/-! ### Members -/

/-- Two forms that differ in literals, and in what a refusal shows. -/
inductive MemberForm.Alike : MemberForm → MemberForm → Prop
  | key (term : Term) : Alike (.key term) (.key term)
  | refused (first second : Fragment) : Alike (.refused first) (.refused second)
  | duration (unit : String) (template : Template) (callee : Option Expr) (args : List Expr) :
      Alike (.duration unit template callee args)
        (.duration unit template (Expr.maskedTarget callee) (Expr.maskedAll args))
  | captured (captures : List Capture) :
      Alike (.captured captures) (.captured (Capture.maskedAll captures))
  | property (template : Template) : Alike (.property template) (.property template)
  | column : Alike .column .column

/-- A member without a duration: a property if there is one, else a column. -/
theorem MemberForm.Alike.propertyOrColumn (template : Option Template) :
    Alike
      (match template with
        | some template => .property template
        | none => .column)
      (match template with
        | some template => .property template
        | none => .column) := by
  cases template with
  | some template => exact .property template
  | none => exact .column

theorem memberForm_masked (scope : Scope) (target : Option Expr) (name : Member) (ty : Ty) :
    MemberForm.Alike (Expr.memberForm scope target name ty)
      (Expr.memberForm scope (Expr.maskedTarget target) name ty) := by
  unfold Expr.memberForm
  cases scope.groupKeyOf? name with
  | some key => exact .key key
  | none =>
      dsimp only
      split
      · cases durationUnit? name.name with
        | none => exact .refused _ _
        | some unit =>
            cases target with
            | none => exact .refused _ _
            | some expr =>
                cases expr with
                | call callee method args ty =>
                    simp only [Expr.maskedTarget, Expr.masked]
                    cases method.template? with
                    | some template => exact .duration unit template callee args
                    | none => exact .refused _ _
                | _ =>
                    simp only [Expr.maskedTarget, Expr.masked]
                    exact .refused _ _
      · cases target with
        | none => exact .propertyOrColumn _
        | some expr =>
            cases expr with
            | closure captures ty =>
                simp only [Expr.maskedTarget, Expr.masked]
                exact .captured captures
            | _ =>
                simp only [Expr.maskedTarget, Expr.masked]
                exact .propertyOrColumn _

theorem memberColumn_masked (scope : Scope) (condition : Bool) (target : Option Expr)
    (name : Member) (ty : Ty) :
    Compile.Alike (memberColumn scope condition target name ty)
      (memberColumn scope condition (Expr.maskedTarget target) name ty) := by
  cases target with
  | none => exact .unsupported _ _
  | some expr =>
      cases expr with
      | parameter param =>
          simp only [Expr.maskedTarget, Expr.masked, memberColumn]
          exact .pure rfl
      | member inner innerName innerTy =>
          simp only [Expr.maskedTarget, Expr.masked, memberColumn]
          split
          · exact .pure rfl
          · exact .unsupported _ _
      | _ =>
          simp only [Expr.maskedTarget, Expr.masked, memberColumn]
          exact .unsupported _ _

end Sql

/-- The step for members: the target and its parts keep step, so the member does. -/
theorem Expr.compile_member_masked {scope : Scope} {target : Option Expr}
    (condition : Bool) (name : Member) (ty : Ty)
    (whole : Compile.Alike (Expr.compileTarget scope target)
      (Expr.compileTarget scope (Expr.maskedTarget target)))
    (parts : Expr.TargetParts
      (fun callee args =>
        Compile.Alike (Expr.compileTarget scope callee)
            (Expr.compileTarget scope (Expr.maskedTarget callee)) ∧
          Compile.Alike (Expr.compileAll scope args)
            (Expr.compileAll scope (Expr.maskedAll args)))
      (fun captures => ∀ name, Compile.Alike (Capture.compile scope name captures)
        (Capture.compile scope name (Capture.maskedAll captures))) target) :
    Compile.Alike ((Expr.member target name ty).compile scope condition)
      ((Expr.member target name ty).masked.compile scope condition) := by
  rw [Expr.masked, Expr.compile_member, Expr.compile_member]
  have forms := memberForm_masked scope target name ty
  generalize formEq : Expr.memberForm scope target name ty = form at forms ⊢
  generalize Expr.memberForm scope (Expr.maskedTarget target) name ty = form' at forms ⊢
  cases forms with
  | key term => exact .pure rfl
  | refused first second => exact .unsupported _ _
  | duration unit template callee args =>
      obtain ⟨calleeAlike, argsAlike⟩ := parts.duration formEq
      apply Compile.Alike.bind_same calleeAlike
      intro callee
      apply Compile.Alike.bind_same argsAlike
      intro args
      exact .pure rfl
  | captured captures => exact parts.captures formEq _
  | property template =>
      apply Compile.Alike.bind_same whole
      intro callee
      exact .pure rfl
  | column => exact memberColumn_masked scope condition target name ty

/-! ### Blanking keeps step

The induction follows compilation, one case for each recursive function. Every case
is the coupling of the steps that the function takes. -/

mutual

theorem Expr.compile_masked (scope : Scope) (condition : Bool) : ∀ expr : Expr,
    Compile.Alike (expr.compile scope condition) (expr.masked.compile scope condition)
  | .binary op left right ty => by
      rw [Expr.masked, Expr.compile, Expr.compile]
      apply Compile.Alike.bind_same (Expr.compile_masked scope ty.isBool left)
      intro left
      apply Compile.Alike.bind_same (Expr.compile_masked scope ty.isBool right)
      intro right
      exact Compile.Alike.still (binaryTerm_still op left right)
  | .unary op operand ty => by
      rw [Expr.masked, Expr.compile, Expr.compile]
      apply Compile.Alike.bind_same (Expr.compile_masked scope ty.isBool operand)
      intro operand
      exact Compile.Alike.still (unaryTerm_still op operand ty)
  | .conditional test ifTrue ifFalse ty => by
      rw [Expr.masked, Expr.compile, Expr.compile]
      apply Compile.Alike.bind_same (Expr.compile_masked scope true test)
      intro test
      apply Compile.Alike.bind_same (Expr.compile_masked scope false ifTrue)
      intro ifTrue
      apply Compile.Alike.bind_same (Expr.compile_masked scope false ifFalse)
      intro ifFalse
      exact .pure rfl
  | .member target name ty => by
      refine Expr.compile_member_masked condition name ty
        (Expr.compileTarget_masked scope target) ?_
      cases target with
      | none => trivial
      | some expr =>
          cases expr with
          | call callee method args ty =>
              exact ⟨Expr.compileTarget_masked scope callee, Expr.compileAll_masked scope args⟩
          | closure captures ty => exact fun name => Capture.compile_masked scope name captures
          | _ => trivial
  | .call target method args ty => by
      rw [Expr.masked, Expr.compile, Expr.compile]
      apply Compile.Alike.bind_same (Expr.compileTarget_masked scope target)
      intro callee
      apply Compile.Alike.bind_same (Expr.compileAll_masked scope args)
      intro args
      exact Compile.Alike.still (callTerm_still method (callee :: args))
  | .construct ctor args ty => by
      rw [Expr.masked, Expr.compile, Expr.compile]
      apply Compile.Alike.bind_same (Expr.compileAll_masked scope args)
      intro args
      exact Compile.Alike.still (constructTerm_still ctor args)
  | .constant value ty => by
      -- Null is the one literal that is not bound, and blanking keeps it.
      cases value with
      | null =>
          simp only [Expr.masked, Value.masked, Expr.compile]
          exact .pure rfl
      | _ =>
          simp only [Expr.masked, Value.masked, Expr.compile]
          exact Compile.Alike.bindValue scope _ _
  | .closure captures ty => by
      rw [Expr.masked, Expr.compile, Expr.compile]
      exact Compile.Alike.unsupported _ _
  | .parameter param => by
      rw [Expr.masked, Expr.compile]
      exact .pure rfl
  | .lambda ⟨params, body⟩ => by
      rw [Expr.masked, Lambda.masked, Expr.compile, Expr.compile]
      exact Expr.compile_masked scope false body
termination_by structural expr => expr

theorem Expr.compileTarget_masked (scope : Scope) : ∀ target : Option Expr,
    Compile.Alike (Expr.compileTarget scope target)
      (Expr.compileTarget scope (Expr.maskedTarget target))
  | none => by
      rw [Expr.maskedTarget, Expr.compileTarget]
      exact .pure rfl
  | some target => by
      rw [Expr.maskedTarget, Expr.compileTarget, Expr.compileTarget]
      exact Expr.compile_masked scope false target
termination_by structural target => target

theorem Expr.compileAll_masked (scope : Scope) : ∀ exprs : List Expr,
    Compile.Alike (Expr.compileAll scope exprs) (Expr.compileAll scope (Expr.maskedAll exprs))
  | [] => by
      rw [Expr.maskedAll, Expr.compileAll]
      exact .pure rfl
  | expr :: rest => by
      rw [Expr.maskedAll, Expr.compileAll, Expr.compileAll]
      apply Compile.Alike.bind_same (Expr.compile_masked scope false expr)
      intro term
      apply Compile.Alike.bind_same (Expr.compileAll_masked scope rest)
      intro terms
      exact .pure rfl
termination_by structural exprs => exprs

theorem Capture.compile_masked (scope : Scope) (name : String) : ∀ captures : List Capture,
    Compile.Alike (Capture.compile scope name captures)
      (Capture.compile scope name (Capture.maskedAll captures))
  | [] => by
      rw [Capture.maskedAll, Capture.compile]
      exact Compile.Alike.unsupported _ _
  | .value held value :: rest => by
      rw [Capture.maskedAll, Capture.masked, Capture.compile, Capture.compile]
      split
      · exact Compile.Alike.bindValue scope value .null
      · exact Capture.compile_masked scope name rest
  | .query held query :: rest => by
      rw [Capture.maskedAll, Capture.masked, Capture.compile, Capture.compile]
      split
      · apply Compile.Alike.nest_bind scope fun path =>
          Query.compile_masked scope.resolver path query
        intro statement
        exact .pure rfl
      · exact Capture.compile_masked scope name rest
termination_by structural captures => captures

theorem Lambda.compileAll_masked (scope : Scope) : ∀ predicates : List Lambda,
    Compile.Alike (Lambda.compileAll scope predicates)
      (Lambda.compileAll scope (Lambda.maskedAll predicates))
  | [] => by
      rw [Lambda.maskedAll, Lambda.compileAll]
      exact .pure rfl
  | ⟨params, body⟩ :: rest => by
      rw [Lambda.maskedAll, Lambda.masked, Lambda.compileAll, Lambda.compileAll]
      apply Compile.Alike.bind_same (Expr.compile_masked scope true body)
      intro term
      apply Compile.Alike.bind_same (Lambda.compileAll_masked scope rest)
      intro terms
      rw [encloseDisjunction_masked]
      exact .pure rfl
termination_by structural predicates => predicates

theorem Join.compileAll_masked (scope : Scope) : ∀ joins : List Join,
    Compile.Alike (Join.compileAll scope joins) (Join.compileAll scope (Join.maskedAll joins))
  | [] => by
      rw [Join.maskedAll, Join.compileAll]
      exact .pure rfl
  | ⟨kind, source, outerKey, innerKey, result⟩ :: rest => by
      have sameAliases := scope.aliases.bindJoin_masked ⟨kind, source, outerKey, innerKey, result⟩
      rw [Join.masked] at sameAliases
      rw [Join.maskedAll, Join.masked, Join.compileAll, Join.compileAll]
      simp only [sameAliases, keyMember?_masked]
      apply Compile.Alike.bind_same (Compile.Alike.lift _)
      rintro ⟨table, aliases⟩
      apply Compile.Alike.nest_bind _ fun path =>
        Query.compileSource_masked scope.resolver path source
      intro source
      apply Compile.Alike.bind_same (Lambda.compileBody_masked _ outerKey)
      intro outer
      split
      · exact Compile.Alike.unsupported _ _
      · apply Compile.Alike.bind_same (Join.compileAll_masked _ rest)
        rintro ⟨clauses, scope⟩
        exact .pure rfl
termination_by structural joins => joins

theorem Lambda.compileBody_masked (scope : Scope) : ∀ function : Lambda,
    Compile.Alike (Lambda.compileBody scope function) (Lambda.compileBody scope function.masked)
  | ⟨params, body⟩ => by
      rw [Lambda.masked, Lambda.compileBody, Lambda.compileBody]
      exact Expr.compile_masked scope false body
termination_by structural function => function

theorem Lambda.compileGroupKey_masked (scope : Scope) : ∀ key : Option Lambda,
    Compile.Alike (Lambda.compileGroupKey scope key)
      (Lambda.compileGroupKey scope (Lambda.maskedOption key))
  | none => by
      rw [Lambda.maskedOption, Lambda.compileGroupKey]
      exact .pure rfl
  | some ⟨params, body⟩ => by
      have single : Compile.Alike
          (do let key ← body.compile scope false
              return (some [key], { scope with groupKey := some key }))
          (do let key ← body.masked.compile scope false
              return (some [key], { scope with groupKey := some key })) := by
        apply Compile.Alike.bind_same (Expr.compile_masked scope false body)
        intro key
        exact .pure rfl
      rw [Lambda.maskedOption, Lambda.masked]
      cases body with
      | construct ctor args ty =>
          cases ctor with
          | record names =>
              simp only [Expr.masked, Lambda.compileGroupKey]
              apply Compile.Alike.bind_same (Expr.compileAll_masked scope args)
              intro keys
              exact .pure rfl
          | _ =>
              simp only [Expr.masked, Lambda.compileGroupKey] at single ⊢
              exact single
      | _ =>
          simp only [Expr.masked, Lambda.compileGroupKey] at single ⊢
          exact single
termination_by structural key => key

theorem Order.compileAll_masked (scope : Scope) : ∀ orders : List Order,
    Compile.Alike (Order.compileAll scope orders)
      (Order.compileAll scope (Order.maskedAll orders))
  | [] => by
      rw [Order.maskedAll, Order.compileAll]
      exact .pure rfl
  | ⟨key, ascending⟩ :: rest => by
      rw [Order.maskedAll, Order.masked, Order.compileAll, Order.compileAll]
      apply Compile.Alike.bind_same (Lambda.compileBody_masked scope key)
      intro term
      apply Compile.Alike.bind_same (Order.compileAll_masked scope rest)
      intro keys
      exact .pure rfl
termination_by structural orders => orders

theorem Lambda.compileSelection_masked (scope : Scope) : ∀ function : Lambda,
    Compile.Alike (Lambda.compileSelection scope function)
      (Lambda.compileSelection scope function.masked)
  | ⟨params, body⟩ => by
      rw [Lambda.masked, Lambda.compileSelection, Lambda.compileSelection]
      apply Compile.Alike.bind_same (Expr.compile_masked scope false body)
      intro term
      rw [selectionOf_masked]
      exact .pure rfl
termination_by structural function => function

theorem Join.compileLast_masked (scope : Scope) : ∀ joins : List Join,
    Compile.Alike (Join.compileLast scope joins) (Join.compileLast scope (Join.maskedAll joins))
  | [] => by
      rw [Join.maskedAll, Join.compileLast]
      exact .pure rfl
  | [⟨kind, source, outerKey, innerKey, result⟩] => by
      rw [Join.maskedAll, Join.masked, Join.maskedAll, Join.compileLast, Join.compileLast]
      exact Lambda.compileSelection_masked scope result
  | _ :: join :: rest => by
      have last := Join.compileLast_masked scope (join :: rest)
      rw [Join.maskedAll] at last
      rw [Join.maskedAll, Join.maskedAll, Join.compileLast, Join.compileLast]
      exact last
termination_by structural joins => joins

theorem Select.compile_masked (resolver : Resolver) (path : String) : ∀ node : Select,
    Nested.Alike (node.compile resolver path) (node.masked.compile resolver path)
  | ⟨source, modelType, filters, having, projection, groupKey, groupElement, joins, orderBy,
      skip, take, distinct, stage⟩ => by
      rw [Select.compile_eq, Select.compile_eq, Aliases.bindSource_masked]
      rw [Select.masked]
      apply Nested.Alike.toNested
      apply Compile.Alike.bind_same (Compile.Alike.lift _)
      rintro ⟨table, aliases⟩
      apply Compile.Alike.nest_bind _ fun path =>
        Query.compileSource_masked resolver path source
      intro source
      apply Compile.Alike.bind_same (Join.compileAll_masked _ joins)
      rintro ⟨joinClauses, scope⟩
      apply Compile.Alike.bind_same (Lambda.compileAll_masked _ filters)
      intro filters
      apply Compile.Alike.bind_same (Lambda.compileGroupKey_masked _ groupKey)
      rintro ⟨groupBy, scope⟩
      apply Compile.Alike.bind_same (Lambda.compileAll_masked _ having)
      intro having
      apply Compile.Alike.bind_same (Order.compileAll_masked _ orderBy)
      intro sortKeys
      have columns : Compile.Alike (Select.compileColumns scope projection joins)
          (Select.compileColumns scope (Lambda.maskedOption projection)
            (Join.maskedAll joins)) := by
        cases projection with
        | some function =>
            rw [Lambda.maskedOption]
            exact Lambda.compileSelection_masked scope function
        | none =>
            rw [Lambda.maskedOption]
            exact Join.compileLast_masked scope joins
      apply Compile.Alike.bind_same columns
      intro selection
      exact .pure rfl
termination_by structural node => node

theorem Query.compile_masked (resolver : Resolver) (path : String) : ∀ query : Query,
    Nested.Alike (query.compile resolver path) (query.masked.compile resolver path)
  | .table model => by
      rw [Query.masked, Query.compile]
      exact .pure ⟨rfl, rfl⟩
  | .select node => by
      rw [Query.masked, Query.compile, Query.compile]
      exact (Select.compile_masked resolver path node).map Statement.select
  | .combine op first second => by
      rw [Query.masked, Query.compile, Query.compile]
      exact (Query.compile_masked resolver (path ++ "so0_") first).combine
        (Query.compile_masked resolver (path ++ "so1_") second) (Statement.combine op)
termination_by structural query => query

theorem Query.compileSource_masked (resolver : Resolver) (path : String) : ∀ query : Query,
    Nested.Alike (query.compileSource resolver path) (query.masked.compileSource resolver path)
  | .table model => by
      rw [Query.masked, Query.compileSource]
      exact .pure ⟨rfl, rfl⟩
  | .select ⟨source, modelType, filters, having, projection, groupKey, groupElement, joins,
      orderBy, skip, take, distinct, stage⟩ => by
      have whole := Select.compile_masked resolver path ⟨source, modelType, filters, having,
        projection, groupKey, groupElement, joins, orderBy, skip, take, distinct, stage⟩
      rw [Query.masked, Query.compileSource_select, Query.compileSource_select,
        Select.isTrivial_masked]
      split
      · rw [Select.masked]
        exact Query.compileSource_masked resolver path source
      · exact whole.map fun body => Source.derived (.select body)
  | .combine op first second => by
      rw [Query.masked, Query.compileSource, Query.compileSource]
      exact (Query.compile_masked resolver (path ++ "so0_") first).combine
        (Query.compile_masked resolver (path ++ "so1_") second)
        fun left right => Source.derived (.combine op left right)
termination_by structural query => query

end

/-! ### Commands -/

/-- One text and the same placeholder names in the same order; only the bound values
may differ. -/
def Command.SameForm (first second : Command) : Prop :=
  first.text = second.text ∧ first.parameters.names = second.parameters.names

theorem Command.SameForm.symm {first second : Command} (form : first.SameForm second) :
    second.SameForm first :=
  ⟨form.1.symm, form.2.symm⟩

theorem Command.SameForm.trans {first second third : Command} (form : first.SameForm second)
    (form' : second.SameForm third) : first.SameForm third :=
  ⟨form.1.trans form'.1, form.2.trans form'.2⟩

/-- The command of a query has the form of the blanked query's command. -/
theorem Query.toCommand_masked (resolver : Resolver) (query : Query) :
    Paired Command.SameForm Error.SameKind (query.toCommand resolver)
      (query.masked.toCommand resolver) := by
  have outcomes := Query.compile_masked resolver "" query 0 0 rfl
  unfold Query.toCommand
  generalize query.compile resolver "" 0 = outcome at outcomes ⊢
  generalize query.masked.compile resolver "" 0 = outcome' at outcomes ⊢
  cases outcomes with
  | ok related => exact .ok ⟨congrArg Statement.text related.1.1, related.1.2⟩
  | error related => exact .error related

/-- Literals never influence the text: of two queries that are the same once their
literals are blanked, either both have commands of one form, or both fail with one
class of failure. -/
theorem Query.toCommand_paired_of_masked_eq (resolver : Resolver) {first second : Query}
    (same : first.masked = second.masked) :
    Paired Command.SameForm Error.SameKind (first.toCommand resolver)
      (second.toCommand resolver) := by
  have blanked := Query.toCommand_masked resolver first
  rw [same] at blanked
  have restored : Paired Command.SameForm Error.SameKind (second.masked.toCommand resolver)
      (second.toCommand resolver) :=
    (Query.toCommand_masked resolver second).symm (fun _ _ form => form.symm)
      (fun _ _ kind => kind.symm)
  exact blanked.trans restored (fun _ _ _ form form' => form.trans form')
    (fun _ _ _ kind kind' => kind.trans kind')

theorem usersByLogin_paired :
    (usersByLogin (.string "jacenty") (.string "x' OR 1=1")).masked =
        (usersByLogin (.int 7) .null).masked ∧
      Paired Command.SameForm Error.SameKind
        ((usersByLogin (.string "jacenty") (.string "x' OR 1=1")).toCommand .identity)
        ((usersByLogin (.int 7) .null).toCommand .identity) :=
  ⟨rfl, Query.toCommand_paired_of_masked_eq .identity rfl⟩

end TypedQuery
