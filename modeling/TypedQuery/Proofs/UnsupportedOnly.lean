/-
Module: TypedQuery.Proofs.UnsupportedOnly
Purpose: Compilation gives up only on fragments without an SQL form, provided that the result
  of every join names both sides. The builder checks just that, so the aliases of a reachable
  query are always found, at every level of nesting.
Main exports: OnlyUnsupported, Select.NamesBothSides, Query.safe_of_namesBothSides,
  Query.Reachable.toCommand_ok_or_unsupported
-/
import TypedQuery.Proofs.Compilation
import TypedQuery.Proofs.NodeInvariant

namespace TypedQuery

namespace Sql

/-- A step that fails, if at all, on a fragment without an SQL form. -/
def OnlyUnsupported {σ α : Type} (step : StateT σ (Except Error) α) : Prop :=
  ∀ state error, step state = .error error → ∃ fragment, error = .unsupported fragment

namespace OnlyUnsupported

variable {σ α β : Type}

theorem pure (result : α) :
    OnlyUnsupported (Pure.pure result : StateT σ (Except Error) α) := by
  intro state error failed
  cases failed

theorem unsupported (fragment : Fragment) :
    OnlyUnsupported (Compile.unsupported fragment : Compile α) := by
  intro progress error failed
  cases failed
  exact ⟨fragment, rfl⟩

theorem bind {step : StateT σ (Except Error) α} {next : α → StateT σ (Except Error) β}
    (head : OnlyUnsupported step) (tail : ∀ result, OnlyUnsupported (next result)) :
    OnlyUnsupported (step >>= next) := by
  intro state error failed
  cases outcome : step state with
  | error early =>
      rw [bind_of_error outcome] at failed
      cases failed
      exact head state error outcome
  | ok reached =>
      rw [bind_of_ok outcome] at failed
      exact tail reached.1 reached.2 error failed

theorem still {step : Compile α} (isStill : Compile.Still step) : OnlyUnsupported step := by
  cases isStill with
  | pure result => exact .pure result
  | unsupported fragment => exact .unsupported fragment

/-- A step outside the state that succeeds. -/
theorem lift {action : Except Error α} {result : α} (done : action = .ok result) :
    OnlyUnsupported (liftM action : Compile α) := by
  rw [done]
  exact .pure result

theorem bindValue (scope : Scope) (value : Value) :
    OnlyUnsupported (Compile.bindValue scope value) := by
  intro progress error failed
  cases failed

theorem nextPath (scope : Scope) : OnlyUnsupported (Compile.nextPath scope) := by
  intro progress error failed
  cases failed

theorem embed {command : Nested (α × Parameters)} (inner : OnlyUnsupported command) :
    OnlyUnsupported (Compile.embed command) := by
  intro progress error failed
  unfold Compile.embed at failed
  cases outcome : command progress.nested with
  | error early =>
      rw [outcome] at failed
      cases failed
      exact inner _ error outcome
  | ok reached =>
      rw [outcome] at failed
      cases failed

theorem toNested {parts : Compile α} (inner : OnlyUnsupported parts) :
    OnlyUnsupported (Compile.toNested parts) := by
  intro nested error failed
  unfold Compile.toNested at failed
  cases outcome : parts ⟨nested, .empty⟩ with
  | error early =>
      rw [outcome] at failed
      cases failed
      exact inner _ error outcome
  | ok reached =>
      rw [outcome] at failed
      cases failed

end OnlyUnsupported

/-! ### Aliases -/

end Sql

/-- The result of every join of the node has a parameter for each side. -/
def Select.NamesBothSides (node : Select) : Prop :=
  ∀ join ∈ node.joins, join.result.params.length = 2

namespace Sql.Aliases

theorem resultParam_ok {join : Join} (binary : join.result.params.length = 2) {side : Nat}
    (isSide : side < 2) : ∃ param, resultParam join side = .ok param := by
  have inside : side < join.result.params.length := by omega
  exact ⟨join.result.params[side], by simp [resultParam, List.getElem?_eq_getElem inside]⟩

/-- A join that names both sides has an alias. -/
theorem bindJoin_ok {join : Join} (binary : join.result.params.length = 2) (aliases : Aliases) :
    ∃ bound, aliases.bindJoin join = .ok bound := by
  obtain ⟨param, found⟩ := resultParam_ok binary (by decide : 1 < 2)
  unfold bindJoin
  rw [found]
  exact ⟨_, rfl⟩

/-- A node whose joins name both sides has its first alias, or needs none. -/
theorem bindSource_ok {node : Select} (names : node.NamesBothSides) (path : String) :
    ∃ bound, bindSource path node = .ok bound := by
  unfold bindSource
  split
  · rename_i join rest joins
    obtain ⟨param, found⟩ := resultParam_ok (names join (by simp [joins])) (by decide : 0 < 2)
    rw [found]
    cases rowField? join.result 0 with
    | some member => exact ⟨_, rfl⟩
    | none => exact ⟨_, rfl⟩
  · dsimp only
    split
    · exact ⟨_, rfl⟩
    · exact ⟨_, rfl⟩

end Sql.Aliases

open Sql Sql.Compile

/-- As a command and as a source, the query is given up only on a fragment without an SQL
form. -/
structure Query.Safe (query : Query) : Prop where
  command : ∀ resolver path, OnlyUnsupported (query.compile resolver path)
  source : ∀ resolver path, OnlyUnsupported (query.compileSource resolver path)

/-! ### Expressions

An expression gives up in the required way if the queries that it captures do. -/

theorem Capture.compile_onlyUnsupported (scope : Scope) (name : String) {captures : List Capture}
    (captured : ∀ query ∈ captures.filterMap Capture.query?, query.Safe) :
    OnlyUnsupported (Capture.compile scope name captures) := by
  induction captures with
  | nil =>
      rw [Capture.compile]
      exact .unsupported _
  | cons capture rest ih =>
      cases capture with
      | value held value =>
          rw [Capture.compile]
          split
          · exact .bindValue scope value
          · exact ih captured
      | query held query =>
          simp only [List.filterMap_cons, Capture.query?, List.forall_mem_cons] at captured
          rw [Capture.compile]
          split
          · apply OnlyUnsupported.bind (.nextPath scope)
            intro path
            apply OnlyUnsupported.bind (.embed (captured.1.command scope.resolver path))
            intro statement
            exact .pure _
          · exact ih captured.2

/-- The step for members: the target and its parts give up in the required way, so the member
does. -/
theorem Expr.compile_member_onlyUnsupported {scope : Scope} {target : Option Expr}
    (condition : Bool) (name : Member) (ty : Ty)
    (whole : OnlyUnsupported (Expr.compileTarget scope target))
    (parts : Expr.TargetParts
      (fun callee args => OnlyUnsupported (Expr.compileTarget scope callee) ∧
        OnlyUnsupported (Expr.compileAll scope args))
      (fun captures => ∀ name, OnlyUnsupported (Capture.compile scope name captures)) target) :
    OnlyUnsupported ((Expr.member target name ty).compile scope condition) := by
  rw [Expr.compile_member]
  cases form : Expr.memberForm scope target name ty with
  | key term => exact .pure term
  | refused fragment => exact .unsupported fragment
  | duration unit template callee args =>
      obtain ⟨ofCallee, ofArgs⟩ := parts.duration form
      apply OnlyUnsupported.bind ofCallee
      intro callee
      apply OnlyUnsupported.bind ofArgs
      intro args
      exact .pure _
  | captured captures => exact parts.captures form _
  | property template =>
      apply OnlyUnsupported.bind whole
      intro callee
      exact .pure _
  | column => exact .still (memberColumn_still scope condition target name ty)

mutual

theorem Expr.compile_onlyUnsupported (scope : Scope) (condition : Bool) : ∀ expr : Expr,
    (∀ query ∈ expr.captured, query.Safe) → OnlyUnsupported (expr.compile scope condition)
  | .binary op left right ty, captured => by
      simp only [Expr.captured, List.forall_mem_append] at captured
      rw [Expr.compile]
      apply OnlyUnsupported.bind (Expr.compile_onlyUnsupported scope _ left captured.1)
      intro left
      apply OnlyUnsupported.bind (Expr.compile_onlyUnsupported scope _ right captured.2)
      intro right
      exact .still (binaryTerm_still op left right)
  | .unary op operand ty, captured => by
      simp only [Expr.captured] at captured
      rw [Expr.compile]
      apply OnlyUnsupported.bind (Expr.compile_onlyUnsupported scope _ operand captured)
      intro operand
      exact .still (unaryTerm_still op operand ty)
  | .conditional test ifTrue ifFalse ty, captured => by
      simp only [Expr.captured, List.forall_mem_append] at captured
      rw [Expr.compile]
      apply OnlyUnsupported.bind (Expr.compile_onlyUnsupported scope _ test captured.1.1)
      intro test
      apply OnlyUnsupported.bind (Expr.compile_onlyUnsupported scope _ ifTrue captured.1.2)
      intro ifTrue
      apply OnlyUnsupported.bind (Expr.compile_onlyUnsupported scope _ ifFalse captured.2)
      intro ifFalse
      exact .pure _
  | .member target name ty, captured => by
      rw [Expr.captured] at captured
      refine Expr.compile_member_onlyUnsupported condition name ty
        (Expr.compileTarget_onlyUnsupported scope target captured) ?_
      cases target with
      | none => trivial
      | some expr =>
          rw [Expr.capturedTarget] at captured
          cases expr with
          | call callee method args ty =>
              simp only [Expr.captured, List.forall_mem_append] at captured
              exact ⟨Expr.compileTarget_onlyUnsupported scope callee captured.1,
                Expr.compileAll_onlyUnsupported scope args captured.2⟩
          | closure captures ty =>
              rw [Expr.captured] at captured
              exact fun name => Capture.compile_onlyUnsupported scope name captured
          | _ => trivial
  | .call target method args ty, captured => by
      simp only [Expr.captured, List.forall_mem_append] at captured
      rw [Expr.compile]
      apply OnlyUnsupported.bind (Expr.compileTarget_onlyUnsupported scope target captured.1)
      intro callee
      apply OnlyUnsupported.bind (Expr.compileAll_onlyUnsupported scope args captured.2)
      intro args
      exact .still (callTerm_still method (callee :: args))
  | .construct ctor args ty, captured => by
      rw [Expr.captured] at captured
      rw [Expr.compile]
      apply OnlyUnsupported.bind (Expr.compileAll_onlyUnsupported scope args captured)
      intro args
      exact .still (constructTerm_still ctor args)
  | .constant value ty, captured => by
      cases value with
      | null =>
          rw [Expr.compile]
          exact .pure _
      | _ =>
          simp only [Expr.compile]
          exact .bindValue scope _
  | .closure captures ty, captured => by
      rw [Expr.compile]
      exact .unsupported _
  | .parameter param, captured => by
      rw [Expr.compile]
      exact .pure _
  | .lambda ⟨params, body⟩, captured => by
      rw [Expr.captured] at captured
      rw [Expr.compile]
      exact Expr.compile_onlyUnsupported scope false body captured
termination_by structural expr => expr

theorem Expr.compileTarget_onlyUnsupported (scope : Scope) : ∀ target : Option Expr,
    (∀ query ∈ Expr.capturedTarget target, query.Safe) →
      OnlyUnsupported (Expr.compileTarget scope target)
  | none, captured => by
      rw [Expr.compileTarget]
      exact .pure _
  | some target, captured => by
      rw [Expr.capturedTarget] at captured
      rw [Expr.compileTarget]
      exact Expr.compile_onlyUnsupported scope false target captured
termination_by structural target => target

theorem Expr.compileAll_onlyUnsupported (scope : Scope) : ∀ exprs : List Expr,
    (∀ query ∈ Expr.capturedAll exprs, query.Safe) →
      OnlyUnsupported (Expr.compileAll scope exprs)
  | [], captured => by
      rw [Expr.compileAll]
      exact .pure _
  | expr :: rest, captured => by
      simp only [Expr.capturedAll, List.forall_mem_append] at captured
      rw [Expr.compileAll]
      apply OnlyUnsupported.bind (Expr.compile_onlyUnsupported scope false expr captured.1)
      intro term
      apply OnlyUnsupported.bind (Expr.compileAll_onlyUnsupported scope rest captured.2)
      intro terms
      exact .pure _
termination_by structural exprs => exprs

end

/-! ### Clauses -/

theorem Lambda.compileBody_onlyUnsupported (scope : Scope) {function : Lambda}
    (captured : ∀ query ∈ function.captured, query.Safe) :
    OnlyUnsupported (Lambda.compileBody scope function) := by
  obtain ⟨params, body⟩ := function
  rw [Lambda.compileBody]
  exact Expr.compile_onlyUnsupported scope false body captured

theorem Lambda.compileAll_onlyUnsupported (scope : Scope) {predicates : List Lambda}
    (captured : ∀ function ∈ predicates, ∀ query ∈ function.captured, query.Safe) :
    OnlyUnsupported (Lambda.compileAll scope predicates) := by
  induction predicates with
  | nil =>
      rw [Lambda.compileAll]
      exact .pure _
  | cons function rest ih =>
      obtain ⟨params, body⟩ := function
      rw [List.forall_mem_cons] at captured
      rw [Lambda.compileAll]
      apply OnlyUnsupported.bind (Expr.compile_onlyUnsupported scope true body captured.1)
      intro term
      apply OnlyUnsupported.bind (ih captured.2)
      intro terms
      exact .pure _

theorem Expr.capturedAll_groupFields (key : Expr) :
    Expr.capturedAll key.groupFields = key.captured := by
  cases key with
  | construct ctor args ty =>
      cases ctor with
      | record names => simp [Expr.groupFields, Expr.captured]
      | _ => simp [Expr.groupFields, Expr.capturedAll]
  | _ => simp [Expr.groupFields, Expr.capturedAll]

theorem Lambda.compileGroupKey_onlyUnsupported (scope : Scope) {key : Option Lambda}
    (captured : ∀ function ∈ key.toList, ∀ query ∈ function.captured, query.Safe) :
    OnlyUnsupported (Lambda.compileGroupKey scope key) := by
  cases key with
  | none =>
      rw [Lambda.compileGroupKey]
      exact .pure _
  | some function =>
      simp only [Option.toList_some, List.forall_mem_singleton, Lambda.captured] at captured
      rw [← Expr.capturedAll_groupFields] at captured
      rw [Lambda.compileGroupKey_some]
      apply OnlyUnsupported.bind (Expr.compileAll_onlyUnsupported scope _ captured)
      intro terms
      exact .pure _

theorem Order.compileAll_onlyUnsupported (scope : Scope) {orders : List Order}
    (captured : ∀ order ∈ orders, ∀ query ∈ order.key.captured, query.Safe) :
    OnlyUnsupported (Order.compileAll scope orders) := by
  induction orders with
  | nil =>
      rw [Order.compileAll]
      exact .pure _
  | cons order rest ih =>
      obtain ⟨key, ascending⟩ := order
      rw [List.forall_mem_cons] at captured
      rw [Order.compileAll]
      apply OnlyUnsupported.bind (Lambda.compileBody_onlyUnsupported scope captured.1)
      intro term
      apply OnlyUnsupported.bind (ih captured.2)
      intro keys
      exact .pure _

theorem Lambda.compileSelection_onlyUnsupported (scope : Scope) {function : Lambda}
    (captured : ∀ query ∈ function.captured, query.Safe) :
    OnlyUnsupported (Lambda.compileSelection scope function) := by
  obtain ⟨params, body⟩ := function
  rw [Lambda.compileSelection]
  apply OnlyUnsupported.bind (Expr.compile_onlyUnsupported scope false body captured)
  intro term
  exact .pure _

theorem Select.compileColumns_onlyUnsupported (scope : Scope) {projection : Option Lambda}
    {joins : List Join}
    (ofProjection : ∀ function ∈ projection.toList, ∀ query ∈ function.captured, query.Safe)
    (ofResults : ∀ join ∈ joins, ∀ query ∈ join.result.captured, query.Safe) :
    OnlyUnsupported (Select.compileColumns scope projection joins) := by
  rw [Select.compileColumns_eq]
  split
  · rename_i function selected
    apply Lambda.compileSelection_onlyUnsupported scope
    rcases Option.or_eq_some_iff.mp selected with isProjection | ⟨-, isResult⟩
    · exact ofProjection function (by simp [isProjection])
    · obtain ⟨join, isLast, rfl⟩ := Option.map_eq_some_iff.mp isResult
      exact ofResults join (List.mem_of_getLast? isLast)
  · exact .pure _

theorem Join.compileAll_onlyUnsupported (scope : Scope) {joins : List Join}
    (binary : ∀ join ∈ joins, join.result.params.length = 2)
    (sources : ∀ join ∈ joins, join.source.Safe)
    (captured : ∀ join ∈ joins, ∀ query ∈ join.outerKey.captured, query.Safe) :
    OnlyUnsupported (Join.compileAll scope joins) := by
  induction joins generalizing scope with
  | nil =>
      rw [Join.compileAll]
      exact .pure _
  | cons join rest ih =>
      obtain ⟨kind, source, outerKey, innerKey, result⟩ := join
      rw [List.forall_mem_cons] at binary sources captured
      obtain ⟨bound, binds⟩ := Aliases.bindJoin_ok binary.1 scope.aliases
      rw [Join.compileAll]
      apply OnlyUnsupported.bind (.lift binds)
      rintro ⟨table, aliases⟩
      apply OnlyUnsupported.bind (.nextPath _)
      intro path
      apply OnlyUnsupported.bind (.embed (sources.1.source _ path))
      intro source
      apply OnlyUnsupported.bind (Lambda.compileBody_onlyUnsupported _ captured.1)
      intro outer
      split
      · exact .unsupported _
      · apply OnlyUnsupported.bind (ih _ binary.2 sources.2 captured.2)
        rintro ⟨clauses, scope⟩
        exact .pure _

/-! ### Queries -/

/-- A node whose joins name both sides gives up in the required way if all that stands below
it does. -/
theorem Select.compile_onlyUnsupported {node : Select} (names : node.NamesBothSides)
    (operands : ∀ operand ∈ node.operands, operand.Safe) (resolver : Resolver) (path : String) :
    OnlyUnsupported (node.compile resolver path) := by
  have sources : ∀ join ∈ node.joins, join.source.Safe := by
    intro join present
    exact operands _ (mem_operands_of_join present)
  have captured : ∀ function ∈ node.functions, ∀ query ∈ function.captured, query.Safe := by
    intro function present query isCaptured
    exact operands query (mem_operands_of_captured present isCaptured)
  simp only [functions, unaryFunctions, List.forall_mem_append, List.forall_mem_map,
    List.forall_mem_flatMap, List.forall_mem_cons] at captured
  obtain ⟨⟨⟨⟨⟨⟨⟨ofFilters, ofHaving⟩, ofProjection⟩, ofKey⟩, -⟩, ofOrder⟩, ofKeys⟩, ofResults⟩ :=
    captured
  obtain ⟨bound, binds⟩ := Aliases.bindSource_ok names path
  rw [Select.compile_eq]
  apply OnlyUnsupported.toNested
  apply OnlyUnsupported.bind (.lift binds)
  rintro ⟨table, aliases⟩
  apply OnlyUnsupported.bind (.nextPath _)
  intro sourcePath
  apply OnlyUnsupported.bind (.embed ((operands _ node.source_mem_operands).source _ _))
  intro source
  apply OnlyUnsupported.bind (Join.compileAll_onlyUnsupported _ names sources
    fun join present => (ofKeys join present).1)
  rintro ⟨joinClauses, scope⟩
  apply OnlyUnsupported.bind (Lambda.compileAll_onlyUnsupported _ ofFilters)
  intro filters
  apply OnlyUnsupported.bind (Lambda.compileGroupKey_onlyUnsupported _ ofKey)
  rintro ⟨groupBy, scope⟩
  apply OnlyUnsupported.bind (Lambda.compileAll_onlyUnsupported _ ofHaving)
  intro having
  apply OnlyUnsupported.bind (Order.compileAll_onlyUnsupported _ ofOrder)
  intro sortKeys
  apply OnlyUnsupported.bind (Select.compileColumns_onlyUnsupported _ ofProjection ofResults)
  intro selection
  exact .pure _

/-- A query whose joins name both sides everywhere is given up only on a fragment without an
SQL form. -/
theorem Query.safe_of_namesBothSides (query : Query) :
    query.Everywhere Select.NamesBothSides → query.Safe := by
  induction query using Query.operand_induction with
  | table model =>
      intro _
      constructor
      · intro resolver path
        rw [Query.compile]
        exact .pure _
      · intro resolver path
        rw [Query.compileSource]
        exact .pure _
  | select node ih =>
      intro names
      obtain ⟨own, below⟩ := everywhere_select_iff.mp names
      have operands : ∀ operand ∈ node.operands, operand.Safe := by
        intro operand isOperand
        exact ih operand isOperand (below operand isOperand)
      have whole := Select.compile_onlyUnsupported own operands
      constructor
      · intro resolver path
        rw [Query.compile]
        apply OnlyUnsupported.bind (whole resolver path)
        rintro ⟨body, parameters⟩
        exact .pure _
      · intro resolver path
        rw [Query.compileSource_select]
        split
        · exact (operands _ node.source_mem_operands).source resolver path
        · apply OnlyUnsupported.bind (whole resolver path)
          rintro ⟨body, parameters⟩
          exact .pure _
  | combine op first second ofFirst ofSecond =>
      intro names
      obtain ⟨first, second⟩ := everywhere_combine_iff.mp names
      have firstSafe := ofFirst first
      have secondSafe := ofSecond second
      constructor
      · intro resolver path
        rw [Query.compile]
        apply OnlyUnsupported.bind (firstSafe.command resolver _)
        rintro ⟨first, parameters⟩
        apply OnlyUnsupported.bind (secondSafe.command resolver _)
        rintro ⟨second, others⟩
        exact .pure _
      · intro resolver path
        rw [Query.compileSource]
        apply OnlyUnsupported.bind (firstSafe.command resolver _)
        rintro ⟨first, parameters⟩
        apply OnlyUnsupported.bind (secondSafe.command resolver _)
        rintro ⟨second, others⟩
        exact .pure _

namespace Query

/-- The builder accepts only joins whose result names both sides. -/
theorem Reachable.namesBothSides {query : Query} (reachable : query.Reachable) :
    query.Everywhere Select.NamesBothSides := by
  refine Reachable.everywhere ?_ ?_ reachable
  · intro query join present
    cases present
  · intro clause accepted node names join present
    rcases Clause.mem_joins_change present with present | ⟨-, isNew⟩
    · exact names join present
    · exact accepted.1 _ isNew

/-- The command of a reachable query is found, or the query has a fragment without an SQL form;
nothing else goes wrong. In particular every node that stands anywhere in the query finds the
alias of its source and of each of its joins. -/
theorem Reachable.toCommand_ok_or_unsupported {query : Query} (reachable : query.Reachable)
    (resolver : Resolver) :
    ((∃ command, query.toCommand resolver = .ok command) ∨
        ∃ fragment, query.toCommand resolver = .error (.unsupported fragment)) ∧
      ∀ node, query.Contains node →
        (∀ path, ∃ bound, Aliases.bindSource path node = .ok bound) ∧
          ∀ join ∈ node.joins, ∀ aliases : Aliases, ∃ bound, aliases.bindJoin join = .ok bound := by
  have names := reachable.namesBothSides
  constructor
  · have safe := (query.safe_of_namesBothSides names).command resolver ""
    unfold toCommand
    cases outcome : query.compile resolver "" 0 with
    | ok reached => exact .inl ⟨_, rfl⟩
    | error error =>
        obtain ⟨fragment, rfl⟩ := safe 0 error outcome
        exact .inr ⟨fragment, rfl⟩
  · intro node contained
    have binary := names node contained
    exact ⟨Aliases.bindSource_ok binary,
      fun join present => Aliases.bindJoin_ok (binary join present)⟩

/-- A query with a join below a projection, and a captured one. -/
theorem roleHolders_toCommand :
    ∃ query, run roleHolders userTable = .ok query ∧ query.Reachable ∧
      ((∃ command, query.toCommand .identity = .ok command) ∨
        ∃ fragment, query.toCommand .identity = .error (.unsupported fragment)) := by
  obtain ⟨query, done⟩ : ∃ query, run roleHolders userTable = .ok query := ⟨_, rfl⟩
  have reachable : query.Reachable := Reachable.run (.table _) roleHolders_operands done
  exact ⟨query, done, reachable, (reachable.toCommand_ok_or_unsupported .identity).1⟩

end Query

end TypedQuery
