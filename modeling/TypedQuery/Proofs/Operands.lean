/-
Module: TypedQuery.Proofs.Operands
Purpose: What stands below a select node: its source, the sources that it joins and the
  queries that its lambdas capture. Select nodes are met anywhere in a query by going down
  through these, and statements about all queries are proved from what stands below.
Main exports: Lambda.captured, Select.operands, Query.Contains, Query.Everywhere,
  Query.operand_induction
-/
import TypedQuery.Expr.Basic

namespace TypedQuery

/-! ### Captured queries -/

/-- The query that a capture holds, if it is one. -/
def Capture.query? : Capture → Option Query
  | .value _ _ => none
  | .query _ held => some held

mutual

/-- Queries that an expression captures. What these capture in turn is theirs. -/
def Expr.captured : Expr → List Query
  | .member target _ _ => Expr.capturedTarget target
  | .constant _ _ => []
  | .closure captures _ => captures.filterMap Capture.query?
  | .parameter _ => []
  | .unary _ operand _ => operand.captured
  | .binary _ left right _ => left.captured ++ right.captured
  | .conditional test ifTrue ifFalse _ => test.captured ++ ifTrue.captured ++ ifFalse.captured
  | .call target _ args _ => Expr.capturedTarget target ++ Expr.capturedAll args
  | .construct _ args _ => Expr.capturedAll args
  | .lambda ⟨_, body⟩ => body.captured
termination_by structural expr => expr

/-- Queries that the target of a call or member captures. -/
def Expr.capturedTarget : Option Expr → List Query
  | none => []
  | some target => target.captured
termination_by structural target => target

/-- Queries that several expressions capture. -/
def Expr.capturedAll : List Expr → List Query
  | [] => []
  | expr :: rest => expr.captured ++ Expr.capturedAll rest
termination_by structural exprs => exprs

end

/-- Queries that a lambda captures. -/
def Lambda.captured (function : Lambda) : List Query := function.body.captured

/-! ### Operands of a node -/

namespace Select

/-- Lambdas of a node that range over a single row or group. -/
def unaryFunctions (node : Select) : List Lambda :=
  node.filters ++ node.having ++ node.projection.toList ++ node.groupKey.toList ++
    node.groupElement.toList ++ node.orderBy.map (·.key) ++
    node.joins.flatMap fun join => [join.outerKey, join.innerKey]

/-- All lambdas of a node. -/
def functions (node : Select) : List Lambda :=
  node.unaryFunctions ++ node.joins.map (·.result)

/-- Queries right below a node: its source, the sources that it joins and the queries that
its lambdas capture. -/
def operands (node : Select) : List Query :=
  node.source :: (node.joins.map (·.source) ++ node.functions.flatMap Lambda.captured)

theorem source_mem_operands (node : Select) : node.source ∈ node.operands :=
  List.mem_cons_self

theorem mem_operands_of_join {node : Select} {join : Join} (present : join ∈ node.joins) :
    join.source ∈ node.operands :=
  List.mem_cons_of_mem _ (List.mem_append_left _ (List.mem_map_of_mem present))

theorem mem_operands_of_captured {node : Select} {function : Lambda} {query : Query}
    (present : function ∈ node.functions) (isCaptured : query ∈ function.captured) :
    query ∈ node.operands :=
  List.mem_cons_of_mem _
    (List.mem_append_right _ (List.mem_flatMap.mpr ⟨function, present, isCaptured⟩))

end Select

/-! ### Nodes of a query -/

namespace Query

/-- The select node stands somewhere in the query. -/
inductive Contains : Query → Select → Prop
  | node (node : Select) : Contains (.select node) node
  | under {node inner : Select} {operand : Query} (isOperand : operand ∈ node.operands)
      (inside : Contains operand inner) : Contains (.select node) inner
  | first {op : SetOp} {first second : Query} {inner : Select} (inside : Contains first inner) :
      Contains (.combine op first second) inner
  | second {op : SetOp} {first second : Query} {inner : Select}
      (inside : Contains second inner) : Contains (.combine op first second) inner

/-- Something holds of every select node of the query. -/
def Everywhere (holds : Select → Prop) (query : Query) : Prop :=
  ∀ node, query.Contains node → holds node

variable {holds : Select → Prop}

theorem everywhere_table (model : Model) : (Query.table model).Everywhere holds := by
  intro node contained
  cases contained

theorem everywhere_select_iff {node : Select} :
    (Query.select node).Everywhere holds ↔
      holds node ∧ ∀ operand ∈ node.operands, operand.Everywhere holds := by
  constructor
  · intro all
    refine ⟨all node (.node node), ?_⟩
    intro operand isOperand inner inside
    exact all inner (.under isOperand inside)
  · rintro ⟨own, below⟩ inner contained
    cases contained with
    | node => exact own
    | under isOperand inside => exact below _ isOperand inner inside

theorem everywhere_combine_iff {op : SetOp} {first second : Query} :
    (Query.combine op first second).Everywhere holds ↔
      first.Everywhere holds ∧ second.Everywhere holds := by
  constructor
  · intro all
    exact ⟨fun node inside => all node (.first inside),
      fun node inside => all node (.second inside)⟩
  · rintro ⟨ofFirst, ofSecond⟩ node contained
    cases contained with
    | first inside => exact ofFirst node inside
    | second inside => exact ofSecond node inside

end Query

/-! ### Induction from what stands below -/

mutual

theorem Expr.sizeOf_captured {query : Query} : ∀ expr : Expr, query ∈ expr.captured →
    sizeOf query < sizeOf expr
  | .member target name ty, present => by
      rw [Expr.captured] at present
      have smaller := Expr.sizeOf_capturedTarget target present
      simp only [Expr.member.sizeOf_spec]
      omega
  | .constant value ty, present => by simp [Expr.captured] at present
  | .closure captures ty, present => by
      simp only [Expr.captured, List.mem_filterMap] at present
      obtain ⟨capture, present, held⟩ := present
      have smaller := List.sizeOf_lt_of_mem present
      cases capture with
      | value name value => cases held
      | query name inner =>
          cases held
          simp only [Capture.query.sizeOf_spec] at smaller
          simp only [Expr.closure.sizeOf_spec]
          omega
  | .parameter param, present => by simp [Expr.captured] at present
  | .unary op operand ty, present => by
      rw [Expr.captured] at present
      have smaller := Expr.sizeOf_captured operand present
      simp only [Expr.unary.sizeOf_spec]
      omega
  | .binary op left right ty, present => by
      simp only [Expr.captured, List.mem_append] at present
      simp only [Expr.binary.sizeOf_spec]
      rcases present with present | present
      · have smaller := Expr.sizeOf_captured left present
        omega
      · have smaller := Expr.sizeOf_captured right present
        omega
  | .conditional test ifTrue ifFalse ty, present => by
      simp only [Expr.captured, List.mem_append] at present
      simp only [Expr.conditional.sizeOf_spec]
      rcases present with (present | present) | present
      · have smaller := Expr.sizeOf_captured test present
        omega
      · have smaller := Expr.sizeOf_captured ifTrue present
        omega
      · have smaller := Expr.sizeOf_captured ifFalse present
        omega
  | .call target method args ty, present => by
      simp only [Expr.captured, List.mem_append] at present
      simp only [Expr.call.sizeOf_spec]
      rcases present with present | present
      · have smaller := Expr.sizeOf_capturedTarget target present
        omega
      · have smaller := Expr.sizeOf_capturedAll args present
        omega
  | .construct ctor args ty, present => by
      rw [Expr.captured] at present
      have smaller := Expr.sizeOf_capturedAll args present
      simp only [Expr.construct.sizeOf_spec]
      omega
  | .lambda ⟨params, body⟩, present => by
      rw [Expr.captured] at present
      have smaller := Expr.sizeOf_captured body present
      simp only [Expr.lambda.sizeOf_spec, Lambda.mk.sizeOf_spec]
      omega
termination_by structural expr => expr

theorem Expr.sizeOf_capturedTarget {query : Query} : ∀ target : Option Expr,
    query ∈ Expr.capturedTarget target → sizeOf query < sizeOf target
  | none, present => by simp [Expr.capturedTarget] at present
  | some target, present => by
      rw [Expr.capturedTarget] at present
      have smaller := Expr.sizeOf_captured target present
      simp only [Option.some.sizeOf_spec]
      omega
termination_by structural target => target

theorem Expr.sizeOf_capturedAll {query : Query} : ∀ exprs : List Expr,
    query ∈ Expr.capturedAll exprs → sizeOf query < sizeOf exprs
  | [], present => by simp [Expr.capturedAll] at present
  | expr :: rest, present => by
      simp only [Expr.capturedAll, List.mem_append] at present
      simp only [List.cons.sizeOf_spec]
      rcases present with present | present
      · have smaller := Expr.sizeOf_captured expr present
        omega
      · have smaller := Expr.sizeOf_capturedAll rest present
        omega
termination_by structural exprs => exprs

end

theorem Lambda.sizeOf_captured {function : Lambda} {query : Query}
    (present : query ∈ function.captured) : sizeOf query < sizeOf function := by
  obtain ⟨params, body⟩ := function
  have smaller := Expr.sizeOf_captured body present
  simp only [Lambda.mk.sizeOf_spec]
  omega

theorem Lambda.sizeOf_toList {function : Lambda} {clause : Option Lambda}
    (present : function ∈ clause.toList) : sizeOf function < sizeOf clause := by
  rw [Option.mem_toList] at present
  rw [present, Option.some.sizeOf_spec]
  omega

theorem Join.sizeOf_parts (join : Join) :
    sizeOf join.source < sizeOf join ∧ sizeOf join.outerKey < sizeOf join ∧
      sizeOf join.innerKey < sizeOf join ∧ sizeOf join.result < sizeOf join := by
  cases join
  simp only [Join.mk.sizeOf_spec]
  omega

theorem Order.sizeOf_key (order : Order) : sizeOf order.key < sizeOf order := by
  cases order
  simp only [Order.mk.sizeOf_spec]
  omega

namespace Select

theorem sizeOf_function {node : Select} {function : Lambda} (present : function ∈ node.functions) :
    sizeOf function < sizeOf node := by
  obtain ⟨source, modelType, filters, having, projection, groupKey, groupElement, joins, orderBy,
    skip, take, distinct, stage⟩ := node
  simp only [functions, unaryFunctions, List.mem_append, List.mem_map, List.mem_flatMap,
    List.mem_cons, List.not_mem_nil, or_false] at present
  simp only [Select.mk.sizeOf_spec]
  rcases present with ((((((present | present) | present) | present) | present) |
    ⟨order, present, rfl⟩) | ⟨join, present, rfl | rfl⟩) | ⟨join, present, rfl⟩
  · have smaller := List.sizeOf_lt_of_mem present
    omega
  · have smaller := List.sizeOf_lt_of_mem present
    omega
  · have smaller := Lambda.sizeOf_toList present
    omega
  · have smaller := Lambda.sizeOf_toList present
    omega
  · have smaller := Lambda.sizeOf_toList present
    omega
  · have smaller := List.sizeOf_lt_of_mem present
    have key := order.sizeOf_key
    omega
  · have smaller := List.sizeOf_lt_of_mem present
    have parts := join.sizeOf_parts
    omega
  · have smaller := List.sizeOf_lt_of_mem present
    have parts := join.sizeOf_parts
    omega
  · have smaller := List.sizeOf_lt_of_mem present
    have parts := join.sizeOf_parts
    omega

theorem sizeOf_operand {node : Select} {operand : Query} (present : operand ∈ node.operands) :
    sizeOf operand < sizeOf node := by
  simp only [operands, List.mem_cons, List.mem_append, List.mem_map, List.mem_flatMap] at present
  rcases present with rfl | ⟨join, present, rfl⟩ | ⟨function, present, captured⟩
  · cases node
    simp only [Select.mk.sizeOf_spec]
    omega
  · have smaller := List.sizeOf_lt_of_mem present
    have parts := join.sizeOf_parts
    cases node
    simp only [Select.mk.sizeOf_spec] at smaller ⊢
    omega
  · have smaller := sizeOf_function present
    have inner := Lambda.sizeOf_captured captured
    omega

end Select

/-- What holds of tables, of nodes whenever it holds of all that stands below them, and of
set operations whenever it holds of both sides, holds of every query. -/
theorem Query.operand_induction {motive : Query → Prop}
    (table : ∀ model, motive (.table model))
    (select : ∀ node : Select, (∀ operand ∈ node.operands, motive operand) → motive (.select node))
    (combine : ∀ op first second, motive first → motive second →
      motive (.combine op first second)) :
    ∀ query, motive query
  | .table model => table model
  | .select node => select node fun operand _ =>
      Query.operand_induction table select combine operand
  | .combine op first second =>
      combine op first second (Query.operand_induction table select combine first)
        (Query.operand_induction table select combine second)
termination_by query => sizeOf query
decreasing_by
  · rename_i present
    have smaller := Select.sizeOf_operand present
    simp only [Query.select.sizeOf_spec]
    omega
  · simp only [Query.combine.sizeOf_spec]
    omega
  · simp only [Query.combine.sizeOf_spec]
    omega

end TypedQuery
