/-
Module: TypedQuery.Proofs.CommandNodes
Purpose: The select commands anywhere in a compiled command, through derived tables, joined
  sources, set operands and nested commands in terms. Each of them is what a select node of the
  query is compiled to, so what holds of the command of every node holds all through a command.
Main exports: Sql.Body.HasOperand, Sql.Statement.Contains, Select.GivesBody,
  Query.GivesCommand.node_of_contains
-/
import TypedQuery.Proofs.TermLeaves

namespace TypedQuery

/-! ### Select commands of a command -/

namespace Sql

/-- The command stands right below a select command: as the source, as a joined source, or in a
term of a clause. -/
inductive Body.HasOperand (body : Body) (statement : Statement) : Prop
  | source (isSource : body.source = .derived statement)
  | joined {clause : JoinClause} (isClause : clause ∈ body.joins)
      (isSource : clause.source = .derived statement)
  | nested {term : Term} (isTerm : term ∈ body.terms) (isLeaf : term.HasLeaf (.subquery statement))

/-- The select command stands somewhere in the command. -/
inductive Statement.Contains : Statement → Body → Prop
  | body (body : Body) : Contains (.select body) body
  | under {body inner : Body} {operand : Statement} (isOperand : body.HasOperand operand)
      (inside : Contains operand inner) : Contains (.select body) inner
  | first {op : SetOp} {first second : Statement} {inner : Body} (inside : Contains first inner) :
      Contains (.combine op first second) inner
  | second {op : SetOp} {first second : Statement} {inner : Body}
      (inside : Contains second inner) : Contains (.combine op first second) inner

end Sql

open Sql Sql.Compile

/-- The select command is what the node is compiled to under the prefix. -/
def Select.GivesBody (resolver : Resolver) (path : String) (node : Select) (body : Body) : Prop :=
  ∃ nested parameters nested',
    node.compile resolver path nested = .ok ((body, parameters), nested')

variable {resolver : Resolver} {path : String}

theorem Select.GivesBody.compiledTo {node : Select} {body : Body}
    (gives : node.GivesBody resolver path body) :
    ∃ first joined key, node.CompiledTo resolver path first joined key body := by
  obtain ⟨nested, parameters, nested', done⟩ := gives
  exact Select.compiledTo_of_compile done

/-! ### What queries are compiled to -/

namespace Query

theorem GivesCommand.table {model : Model} {statement : Statement}
    (gives : (Query.table model).GivesCommand resolver statement) :
    ∃ name, statement = .table name := by
  obtain ⟨path, nested, parameters, nested', done⟩ := gives
  rw [Query.compile] at done
  cases done
  exact ⟨_, rfl⟩

theorem GivesCommand.select {node : Select} {statement : Statement}
    (gives : (Query.select node).GivesCommand resolver statement) :
    ∃ path body, statement = .select body ∧ node.GivesBody resolver path body := by
  obtain ⟨path, nested, parameters, nested', done⟩ := gives
  rw [Query.compile] at done
  obtain ⟨⟨body, parameters⟩, _, ofNode, done⟩ := bind_eq_ok done
  cases done
  exact ⟨path, body, rfl, _, _, _, ofNode⟩

theorem GivesCommand.combine {op : SetOp} {first second : Query} {statement : Statement}
    (gives : (Query.combine op first second).GivesCommand resolver statement) :
    ∃ firstCommand secondCommand, statement = .combine op firstCommand secondCommand ∧
      first.GivesCommand resolver firstCommand ∧ second.GivesCommand resolver secondCommand := by
  obtain ⟨path, nested, parameters, nested', done⟩ := gives
  rw [Query.compile] at done
  obtain ⟨⟨firstCommand, parameters⟩, _, ofFirst, done⟩ := bind_eq_ok done
  obtain ⟨⟨secondCommand, others⟩, _, ofSecond, done⟩ := bind_eq_ok done
  cases done
  exact ⟨firstCommand, secondCommand, rfl, ⟨_, _, _, _, ofFirst⟩, ⟨_, _, _, _, ofSecond⟩⟩

/-- A node as a source is a derived table, unless it adds nothing and stands for its own source. -/
theorem GivesSource.select {node : Select} {source : Source}
    (gives : (Query.select node).GivesSource resolver source) :
    (node.isTrivial = true ∧ node.source.GivesSource resolver source) ∨
      ∃ statement, source = .derived statement ∧
        (Query.select node).GivesCommand resolver statement := by
  obtain ⟨path, nested, parameters, nested', done⟩ := gives
  rw [Query.compileSource_select] at done
  split at done
  · exact .inl ⟨‹_›, _, _, _, _, done⟩
  · obtain ⟨⟨body, parameters⟩, _, ofNode, done⟩ := bind_eq_ok done
    cases done
    refine .inr ⟨.select body, rfl, path, nested, parameters, nested', ?_⟩
    rw [Query.compile, bind_of_ok ofNode]
    rfl

/-- A set operation as a source is a derived table. -/
theorem GivesSource.combine {op : SetOp} {first second : Query} {source : Source}
    (gives : (Query.combine op first second).GivesSource resolver source) :
    ∃ statement, source = .derived statement ∧
      (Query.combine op first second).GivesCommand resolver statement := by
  obtain ⟨path, nested, parameters, nested', done⟩ := gives
  rw [Query.compileSource] at done
  obtain ⟨⟨firstCommand, parameters⟩, _, ofFirst, done⟩ := bind_eq_ok done
  obtain ⟨⟨secondCommand, others⟩, _, ofSecond, done⟩ := bind_eq_ok done
  cases done
  refine ⟨.combine op firstCommand secondCommand, rfl, path, nested, parameters.merge others,
    nested', ?_⟩
  rw [Query.compile, bind_of_ok ofFirst]
  dsimp only
  rw [bind_of_ok ofSecond]
  rfl

/-! ### Where the select commands come from -/

/-- Every select command in the statement comes from a node of the query. -/
def Explains (resolver : Resolver) (query : Query) (statement : Statement) : Prop :=
  ∀ body, statement.Contains body → ∃ node path, query.Contains node ∧
    node.GivesBody resolver path body

/-- Every command and every derived table that the query is compiled to is explained by it. -/
structure ExplainsAll (resolver : Resolver) (query : Query) : Prop where
  command : ∀ statement, query.GivesCommand resolver statement → query.Explains resolver statement
  source : ∀ statement, query.GivesSource resolver (.derived statement) →
    query.Explains resolver statement

theorem Explains.under {node : Select} {operand : Query} {statement : Statement}
    (isOperand : operand ∈ node.operands) (explains : operand.Explains resolver statement) :
    (Query.select node).Explains resolver statement := by
  intro body contains
  obtain ⟨inner, path, inside, gives⟩ := explains body contains
  exact ⟨inner, path, .under isOperand inside, gives⟩

/-- What stands right below the command of a node is explained by what stands right below the
node. -/
theorem explains_operand {node : Select} {body : Body} (gives : node.GivesBody resolver path body)
    (below : ∀ operand ∈ node.operands, operand.ExplainsAll resolver) {statement : Statement}
    (hasOperand : body.HasOperand statement) :
    (Query.select node).Explains resolver statement := by
  obtain ⟨first, joined, key, compiled⟩ := gives.compiledTo
  cases hasOperand with
  | source isSource =>
      have ofSource := compiled.source
      rw [isSource] at ofSource
      have isOperand := node.source_mem_operands
      exact ((below _ isOperand).source _ ofSource).under isOperand
  | @joined clause isClause isSource =>
      obtain ⟨join, isJoin, -, before, bound, -, joinCompiled⟩ := compiled.join_of_clause isClause
      have ofSource := joinCompiled.source
      rw [isSource] at ofSource
      have isOperand := Select.mem_operands_of_join isJoin
      exact ((below _ isOperand).source _ ofSource).under isOperand
  | nested isTerm isLeaf =>
      rcases compiled.leaf_cases isTerm isLeaf with
        ⟨clause, -, column, isColumn⟩ | ⟨function, present, count, aliases, -, leafIn⟩
      · cases isColumn
      · cases leafIn with
        | plain noTable noCommand => cases noCommand
        | param referred isTable noCommand => cases noCommand
        | key isKey isLeaf => cases isKey
        | captured isCaptured ofQuery =>
            have isOperand := Select.mem_operands_of_captured present isCaptured
            exact ((below _ isOperand).command _ ofQuery).under isOperand

theorem explainsAll (resolver : Resolver) (query : Query) : query.ExplainsAll resolver := by
  -- Commands and derived tables go together: the source of a node may be either.
  induction query using Query.operand_induction with
  | table model =>
      constructor
      · intro statement gives body contains
        obtain ⟨name, rfl⟩ := gives.table
        cases contains
      · rintro statement ⟨path, nested, parameters, nested', done⟩
        rw [Query.compileSource] at done
        cases done
  | select node below =>
      have command (statement : Statement)
          (gives : (Query.select node).GivesCommand resolver statement) :
          (Query.select node).Explains resolver statement := by
        obtain ⟨path, body, rfl, givesBody⟩ := gives.select
        intro inner contains
        cases contains with
        | body => exact ⟨node, path, .node node, givesBody⟩
        | under isOperand inside => exact explains_operand givesBody below isOperand inner inside
      refine ⟨command, ?_⟩
      intro statement gives
      rcases gives.select with ⟨-, ofSource⟩ | ⟨_, isSource, ofCommand⟩
      · have isOperand := node.source_mem_operands
        exact ((below _ isOperand).source _ ofSource).under isOperand
      · cases isSource
        exact command _ ofCommand
  | combine op first second ofFirst ofSecond =>
      have command (statement : Statement)
          (gives : (Query.combine op first second).GivesCommand resolver statement) :
          (Query.combine op first second).Explains resolver statement := by
        obtain ⟨firstCommand, secondCommand, rfl, givesFirst, givesSecond⟩ := gives.combine
        intro body contains
        cases contains with
        | first inside =>
            obtain ⟨node, path, isNode, gives⟩ := ofFirst.command _ givesFirst body inside
            exact ⟨node, path, .first isNode, gives⟩
        | second inside =>
            obtain ⟨node, path, isNode, gives⟩ := ofSecond.command _ givesSecond body inside
            exact ⟨node, path, .second isNode, gives⟩
      refine ⟨command, ?_⟩
      intro statement gives
      obtain ⟨_, isSource, ofCommand⟩ := gives.combine
      cases isSource
      exact command _ ofCommand

/-- Every select command in what a query is compiled to is what a node of the query is compiled
to. -/
theorem GivesCommand.node_of_contains {query : Query} {statement : Statement} {body : Body}
    (gives : query.GivesCommand resolver statement) (contains : statement.Contains body) :
    ∃ node path, query.Contains node ∧ node.GivesBody resolver path body :=
  (explainsAll resolver query).command statement gives body contains

end Query

end TypedQuery
