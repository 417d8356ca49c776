/-
Module: TypedQuery.Proofs.JoinKeys
Purpose: The keys on the inner side of joins. A key that is a member of anything is taken for the
  column of that name of the joined source; with any other key the query has no command, wherever
  the join stands in it.
Main exports: Select.HasClause, Query.ReadsFrom, Query.ReadsFrom.givesBody,
  Select.GivesBody.innerKey, Query.innerKey_column_or_refused
-/
import TypedQuery.Proofs.SourceAliases
import TypedQuery.Proofs.UnsupportedOnly

namespace TypedQuery

open Sql Sql.Compile

/-! ### Nodes that take part in a command -/

/-- The clauses of the node are compiled from the expression, among others. -/
inductive Select.HasClause (node : Select) : Expr → Prop
  | outerKey {join : Join} (present : join ∈ node.joins) : HasClause node join.outerKey.body
  | filter {predicate : Lambda} (present : predicate ∈ node.filters) :
      HasClause node predicate.body
  | groupKey {key : Lambda} {field : Expr} (isKey : node.groupKey = some key)
      (isField : field ∈ key.body.groupFields) : HasClause node field
  | having {predicate : Lambda} (present : predicate ∈ node.having) :
      HasClause node predicate.body
  | orderBy {order : Order} (present : order ∈ node.orderBy) : HasClause node order.key.body
  | columns {function : Lambda}
      (selected : node.projection.or (node.joins.getLast?.map (·.result)) = some function) :
      HasClause node function.body

/-- What stands in the first of two lists related member by member is related to a member of the
second. -/
theorem exists_of_forall₂_left {α β : Type} {related : α → β → Prop} {items : List α}
    {images : List β} (all : List.Forall₂ related items images) {item : α}
    (present : item ∈ items) : ∃ image ∈ images, related item image :=
  exists_of_forall₂ all.flip present

/-- What the clauses of a node are compiled from is related to a term of its command. -/
theorem Select.Clausewise.of_hasClause {related : Nat → Expr → Term → Prop} {node : Select}
    {body : Body} (clausewise : node.Clausewise related body) {expr : Expr}
    (hasClause : node.HasClause expr) : ∃ count term, related count expr term := by
  cases hasClause with
  | outerKey present =>
      obtain ⟨index, isJoin⟩ := List.mem_iff_getElem?.mp present
      obtain ⟨clause, -, holds⟩ := clausewise.outerKeys index _ isJoin
      exact ⟨_, _, holds⟩
  | filter present =>
      obtain ⟨_, -, inner, -, holds⟩ := exists_of_forall₂_left clausewise.filters present
      exact ⟨_, inner, holds⟩
  | groupKey isKey isField =>
      obtain ⟨terms, -, ofFields⟩ := clausewise.groupKey _ isKey
      obtain ⟨term, -, holds⟩ := exists_of_forall₂_left ofFields isField
      exact ⟨_, term, holds⟩
  | having present =>
      obtain ⟨_, -, inner, -, holds⟩ := exists_of_forall₂_left clausewise.having present
      exact ⟨_, inner, holds⟩
  | orderBy present =>
      obtain ⟨_, -, holds⟩ := exists_of_forall₂_left clausewise.orderBy present
      exact ⟨_, _, holds⟩
  | columns selected =>
      obtain ⟨term, -, holds⟩ := clausewise.columns _ selected
      exact ⟨_, term, holds⟩

/-- A node that adds nothing has no joins and no clauses. -/
theorem Select.joins_of_isTrivial {node : Select} (trivial : node.isTrivial = true) :
    node.joins = [] ∧ ∀ expr, ¬ node.HasClause expr := by
  simp only [isTrivial, Bool.and_eq_true, List.isEmpty_iff, Option.isNone_iff_eq_none] at trivial
  obtain ⟨⟨⟨⟨⟨⟨⟨⟨filters, having⟩, projection⟩, groupKey⟩, joins⟩, orderBy⟩, -⟩, -⟩, -⟩ := trivial
  refine ⟨joins, ?_⟩
  rintro expr (present | present | ⟨isKey, isField⟩ | present | present | selected)
  · simp [joins] at present
  · simp [filters] at present
  · simp [groupKey] at isKey
  · simp [having] at present
  · simp [orderBy] at present
  · simp [projection, joins] at selected

/-- The command of the query has a part for the node, which is the query itself, its source, a
joined source, an operand of a set operation, or a captured query that a clause renders. -/
inductive Query.ReadsFrom : Query → Select → Prop
  | node (node : Select) : ReadsFrom (.select node) node
  | source {node inner : Select} (inside : ReadsFrom node.source inner) :
      ReadsFrom (.select node) inner
  | joined {node inner : Select} {join : Join} (present : join ∈ node.joins)
      (inside : ReadsFrom join.source inner) : ReadsFrom (.select node) inner
  | captured {node inner : Select} {expr : Expr} {place : List Nat} {captures : List Capture}
      {name : Member} {ty closureTy : Ty} {held : String} {query : Query}
      (hasClause : node.HasClause expr)
      (placed : expr.Renders place (.member (some (.closure captures closureTy)) name ty))
      (unkeyed : name.owner.isGroup = false) (untimed : name.owner ≠ .timeSpan)
      (isQuery : captures.find? (·.name == name.name) = some (.query held query))
      (inside : ReadsFrom query inner) : ReadsFrom (.select node) inner
  | first {op : SetOp} {first second : Query} {inner : Select} (inside : ReadsFrom first inner) :
      ReadsFrom (.combine op first second) inner
  | second {op : SetOp} {first second : Query} {inner : Select}
      (inside : ReadsFrom second inner) : ReadsFrom (.combine op first second) inner

/-! ### Compilation reaches these nodes -/

/-- The captured query that a variable stands for is compiled with it. -/
theorem Capture.givesCommand_of_compile {scope : Scope} {name held : String} {query : Query}
    {captures : List Capture} {progress progress' : Progress} {term : Term}
    (isQuery : captures.find? (·.name == name) = some (.query held query))
    (done : Capture.compile scope name captures progress = .ok (term, progress')) :
    ∃ statement, query.GivesCommand scope.resolver statement := by
  induction captures with
  | nil => cases isQuery
  | cons capture rest ih =>
      cases capture with
      | value other value =>
          rw [Capture.compile] at done
          by_cases same : other = name
          · simp [Capture.name, same] at isQuery
          · rw [if_neg same] at done
            rw [List.find?_cons_of_neg (by simpa [Capture.name] using same)] at isQuery
            exact ih isQuery done
      | query other captured =>
          rw [Capture.compile] at done
          by_cases same : other = name
          · rw [if_pos same] at done
            obtain ⟨path, _, -, done⟩ := bind_eq_ok done
            obtain ⟨statement, _, ofQuery, -⟩ := bind_eq_ok done
            obtain ⟨parameters, nested, ofQuery⟩ := embed_eq_ok ofQuery
            simp only [Capture.name, same, beq_self_eq_true, List.find?_cons_of_pos,
              Option.some.injEq, Capture.query.injEq] at isQuery
            rw [isQuery.2] at ofQuery
            exact ⟨statement, path, _, parameters, nested, ofQuery⟩
          · rw [if_neg same] at done
            rw [List.find?_cons_of_neg (by simpa [Capture.name] using same)] at isQuery
            exact ih isQuery done

/-- An access to a captured query compiles the query. -/
theorem Sql.Scope.Gives.captured {scope : Scope} {captures : List Capture} {name : Member}
    {ty closureTy : Ty} {held : String} {query : Query} {term : Term}
    (gives : scope.Gives (.member (some (.closure captures closureTy)) name ty) term)
    (unkeyed : name.owner.isGroup = false) (untimed : name.owner ≠ .timeSpan)
    (isQuery : captures.find? (·.name == name.name) = some (.query held query)) :
    ∃ statement, query.GivesCommand scope.resolver statement := by
  obtain ⟨condition, progress, progress', done⟩ := gives
  have form : Expr.memberForm scope (some (.closure captures closureTy)) name ty =
      .captured captures := by
    unfold Expr.memberForm
    rw [scope.groupKeyOf?_eq_none unkeyed]
    exact if_neg untimed
  rw [Expr.compile_member, form] at done
  exact Capture.givesCommand_of_compile isQuery done

namespace Query

variable {resolver : Resolver}

/-- A node as a source adds nothing and stands for its own source, or it is compiled. -/
theorem GivesSource.body {node : Select} {source : Source}
    (gives : (Query.select node).GivesSource resolver source) :
    (node.isTrivial = true ∧ node.source.GivesSource resolver source) ∨
      ∃ path body, node.GivesBody resolver path body := by
  rcases gives.select with trivial | ⟨statement, -, ofCommand⟩
  · exact .inl trivial
  · obtain ⟨path, body, -, givesBody⟩ := ofCommand.select
    exact .inr ⟨path, body, givesBody⟩

/-- Whatever the query is compiled to, as a command or as a source, the node is compiled with it. -/
structure Compiles (resolver : Resolver) (query : Query) (node : Select) : Prop where
  command : ∀ statement, query.GivesCommand resolver statement →
    ∃ path body, node.GivesBody resolver path body
  source : ∀ source, query.GivesSource resolver source →
    ∃ path body, node.GivesBody resolver path body

/-- What is compiled with every body of a node is compiled with the node, unless that is left out
because it adds nothing. -/
theorem Compiles.of_body {node inner : Select}
    (ofBody : ∀ path body, node.GivesBody resolver path body →
      ∃ path body, inner.GivesBody resolver path body)
    (ofTrivial : node.isTrivial = true → ∀ source, node.source.GivesSource resolver source →
      ∃ path body, inner.GivesBody resolver path body) :
    (Query.select node).Compiles resolver inner := by
  constructor
  · intro statement gives
    obtain ⟨path, body, -, givesBody⟩ := gives.select
    exact ofBody path body givesBody
  · intro source gives
    rcases gives.body with ⟨trivial, ofSource⟩ | ⟨path, body, givesBody⟩
    · exact ofTrivial trivial source ofSource
    · exact ofBody path body givesBody

theorem Compiles.combine {op : SetOp} {first second : Query} {node : Select}
    (ofOperands : first.Compiles resolver node ∨ second.Compiles resolver node) :
    (Query.combine op first second).Compiles resolver node := by
  have command (statement : Statement)
      (gives : (Query.combine op first second).GivesCommand resolver statement) :
      ∃ path body, node.GivesBody resolver path body := by
    obtain ⟨firstCommand, secondCommand, -, givesFirst, givesSecond⟩ := gives.combine
    rcases ofOperands with ofFirst | ofSecond
    · exact ofFirst.command _ givesFirst
    · exact ofSecond.command _ givesSecond
  refine ⟨command, ?_⟩
  intro source gives
  obtain ⟨statement, -, ofCommand⟩ := gives.combine
  exact command statement ofCommand

/-- A node that the query reads from is compiled with it, unless the node adds nothing. -/
theorem ReadsFrom.compiles {query : Query} {node : Select} (reads : query.ReadsFrom node)
    (adds : node.isTrivial = false) : query.Compiles resolver node := by
  induction reads with
  | node node =>
      refine .of_body (fun path body givesBody => ⟨path, body, givesBody⟩) ?_
      intro trivial
      rw [adds] at trivial
      cases trivial
  | source inside ih =>
      refine .of_body ?_ fun _ source ofSource => (ih adds).source source ofSource
      intro path body givesBody
      obtain ⟨first, joined, key, compiled⟩ := givesBody.compiledTo
      exact (ih adds).source _ compiled.source
  | joined present inside ih =>
      refine .of_body ?_ ?_
      · intro path body givesBody
        obtain ⟨first, joined, key, compiled⟩ := givesBody.compiledTo
        obtain ⟨index, isJoin⟩ := List.mem_iff_getElem?.mp present
        have inside : index < body.joins.length := by
          rw [compiled.length_joins]
          exact (List.getElem?_eq_some_iff.mp isJoin).1
        obtain ⟨before, bound, -, ofJoin⟩ :=
          compiled.joinAt isJoin (List.getElem?_eq_getElem inside)
        exact (ih adds).source _ ofJoin.source
      · intro trivial
        rw [(Select.joins_of_isTrivial trivial).1] at present
        cases present
  | captured hasClause placed unkeyed untimed isQuery inside ih =>
      refine .of_body ?_ fun trivial =>
        absurd hasClause ((Select.joins_of_isTrivial trivial).2 _)
      rintro path body ⟨nested, parameters, nested', done⟩
      obtain ⟨count, term, aliases, groupKey, -, gives⟩ :=
        (Select.compile_clausewise done).of_hasClause hasClause
      obtain ⟨found, -, ofAccess⟩ := gives.rendered placed
      obtain ⟨statement, ofQuery⟩ := ofAccess.captured unkeyed untimed isQuery
      exact (ih adds).command statement ofQuery
  | first inside ih => exact .combine (.inl (ih adds))
  | second inside ih => exact .combine (.inr (ih adds))

end Query

/-- A query with a command is compiled to that of the command's text. -/
theorem Query.toCommand_eq_ok {resolver : Resolver} {query : Query} {command : Command}
    (done : query.toCommand resolver = .ok command) :
    ∃ statement, query.GivesCommand resolver statement ∧ command.text = statement.text := by
  unfold Query.toCommand at done
  cases outcome : query.compile resolver "" 0 with
  | error error =>
      rw [outcome] at done
      cases done
  | ok reached =>
      obtain ⟨⟨statement, parameters⟩, nested⟩ := reached
      rw [outcome] at done
      cases done
      exact ⟨statement, ⟨_, _, _, _, outcome⟩, rfl⟩

theorem Query.toCommand_eq_error {resolver : Resolver} {query : Query} {error : Error}
    (failed : query.toCommand resolver = .error error) :
    query.compile resolver "" 0 = .error error := by
  unfold Query.toCommand at failed
  cases outcome : query.compile resolver "" 0 with
  | ok reached =>
      rw [outcome] at failed
      cases failed
  | error held =>
      rw [outcome] at failed
      cases failed
      rfl

/-! ### Inner keys -/

/-- A key selects a member only by being one. -/
theorem Sql.keyMember?_eq_some {key : Lambda} {member : Member}
    (selects : keyMember? key = some member) :
    ∃ target ty, key.body = .member target member ty := by
  unfold keyMember? at selects
  split at selects
  · cases selects
    exact ⟨_, _, ‹_›⟩
  · cases selects

/-- An inner key that is compiled is a member, and is taken for the column of that name of the
joined source, whatever it is a member of. -/
theorem Select.GivesBody.innerKey {resolver : Resolver} {path : String} {node : Select}
    {body : Body} (gives : node.GivesBody resolver path body) {index : Nat} {join : Join}
    (isJoin : node.joins[index]? = some join) :
    ∃ clause inner target name ty, body.joins[index]? = some clause ∧
      join.sideName? 1 = some inner ∧ clause.table = path ++ inner ∧
      join.innerKey.body = .member target name ty ∧
      clause.inner = .column (path ++ inner) (resolver.columnName name) := by
  obtain ⟨first, joined, key, compiled⟩ := gives.compiledTo
  have inside : index < body.joins.length := by
    rw [compiled.length_joins]
    exact (List.getElem?_eq_some_iff.mp isJoin).1
  have isClause := List.getElem?_eq_getElem inside
  obtain ⟨before, bound, isAt, ofJoin⟩ := compiled.joinAt isJoin isClause
  obtain ⟨inner, isInner, isTable, rfl⟩ := Aliases.bindJoin_eq_ok ofJoin.binds
  -- The prefix of the aliases is that of the command, at every join.
  have isPath : before.path = path := by
    obtain ⟨head, rest, joins⟩ := List.exists_cons_of_ne_nil (List.ne_nil_of_mem
      (List.mem_of_getElem? isJoin))
    have known := (Select.aliasesAt_named joins isAt).1.path_eq
    rwa [Aliases.path_register] at known
  obtain ⟨member, selects, isColumn⟩ := ofJoin.inner
  obtain ⟨target, ty, isMember⟩ := Sql.keyMember?_eq_some selects
  dsimp only at isTable
  rw [isPath] at isTable
  rw [isTable] at isColumn
  exact ⟨_, inner, target, member, ty, isClause, isInner, isTable, isMember, isColumn⟩

namespace Query

/-- Joins on the inner side. Where a query reads from a node with a join whose inner key is no
member, it has no command, and if it is made by the builder, it is refused for lack of an SQL form.
An inner key that is a member of anything is taken for the column of that name of the joined source;
that is the column that the key selects if it is a field of a joined row. -/
theorem innerKey_column_or_refused (resolver : Resolver) (query : Query) :
    (∀ node join, query.ReadsFrom node → join ∈ node.joins →
      (∀ target name ty, join.innerKey.body ≠ .member target name ty) →
        (∀ command, query.toCommand resolver ≠ .ok command) ∧
        (query.Reachable →
          ∃ fragment, query.toCommand resolver = .error (.unsupported fragment))) ∧
    ∀ (node : Select) (path : String) (body : Body) (index : Nat) (join : Join),
      node.GivesBody resolver path body → node.joins[index]? = some join →
      ∃ clause inner target name ty, body.joins[index]? = some clause ∧
        join.sideName? 1 = some inner ∧ clause.table = path ++ inner ∧
        join.innerKey.body = .member target name ty ∧
        clause.inner.text = "[" ++ clause.table ++ "].[" ++ resolver.columnName name ++ "]" := by
  constructor
  · intro node join reads present noMember
    have refused (command : Command) : query.toCommand resolver ≠ .ok command := by
      intro done
      obtain ⟨statement, ofQuery, -⟩ := toCommand_eq_ok done
      have adds : node.isTrivial = false := by
        rw [← Bool.not_eq_true]
        intro trivial
        rw [(Select.joins_of_isTrivial trivial).1] at present
        cases present
      obtain ⟨path, body, gives⟩ := (reads.compiles adds).command statement ofQuery
      obtain ⟨index, isJoin⟩ := List.mem_iff_getElem?.mp present
      obtain ⟨-, -, target, name, ty, -, -, -, isMember, -⟩ := gives.innerKey isJoin
      exact noMember target name ty isMember
    refine ⟨refused, ?_⟩
    intro reachable
    have safe := query.safe_of_namesBothSides reachable.namesBothSides
    cases outcome : query.toCommand resolver with
    | ok command => exact absurd outcome (refused command)
    | error error =>
        obtain ⟨fragment, rfl⟩ := safe.command resolver "" 0 error (toCommand_eq_error outcome)
        exact ⟨fragment, rfl⟩
  · intro node path body index join gives isJoin
    obtain ⟨clause, inner, target, name, ty, isClause, isInner, isTable, isMember, isColumn⟩ :=
      gives.innerKey isJoin
    refine ⟨clause, inner, target, name, ty, isClause, isInner, isTable, isMember, ?_⟩
    rw [isColumn, isTable, Term.text_column]

/-- Links to the user with the next id. -/
def shiftedLinks : List Call :=
  [.add (.join .inner linkTable userLinks.outerKey
    ⟨[linkRow], ((Expr.parameter linkRow).field "UserId").add (.literal (.int 1))⟩
    userLinks.toJoin.result)]

/-- A sum is no key, also not below a set operation. -/
theorem shiftedLinks_refused :
    ∃ query node join, run shiftedLinks userTable = .ok query ∧
      (Query.combine .union userTable query).ReadsFrom node ∧ join ∈ node.joins ∧
      (∀ target name ty, join.innerKey.body ≠ .member target name ty) ∧
      ∀ command, (Query.combine .union userTable query).toCommand .identity ≠ .ok command := by
  obtain ⟨node, join, ran, present, noMember⟩ :
      ∃ node join, run shiftedLinks userTable = .ok (.select node) ∧ join ∈ node.joins ∧
        ∀ target name ty, join.innerKey.body ≠ .member target name ty :=
    ⟨_, _, rfl, .head _, nofun⟩
  have reads : (Query.combine .union userTable (.select node)).ReadsFrom node :=
    .second (.node node)
  exact ⟨_, node, join, ran, reads, present, noMember,
    ((innerKey_column_or_refused .identity _).1 node join reads present noMember).1⟩

def otherRow : Param := ⟨"other", userTable.rowType⟩

/-- Users with those whose login has as many characters as their id says. -/
def usersByLoginLength : List Call :=
  [.add (.join .inner userTable userLinks.outerKey
    ⟨[otherRow], ((Expr.parameter otherRow).field "Login").length⟩
    ⟨[userRow, otherRow], .record [("Login", (Expr.parameter userRow).field "Login"),
      ("Other", (Expr.parameter otherRow).field "Login")]⟩)]

theorem usersByLoginLength_typed : AllowedRun Call.Typed usersByLoginLength userTable := by
  refine ⟨by decide, List.forall_mem_singleton.mpr (.table _), ?_⟩
  rintro _ ⟨⟩
  trivial

/-- The length of a column is taken for a column. -/
theorem usersByLoginLength_key_mismatch :
    ∃ query node join command, run usersByLoginLength userTable = .ok query ∧
      query.ReachableBy Call.Typed ∧ query = .select node ∧ node.joins = [join] ∧
      (∀ param name ty, join.innerKey.body ≠ .member (some (.parameter param)) name ty) ∧
      query.toCommand .identity = .ok command ∧
      command.text = "SELECT [user].[Login] AS [Login], [other].[Login] AS [Other] " ++
        "FROM [User] [user]  JOIN [User] [other] ON [user].[Id] = [other].[Length]" := by
  obtain ⟨node, join, command, ran, joins, notDirect, done, isText⟩ :
      ∃ node join command, run usersByLoginLength userTable = .ok (.select node) ∧
        node.joins = [join] ∧
        (∀ param name ty, join.innerKey.body ≠ .member (some (.parameter param)) name ty) ∧
        (Query.select node).toCommand .identity = .ok command ∧
        command.text = "SELECT [user].[Login] AS [Login], [other].[Login] AS [Other] " ++
          "FROM [User] [user]  JOIN [User] [other] ON [user].[Id] = [other].[Length]" :=
    ⟨_, _, _, rfl, rfl, nofun, rfl, by decide +kernel⟩
  have users : userTable.ReachableBy Call.Typed := .table _
  exact ⟨_, node, join, command, ran, users.run usersByLoginLength_typed ran, rfl, joins,
    notDirect, done, isText⟩

end Query

end TypedQuery
