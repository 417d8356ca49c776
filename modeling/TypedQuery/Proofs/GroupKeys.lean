/-
Module: TypedQuery.Proofs.GroupKeys
Purpose: How the clauses behind a grouping read its key. A key that is a single expression is
  kept as the term that the grouping lists, and every access gives that term. A row as key is not
  kept: its fields are read as columns of the source bound last, which is what the grouping lists
  only for fields that are such columns themselves.
Main exports: Expr.compile_key, Expr.KeyRenders, Expr.KeyFieldsRender, Expr.KeyFieldsListed,
  Select.GivesBody.key_accesses
-/
import TypedQuery.Proofs.SourceAliases

namespace TypedQuery

open Sql Sql.Compile

/-! ### Registered fields -/

/-- A record that the lambda makes is a row. -/
def Lambda.BuildsRow (function : Lambda) : Prop :=
  ∀ names args ty, function.body = .construct (.record names) args ty → ty.kind = .model

namespace Sql.Aliases

variable {aliases : Aliases}

/-- The fields known to hold whole rows are fields of rows. -/
def OfRows (aliases : Aliases) : Prop := ∀ entry ∈ aliases.registered, entry.1.owner.kind = .model

theorem kind_of_rowField? {result : Lambda} (buildsRow : result.BuildsRow) {side : Nat}
    {member : Member} (found : rowField? result side = some member) :
    member.owner.kind = .model := by
  unfold rowField? at found
  split at found
  · rename_i isParam isRecord
    obtain ⟨name, -, rfl⟩ := Option.map_eq_some_iff.mp found
    exact buildsRow _ _ _ isRecord
  · cases found

theorem register_ofRows (ofRows : aliases.OfRows) {result : Lambda}
    (buildsRow : result.BuildsRow) (side : Nat) (table : String) :
    (aliases.register (rowField? result side) table).OfRows := by
  cases found : rowField? result side with
  | none => exact ofRows
  | some member =>
      exact List.forall_mem_cons.mpr ⟨kind_of_rowField? buildsRow found, ofRows⟩

theorem bindSource_ofRows {path : String} {node : Select} {table : Option String}
    (buildsRow : ∀ join ∈ node.joins, join.result.BuildsRow)
    (binds : bindSource path node = .ok (table, aliases)) : aliases.OfRows := by
  cases joins : node.joins with
  | nil =>
      rw [bindSource_of_no_joins joins binds]
      simp [OfRows, start]
  | cons join rest =>
      obtain ⟨name, -, -, rfl⟩ := bindSource_of_join joins binds
      intro entry present
      rw [registered_beforeJoin] at present
      obtain ⟨member, isMember, rfl⟩ := List.mem_map.mp present
      exact kind_of_rowField? (buildsRow join (by simp [joins])) (Option.mem_toList.mp isMember)

/-- The key of a group is no field of a row: it is looked up as the alias bound last. -/
theorem ofMember?_of_group (ofRows : aliases.OfRows) {member : Member}
    (isGroup : member.owner.isGroup = true) : aliases.ofMember? member = aliases.last := by
  have unregistered : aliases.registered.find? (·.1 == member) = none := by
    rw [List.find?_eq_none]
    intro entry present same
    have isRow := ofRows entry present
    rw [beq_iff_eq.mp same] at isRow
    cases owner : member.owner with
    | group key element =>
        rw [owner] at isRow
        cases isRow
    | _ =>
        rw [owner] at isGroup
        cases isGroup
  rw [ofMember?, unregistered]

end Sql.Aliases

theorem Select.aliasesAt_ofRows {node : Select}
    (buildsRow : ∀ join ∈ node.joins, join.result.BuildsRow) {path : String} {count : Nat}
    {aliases : Aliases} (isAt : node.aliasesAt path count = .ok aliases) : aliases.OfRows := by
  obtain ⟨table, first, binds, ofJoins⟩ := Select.aliasesAt_eq_ok isAt
  refine Aliases.along_preserves Aliases.OfRows (Aliases.bindSource_ofRows buildsRow binds) ?_
    ofJoins
  intro join present before bound table ofRows bindsJoin
  obtain ⟨name, -, rfl, rfl⟩ := Aliases.bindJoin_eq_ok bindsJoin
  have registered := Aliases.register_ofRows ofRows (buildsRow join present) 1
    (before.path ++ name)
  -- Completing the join moves the last alias and leaves the fields.
  exact ⟨registered, registered⟩

/-! ### Reading the key -/

namespace Expr

variable {scope : Scope}

/-- Where a key is kept, every access to the key of a group gives it and binds no value. -/
theorem compile_key {key : Term} (isKey : scope.groupKey = some key) {group : Expr}
    (isGroup : group.ty.isGroup = true) (condition : Bool) (progress : Progress) :
    group.key.compile scope condition progress = .ok (key, progress) := by
  have kept : scope.groupKeyOf? ⟨group.ty, "Key"⟩ = some key := by
    simp [Scope.groupKeyOf?, isGroup, isKey]
  have form : Expr.memberForm scope (some group) ⟨group.ty, "Key"⟩ (group.ty.fieldType "Key") =
      .key key := by
    unfold Expr.memberForm
    rw [kept]
  rw [Expr.key, Expr.field, Expr.compile_member, form]
  rfl

theorem ty_key {group : Expr} {keyTy element : Ty} (isGroup : group.ty = .group keyTy element) :
    group.key.ty = keyTy := by
  simp [Expr.key, Expr.field, Expr.ty, isGroup, Ty.fieldType, Ty.fields]

/-- A field of a row as key is a column of the source bound last. -/
theorem keyField_of_gives {group : Expr} {row : Model} {element : Ty}
    (isGroup : group.ty = .group (.model row) element) (ofRows : scope.aliases.OfRows)
    {name : String} {term : Term} (gives : scope.Gives (group.key.field name) term) :
    ∃ table, scope.aliases.last = some table ∧
      term = .column table (scope.resolver.columnName ⟨.model row, name⟩) := by
  obtain ⟨condition, progress, progress', done⟩ := gives
  have isLast : scope.aliases.ofMember? ⟨group.ty, "Key"⟩ = scope.aliases.last :=
    Aliases.ofMember?_of_group ofRows (by rw [isGroup]; rfl)
  have isRow : (group.field "Key").ty = .model row := ty_key isGroup
  rw [Expr.key, Expr.compile_rowMember scope (by rw [isRow]; rfl) (by simp [Expr.field]),
    isRow] at done
  simp only [Expr.field, memberColumn, isLast] at done
  cases last : scope.aliases.last with
  | none =>
      -- Without an alias bound last, the access has no form at all.
      rw [last] at done
      cases done
  | some table =>
      rw [last] at done
      cases done
      exact ⟨table, rfl, rfl⟩

/-- Expressions that are compiled in a row are compiled as values, each at its place. -/
theorem getElem?_of_compileAll {exprs : List Expr} {terms : List Term}
    {progress progress' : Progress}
    (done : Expr.compileAll scope exprs progress = .ok (terms, progress')) {index : Nat}
    {expr : Expr} (isExpr : exprs[index]? = some expr) :
    ∃ term before after, terms[index]? = some term ∧
      expr.compile scope false before = .ok (term, after) := by
  induction exprs generalizing terms progress index with
  | nil => simp at isExpr
  | cons first rest ih =>
      rw [Expr.compileAll] at done
      obtain ⟨term, _, ofFirst, done⟩ := bind_eq_ok done
      obtain ⟨terms, _, ofRest, done⟩ := bind_eq_ok done
      cases done
      cases index with
      | zero =>
          cases isExpr
          exact ⟨term, _, _, rfl, ofFirst⟩
      | succ index => exact ih ofRest isExpr

/-- A key that is no row groups by itself. -/
theorem groupFields_of_single {key : Expr}
    (isSingle : ∀ names args ty, key ≠ .construct (.record names) args ty) (terms : List Term) :
    key.groupFields = [key] ∧ key.keyTerm? terms = terms.head? := by
  cases key with
  | construct ctor args ty =>
      cases ctor with
      | record names => exact absurd rfl (isSingle names args ty)
      | _ => exact ⟨rfl, rfl⟩
  | _ => exact ⟨rfl, rfl⟩

end Expr

/-! ### All accesses -/

namespace Expr

/-- Wherever the expression renders the key of a group, the term has the given one. -/
def KeyRenders (key : Term) (expr : Expr) (term : Term) : Prop :=
  ∀ (group : Expr) place, group.ty.isGroup = true → expr.Renders place group.key →
    term.partAt? place = some key

/-- Wherever the expression renders a field of a row as key, the term has the column of that name
under the last alias that the command declares. -/
def KeyFieldsRender (resolver : Resolver) (body : Body) (row : Model) (expr : Expr)
    (term : Term) : Prop :=
  ∀ (group : Expr) element name place, group.ty = .group (.model row) element →
    expr.Renders place (group.key.field name) →
      ∃ table, body.tables.getLast? = some table ∧
        term.partAt? place = some (.column table (resolver.columnName ⟨.model row, name⟩))

/-- Wherever the expression renders a field of a row as key that is made of a column of a
parameter, of a name that is resolved like that of the field, the term has the one listed for the
field. -/
def KeyFieldsListed (resolver : Resolver) (terms : List Term) (row : Model) (names : List String)
    (args : List Expr) (expr : Expr) (term : Term) : Prop :=
  ∀ (group : Expr) element name place (index : Nat) param column,
    group.ty = .group (.model row) element → expr.Renders place (group.key.field name) →
    names[index]? = some name → args[index]? = some ((Expr.parameter param).field column) →
    param.ty.kind = .model →
    resolver.columnName ⟨param.ty, column⟩ = resolver.columnName ⟨.model row, name⟩ →
      term.partAt? place = terms[index]?

end Expr

namespace Select.CompiledTo

variable {resolver : Resolver} {path : String} {node : Select} {first joined : Aliases}
  {key : Option Term} {body : Body} {function : Lambda}

/-- A single key is kept as the only term that the grouping lists. -/
theorem key_of_single (compiled : node.CompiledTo resolver path first joined key body)
    (isKey : node.groupKey = some function)
    (isSingle : ∀ names args ty, function.body ≠ .construct (.record names) args ty) :
    ∃ term, body.groupBy = some [term] ∧ key = some term := by
  obtain ⟨terms, _, _, isTerms, isKeyTerm, ofFields⟩ := compiled.grouped function isKey
  obtain ⟨fields, keyTerm⟩ := Expr.groupFields_of_single isSingle terms
  rw [fields] at ofFields
  obtain ⟨term, others, -, noOthers, rfl⟩ :=
    List.forall₂_cons_left_iff.mp (Scope.Gives.all ofFields)
  cases noOthers
  exact ⟨term, isTerms, isKeyTerm.trans keyTerm⟩

/-- Where a single key is kept, all clauses read it. -/
theorem onGroups_keyRenders {term : Term}
    (compiled : node.CompiledTo resolver path first joined (some term) body) :
    node.OnGroups (Expr.KeyRenders term) body := by
  apply compiled.onGroups.mono
  intro expr rendered gives group place isGroup placed
  obtain ⟨found, foundAt, condition, progress, progress', done⟩ := gives.rendered placed
  rw [Expr.compile_key rfl isGroup] at done
  cases done
  exact foundAt

/-- A field of a row as key is read as a column of the source bound last. -/
theorem keyField_rendered (compiled : node.CompiledTo resolver path first joined key body)
    (buildsRow : ∀ join ∈ node.joins, join.result.BuildsRow) {expr group : Expr} {term : Term}
    (gives : Scope.Gives ⟨resolver, path, joined, key⟩ expr term) {row : Model} {element : Ty}
    (isGroup : group.ty = .group (.model row) element) {place : List Nat} {name : String}
    (placed : expr.Renders place (group.key.field name)) :
    ∃ table, joined.last = some table ∧
      term.partAt? place = some (.column table (resolver.columnName ⟨.model row, name⟩)) := by
  have ofRows := Select.aliasesAt_ofRows buildsRow compiled.aliasesAt_length
  obtain ⟨found, foundAt, ofAccess⟩ := gives.rendered placed
  obtain ⟨table, isLast, rfl⟩ := Expr.keyField_of_gives isGroup ofRows ofAccess
  exact ⟨table, isLast, foundAt⟩

/-- A column of a parameter that the grouping lists is a column of the source bound last. -/
theorem listed_paramColumn (compiled : node.CompiledTo resolver path first joined key body)
    (isKey : node.groupKey = some function) {terms : List Term}
    (isTerms : body.groupBy = some terms) {table : String} (isLast : joined.last = some table)
    {index : Nat} {param : Param} {column : String}
    (isField : function.body.groupFields[index]? = some ((Expr.parameter param).field column))
    (isRow : param.ty.kind = .model) :
    terms[index]? = some (.column table (resolver.columnName ⟨param.ty, column⟩)) := by
  obtain ⟨found, _, _, isFound, -, ofFields⟩ := compiled.grouped function isKey
  obtain rfl : found = terms := Option.some.inj (isFound.symm.trans isTerms)
  obtain ⟨listed, _, _, isListed, ofField⟩ := Expr.getElem?_of_compileAll ofFields isField
  rw [Expr.compile_paramColumn _ isRow] at ofField
  cases ofField
  rw [isListed, Aliases.ofParam, isLast]

theorem onGroups_keyFieldsRender (compiled : node.CompiledTo resolver path first joined key body)
    (buildsRow : ∀ join ∈ node.joins, join.result.BuildsRow) (row : Model) :
    node.OnGroups (Expr.KeyFieldsRender resolver body row) body := by
  apply compiled.onGroups.mono
  intro expr term gives group element name place isGroup placed
  obtain ⟨table, isLast, foundAt⟩ := compiled.keyField_rendered buildsRow gives isGroup placed
  exact ⟨table, compiled.getLast?_tables isLast, foundAt⟩

theorem onGroups_keyFieldsListed (compiled : node.CompiledTo resolver path first joined key body)
    (buildsRow : ∀ join ∈ node.joins, join.result.BuildsRow)
    (isKey : node.groupKey = some function) {terms : List Term}
    (isTerms : body.groupBy = some terms) {names : List String} {args : List Expr} {row : Model}
    (isRecord : function.body = .construct (.record names) args (.model row)) :
    node.OnGroups (Expr.KeyFieldsListed resolver terms row names args) body := by
  apply compiled.onGroups.mono
  intro expr term gives group element name place index param column isGroup placed _ isArg isRow
    sameName
  obtain ⟨table, isLast, foundAt⟩ := compiled.keyField_rendered buildsRow gives isGroup placed
  have isField : function.body.groupFields[index]? =
      some ((Expr.parameter param).field column) := by
    rw [isRecord]
    exact isArg
  rw [foundAt, compiled.listed_paramColumn isKey isTerms isLast isField isRow, sameName]

end Select.CompiledTo

/-- In the clauses behind the grouping of a node, the key is read in one of two ways. If it is a
single expression, every access renders just the term that the grouping lists, and binds no
value. If it is a row, every access to a field renders the column of that name under the last alias
that the command declares, whatever the field is made of. This is the term that the grouping lists
for the field where the field is made of a column of a parameter, of a name that is resolved
alike. -/
theorem Select.GivesBody.key_accesses {resolver : Resolver} {path : String} {node : Select}
    {body : Body} (gives : node.GivesBody resolver path body) {function : Lambda}
    (isKey : node.groupKey = some function) :
    ∃ terms joined key, body.groupBy = some terms ∧
      node.OnGroups (Scope.Gives ⟨resolver, path, joined, key⟩) body ∧
      ((∀ names args ty, function.body ≠ .construct (.record names) args ty) →
        ∃ term, terms = [term] ∧ node.OnGroups (Expr.KeyRenders term) body ∧
          ∀ (group : Expr) condition progress, group.ty.isGroup = true →
            group.key.compile ⟨resolver, path, joined, key⟩ condition progress =
              .ok (term, progress)) ∧
      ∀ names args row, function.body = .construct (.record names) args (.model row) →
        (∀ join ∈ node.joins, join.result.BuildsRow) →
        node.OnGroups (Expr.KeyFieldsRender resolver body row) body ∧
          node.OnGroups (Expr.KeyFieldsListed resolver terms row names args) body := by
  obtain ⟨first, joined, key, compiled⟩ := gives.compiledTo
  obtain ⟨terms, _, _, isTerms, -, -⟩ := compiled.grouped function isKey
  refine ⟨terms, joined, key, isTerms, compiled.onGroups, ?_, ?_⟩
  · intro isSingle
    obtain ⟨term, isGroupBy, rfl⟩ := compiled.key_of_single isKey isSingle
    refine ⟨term, Option.some.inj (isTerms.symm.trans isGroupBy), compiled.onGroups_keyRenders, ?_⟩
    intro group condition progress isGroup
    exact Expr.compile_key rfl isGroup condition progress
  · intro names args row isRecord buildsRow
    exact ⟨compiled.onGroups_keyFieldsRender buildsRow row,
      compiled.onGroups_keyFieldsListed buildsRow isKey isTerms isRecord⟩

namespace Query

/-- The id and the login of a user. -/
def nameKey : Expr :=
  .record [("Id", (Expr.parameter userRow).field "Id"),
    ("Login", (Expr.parameter userRow).field "Login")]

def nameGroup : Param := ⟨"g", .group nameKey.ty userTable.rowType⟩

/-- The login that users of a group share. -/
def groupLogin : Lambda :=
  ⟨[nameGroup], .record [("Login", (Expr.parameter nameGroup).key.field "Login")]⟩

/-- From users to the logins of groups by id and login. -/
def usersByName : List Call :=
  [.add (.groupBy ⟨[userRow], nameKey⟩), .add (.project groupLogin)]

/-- The login is read off the groups just as it is listed in the grouping, in the second place. -/
theorem usersByName_key :
    ∃ node body parameters nested terms term, run usersByName userTable = .ok (.select node) ∧
      node.compile .identity "" 0 = .ok ((body, parameters), nested) ∧
      body.groupBy = some terms ∧ body.selection = .terms term ∧
      term.partAt? [0] = terms[1]? := by
  obtain ⟨node, body, parameters, nested, ran, compiled, isKey, isProjection, noJoins⟩ :
      ∃ node body parameters nested, run usersByName userTable = .ok (.select node) ∧
        node.compile .identity "" 0 = .ok ((body, parameters), nested) ∧
        node.groupKey = some ⟨[userRow], nameKey⟩ ∧ node.projection = some groupLogin ∧
        node.joins = [] :=
    ⟨_, _, _, _, rfl, rfl, rfl, rfl, rfl⟩
  have gives : node.GivesBody .identity "" body := ⟨_, _, _, compiled⟩
  obtain ⟨terms, joined, key, isTerms, -, -, ofRow⟩ := Select.GivesBody.key_accesses gives isKey
  obtain ⟨-, listed⟩ := ofRow _ _ _ rfl (by simp [noJoins])
  obtain ⟨term, isSelection, isListed⟩ := listed.columns groupLogin (by simp [isProjection])
  have isAccess : groupLogin.body.Renders [0] ((Expr.parameter nameGroup).key.field "Login") :=
    .field (by decide) rfl (.whole _)
  exact ⟨node, body, parameters, nested, terms, term, ran, compiled, isTerms, isSelection,
    isListed _ _ _ _ 1 userRow "Login" rfl isAccess rfl rfl rfl rfl⟩

/-! ### A row as key over several sources -/

/-- From users and their links to logins and roles, by groups that share both. -/
def loginsByRole : List Call :=
  let key : Expr := .record [("Login", ((Expr.parameter pairRow).field "user").field "Login"),
    ("RoleId", ((Expr.parameter pairRow).field "link").field "RoleId")]
  let group : Param := ⟨"g", .group key.ty userLinks.rowType⟩
  [.add (.join .left linkTable userLinks.outerKey userLinks.innerKey userLinks.toJoin.result),
    .add (.groupBy ⟨[pairRow], key⟩),
    .add (.project ⟨[group], .record [("Login", (Expr.parameter group).key.field "Login"),
      ("RoleId", (Expr.parameter group).key.field "RoleId")]⟩)]

theorem loginsByRole_typed : AllowedRun Call.Typed loginsByRole userTable := by
  refine ⟨by decide, List.forall_mem_singleton.mpr (.table _), ?_⟩
  rintro _ ⟨⟩
  refine ⟨by decide, List.forall_mem_nil _, ?_⟩
  rintro _ ⟨⟩
  exact ⟨by decide, List.forall_mem_nil _, fun _ _ => trivial⟩

/-- The grouping lists the login of users; the access to it reads a login of links. -/
theorem loginsByRole_key_mismatch :
    ∃ query body parameters nested, run loginsByRole userTable = .ok query ∧
      query.ReachableBy Call.Typed ∧
      query.compile .identity "" 0 = .ok ((.select body, parameters), nested) ∧
      body.groupBy = some [.column "user" "Login", .column "link" "RoleId"] ∧
      body.selection = .terms (.columns [⟨.column "link" "Login", "Login"⟩,
        ⟨.column "link" "RoleId", "RoleId"⟩]) := by
  obtain ⟨query, body, parameters, nested, ran, compiled, groupBy, selection⟩ :
      ∃ query body parameters nested, run loginsByRole userTable = .ok query ∧
        query.compile .identity "" 0 = .ok ((.select body, parameters), nested) ∧
        body.groupBy = some [.column "user" "Login", .column "link" "RoleId"] ∧
        body.selection = .terms (.columns [⟨.column "link" "Login", "Login"⟩,
          ⟨.column "link" "RoleId", "RoleId"⟩]) :=
    ⟨_, _, _, _, rfl, rfl, rfl, rfl⟩
  have users : userTable.ReachableBy Call.Typed := .table _
  exact ⟨query, body, parameters, nested, ran, users.run loginsByRole_typed ran, compiled,
    groupBy, selection⟩

end Query

end TypedQuery
