/-
Module: TypedQuery.Proofs.BooleanColumns
Purpose: Boolean columns in the terms of clauses. A column of a lambda parameter is compared
  explicitly where a condition is wanted and nowhere else; a column of a row that a field keeps
  never is. A condition is wanted of the operands of every operator with a boolean result, so of
  the operands of comparisons as well.
Main exports: Expr.ConditionColumns, Select.GivesBody.conditionwise_conditionColumns, Expr.FlagFrom,
  Expr.flagsFrom, Expr.FlagColumns, Select.GivesBody.conditionwise_flagColumns
-/
import TypedQuery.Proofs.CommandNodes
import TypedQuery.Proofs.JoinResults
import TypedQuery.Proofs.PartOrigins

namespace TypedQuery

open Sql Sql.Compile

/-! ### Columns -/

theorem Sql.Term.text_flag (table name : String) :
    (Term.flag table name).text = "[" ++ table ++ "].[" ++ name ++ "] = 1" := by
  change (Term.column table name).text ++ " = 1" = _
  rw [Term.text_column, String.append_assoc]
  rfl

namespace Sql.Scope.GivesAs

variable {scope : Scope} {condition : Bool} {term : Term} {name : Member} {ty : Ty}

/-- A column of a parameter. -/
theorem paramColumn {param : Param} (isRow : name.owner.kind = .model)
    (gives : scope.GivesAs condition (.member (some (.parameter param)) name ty) term) :
    term = Sql.paramColumn scope condition param name ty := by
  obtain ⟨progress, progress', done⟩ := gives
  rw [Expr.compile_member, Expr.memberForm_of_row scope _ isRow (by simp)] at done
  cases done
  rfl

/-- A column of a row that a field keeps, condition or not. -/
theorem rowColumn {outer : Option Expr} {inner : Member} {innerTy : Ty}
    (isRow : name.owner.kind = .model)
    (gives : scope.GivesAs condition (.member (some (.member outer inner innerTy)) name ty) term) :
    ∃ table, scope.aliases.ofMember? inner = some table ∧
      term = .column table (scope.resolver.columnName name) := by
  obtain ⟨progress, progress', done⟩ := gives
  rw [Expr.compile_member, Expr.memberForm_of_row scope _ isRow (by simp), Expr.compileMember,
    memberColumn] at done
  cases found : scope.aliases.ofMember? inner with
  | none =>
      simp only [found] at done
      cases done
  | some table =>
      simp only [found] at done
      cases done
      exact ⟨table, rfl, rfl⟩

end Sql.Scope.GivesAs

/-! ### Boolean columns as conditions -/

/-- At the place of the term stands the text. -/
def Sql.Term.ShowsAt (term : Term) (place : List Nat) (text : String) : Prop :=
  ∃ part, term.partAt? place = some part ∧ part.text = text

/-- Boolean columns where the expression wants conditions: those of parameters are compared
explicitly, those of rows that fields keep are not. -/
structure Expr.ConditionColumns (resolver : Resolver) (aliases : Aliases) (condition : Bool)
    (whole : Expr) (term : Term) : Prop where
  ofParam : ∀ place param name ty, name.owner.kind = .model → ty.isBool = true →
    whole.IsCondition condition place (.member (some (.parameter param)) name ty) →
    term.ShowsAt place
      ("[" ++ aliases.ofParam param ++ "].[" ++ resolver.columnName name ++ "] = 1")
  ofRow : ∀ place outer inner innerTy name ty, name.owner.kind = .model → ty.isBool = true →
    whole.IsCondition condition place (.member (some (.member outer inner innerTy)) name ty) →
    ∃ table, aliases.ofMember? inner = some table ∧
      term.ShowsAt place ("[" ++ table ++ "].[" ++ resolver.columnName name ++ "]")

theorem Sql.Scope.GivesAs.conditionColumns {scope : Scope} {condition : Bool} {whole : Expr}
    {term : Term} (gives : scope.GivesAs condition whole term) :
    whole.ConditionColumns scope.resolver scope.aliases condition term where
  ofParam := by
    intro place param name ty isRow isBool isCondition
    obtain ⟨found, foundAt, ofAccess⟩ := gives.asCondition isCondition
    refine ⟨found, foundAt, ?_⟩
    rw [ofAccess.paramColumn isRow, Sql.paramColumn, isBool]
    exact Term.text_flag _ _
  ofRow := by
    intro place outer inner innerTy name ty isRow isBool isCondition
    obtain ⟨found, foundAt, ofAccess⟩ := gives.asCondition isCondition
    obtain ⟨table, isTable, isColumn⟩ := ofAccess.rowColumn isRow
    refine ⟨table, isTable, found, foundAt, ?_⟩
    rw [isColumn, Term.text_column]

/-- Conditions in the clauses of a command. Wherever one is wanted, in any clause and to any depth,
a boolean column of a lambda parameter is compared explicitly; one that is read through a field
which keeps the row is the bare column. -/
theorem Select.GivesBody.conditionwise_conditionColumns {resolver : Resolver} {path : String}
    {node : Select} {body : Body} (gives : node.GivesBody resolver path body) :
    node.Conditionwise (fun condition count whole term => ∃ aliases,
      node.aliasesAt path count = .ok aliases ∧
        whole.ConditionColumns resolver aliases condition term) body := by
  obtain ⟨nested, parameters, nested', done⟩ := gives
  refine (Select.compile_conditionwise done).mono ?_
  rintro condition count whole term ⟨aliases, groupKey, isAt, -, ofClause⟩
  exact ⟨aliases, isAt, ofClause.conditionColumns⟩

namespace Query

/-- Users with a boolean column. -/
def accountTable : Query :=
  .ofTable (.table "User" [⟨"Id", .int⟩, ⟨"Login", .string⟩, ⟨"Disabled", .bool⟩])

def accountRow : Param := ⟨"user", accountTable.rowType⟩

/-- Logins of the disabled users. -/
def disabledAccounts : List Call :=
  [.add (.filter ⟨[accountRow], (Expr.parameter accountRow).field "Disabled"⟩),
    .add (.project ⟨[accountRow], (Expr.parameter accountRow).field "Login"⟩)]

/-- The column of the parameter is compared explicitly. -/
theorem disabledAccounts_condition :
    ∃ node body term, run disabledAccounts accountTable = .ok (.select node) ∧
      node.GivesBody .identity "" body ∧ body.filters = [term] ∧
      term.ShowsAt [] "[user].[Disabled] = 1" := by
  obtain ⟨node, nested, body, parameters, row, ran, done, filters, noJoins, ofRow⟩ :
      ∃ node nested body parameters row,
        run disabledAccounts accountTable = .ok (.select node) ∧
        node.compile .identity "" 0 = .ok ((body, parameters), nested) ∧
        node.filters = [⟨[accountRow], (Expr.parameter accountRow).field "Disabled"⟩] ∧
        node.joins = [] ∧
        (∀ aliases, node.aliasesAt "" 0 = .ok aliases → aliases.ofParam accountRow = row) ∧
        row = "user" :=
    ⟨_, _, _, _, _, rfl, rfl, rfl, rfl, by rintro _ ⟨⟩; rfl, rfl⟩
  have ofFilters := (Select.GivesBody.conditionwise_conditionColumns ⟨_, _, _, done⟩).filters
  rw [filters] at ofFilters
  obtain ⟨term, rest, ⟨inner, isTerm, aliases, isAt, compared⟩, none, isFilters⟩ :=
    List.forall₂_cons_left_iff.mp ofFilters
  cases none
  rw [noJoins] at isAt
  obtain ⟨ofAccount, rfl⟩ := ofRow
  have shows := compared.ofParam [] accountRow _ _ rfl rfl (.whole rfl)
  rw [ofAccount aliases isAt] at shows
  exact ⟨node, body, inner, ran, ⟨_, _, _, done⟩, by rw [isFilters, isTerm]; rfl, shows⟩

/-- Users with their links, either row kept in a field. -/
def accountLinks : Lambda :=
  ⟨[accountRow, linkRow], .record [("link", .parameter linkRow), ("user", .parameter accountRow)]⟩

def accountPair : Param := ⟨"pair", accountLinks.resultType⟩

/-- The user of a pair is disabled. -/
def pairDisabled : Lambda :=
  ⟨[accountPair], ((Expr.parameter accountPair).field "user").field "Disabled"⟩

/-- Logins of the disabled users that have links. -/
def disabledLinked : List Call :=
  [.add (.join .inner linkTable ⟨[accountRow], (Expr.parameter accountRow).field "Id"⟩
      userLinks.innerKey accountLinks),
    .add (.filter pairDisabled),
    .add (.project ⟨[accountPair], .record
      [("Login", ((Expr.parameter accountPair).field "user").field "Login")]⟩)]

theorem disabledLinked_typed : AllowedRun Call.Typed disabledLinked accountTable := by
  refine ⟨by decide, List.forall_mem_singleton.mpr (.table _), ?_⟩
  rintro _ ⟨⟩
  refine ⟨by decide, nofun, ?_⟩
  rintro _ ⟨⟩
  refine ⟨by decide, nofun, ?_⟩
  rintro _ ⟨⟩
  trivial

/-- The same condition on a row that a field keeps is a bare column. -/
theorem disabledLinked_condition_mismatch :
    ∃ query node command, run disabledLinked accountTable = .ok query ∧
      query.ReachableBy Call.Typed ∧ query = .select node ∧ node.filters = [pairDisabled] ∧
      pairDisabled.body.IsCondition true [] pairDisabled.body ∧
      pairDisabled.body.ty = .bool ∧
      query.toCommand .identity = .ok command ∧
      command.text = "SELECT [user].[Login] AS [Login] FROM [User] [user] " ++
        " JOIN [UserRoleLink] [link] ON [user].[Id] = [link].[UserId] WHERE [user].[Disabled]" := by
  obtain ⟨node, command, ran, filters, done, isText⟩ :
      ∃ node command, run disabledLinked accountTable = .ok (.select node) ∧
        node.filters = [pairDisabled] ∧
        (Query.select node).toCommand .identity = .ok command ∧
        command.text = "SELECT [user].[Login] AS [Login] FROM [User] [user] " ++
          " JOIN [UserRoleLink] [link] ON [user].[Id] = [link].[UserId] WHERE [user].[Disabled]" :=
    ⟨_, _, rfl, rfl, rfl, by decide +kernel⟩
  have accounts : accountTable.ReachableBy Call.Typed := .table _
  exact ⟨_, node, command, ran, accounts.run disabledLinked_typed ran, rfl, filters, .whole rfl,
    rfl, done, isText⟩

end Query

/-! ### Where explicit comparisons come from -/

/-- An explicit comparison at a place of the term of an expression compares a column of a parameter
where a condition is wanted, or is a part of the group key, which was compiled before. -/
inductive Expr.FlagFrom (scope : Scope) (condition : Bool) (whole : Expr) (place : List Nat)
    (table column : String) : Prop
  | column {param : Param} {name : Member} {ty : Ty}
      (isCondition : whole.IsCondition condition place (.member (some (.parameter param)) name ty))
      (isBool : ty.isBool = true) (isTable : scope.aliases.ofParam param = table)
      (isColumn : scope.resolver.columnName name = column) : FlagFrom scope condition whole place
        table column
  | key {target : Option Expr} {name : Member} {ty : Ty} {key : Term} {outer inner : List Nat}
      (isKey : scope.groupKeyOf? name = some key)
      (placed : whole.Renders outer (.member target name ty)) (isPlace : outer ++ inner = place)
      (isPart : key.partAt? inner = some (.flag table column)) : FlagFrom scope condition whole
        place table column

/-- All explicit comparisons in what the expression is compiled to come from it. -/
def Expr.FlagsFrom (scope : Scope) (expr : Expr) : Prop :=
  ∀ condition term place table column, scope.GivesAs condition expr term →
    term.partAt? place = some (.flag table column) →
    expr.FlagFrom scope condition place table column

/-- A node that makes an explicit comparison is a boolean column of a parameter where a condition is
wanted, or the key of the groups. -/
theorem Sql.Scope.Makes.flag {scope : Scope} {condition : Bool} {core : Expr}
    {table column : String} (makes : scope.Makes condition core (.flag table column))
    (isCore : core.IsCore) :
    (∃ param name ty, core = .member (some (.parameter param)) name ty ∧ condition = true ∧
        ty.isBool = true ∧ scope.aliases.ofParam param = table ∧
        scope.resolver.columnName name = column) ∨
      ∃ target name ty, core = .member target name ty ∧
        scope.groupKeyOf? name = some (.flag table column) := by
  generalize isFlag : Term.flag table column = term at makes
  cases makes with
  | key isKey =>
      subst isFlag
      exact .inr ⟨_, _, _, rfl, isKey⟩
  | duration =>
      unfold durationTerm at isFlag
      split at isFlag <;> cases isFlag
  | captured untimed done =>
      rcases Capture.compile_cases done with ⟨placeholder, rfl⟩ | ⟨query, -, statement, rfl, -⟩
      · cases isFlag
      · cases isFlag
  | @column param name ty untimed =>
      rw [paramColumn] at isFlag
      split at isFlag
      · rename_i wanted
        rw [Bool.and_eq_true] at wanted
        cases isFlag
        exact .inl ⟨param, name, ty, rfl, wanted.1, wanted.2, rfl, rfl⟩
      · cases isFlag
  | lambda ofBody => exact absurd rfl (isCore _)
  | _ => cases isFlag

/-- All explicit comparisons in the term of an expression come from it. -/
theorem Expr.flagsFrom (scope : Scope) (expr : Expr) : expr.FlagsFrom scope := by
  intro condition term place table column gives isFlag
  cases gives.partFrom isFlag with
  | rendered isCore placed makes isCondition =>
      rcases makes.flag isCore with
        ⟨param, name, ty, rfl, wanted, isBool, isTable, isColumn⟩ | ⟨target, name, ty, rfl, isKey⟩
      · exact .column (isCondition wanted) isBool isTable isColumn
      · exact .key isKey placed (List.append_nil place) rfl
  | durationCall _ _ _ _ _ _ _ isPart => cases isPart
  | key isKey placed isPlace isPart => exact .key isKey placed isPlace isPart
  | filler isFiller => cases isFiller

/-! ### Conditions and values -/

/-- Boolean columns of parameters in the term of an expression: they are compared explicitly exactly
where a condition is wanted, and nothing else in the term is, but for parts of the group key. -/
structure Expr.FlagColumns (scope : Scope) (condition : Bool) (whole : Expr) (term : Term) :
    Prop where
  flag : ∀ place param name ty, name.owner.kind = .model → ty.isBool = true →
    whole.IsCondition condition place (.member (some (.parameter param)) name ty) →
    term.partAt? place =
      some (.flag (scope.aliases.ofParam param) (scope.resolver.columnName name))
  column : ∀ place param name ty, name.owner.kind = .model →
    whole.Renders place (.member (some (.parameter param)) name ty) →
    ¬ whole.IsCondition condition place (.member (some (.parameter param)) name ty) →
    term.partAt? place =
      some (.column (scope.aliases.ofParam param) (scope.resolver.columnName name))
  only : ∀ place table column, term.partAt? place = some (.flag table column) →
    whole.FlagFrom scope condition place table column

theorem Sql.Scope.GivesAs.flagColumns {scope : Scope} {condition : Bool} {whole : Expr}
    {term : Term} (gives : scope.GivesAs condition whole term) :
    whole.FlagColumns scope condition term where
  flag := by
    intro place param name ty isRow isBool isCondition
    obtain ⟨found, foundAt, ofAccess⟩ := gives.asCondition isCondition
    rw [foundAt, ofAccess.paramColumn isRow, Sql.paramColumn, isBool]
    rfl
  column := by
    intro place param name ty isRow placed noCondition
    obtain ⟨found, foundAt, ofAccess⟩ := gives.asValue placed noCondition
    rw [foundAt, ofAccess.paramColumn isRow]
    rfl
  only := fun place table column => Expr.flagsFrom scope whole _ _ place table column gives

/-- Conditions and values in the clauses of a command. A boolean column of a lambda parameter is
compared explicitly where a condition is wanted: as a whole predicate, as the test of a conditional,
and as an operand of any operator with a boolean result, comparisons included. Everywhere else it is
the bare column, and nothing but such columns is compared explicitly, unless a part of the group
key was. -/
theorem Select.GivesBody.conditionwise_flagColumns {resolver : Resolver} {path : String}
    {node : Select} {body : Body} (gives : node.GivesBody resolver path body) :
    node.Conditionwise (fun condition count whole term => ∃ aliases groupKey,
      node.aliasesAt path count = .ok aliases ∧
        (∀ key ∈ groupKey, ∃ terms ∈ body.groupBy, key ∈ terms) ∧
        whole.FlagColumns ⟨resolver, path, aliases, groupKey⟩ condition term) body := by
  obtain ⟨nested, parameters, nested', done⟩ := gives
  refine (Select.compile_conditionwise done).mono ?_
  rintro condition count whole term ⟨aliases, groupKey, isAt, isKey, ofClause⟩
  exact ⟨aliases, groupKey, isAt, isKey, ofClause.flagColumns⟩

namespace Query

/-- Whether users are disabled, of those that are not. -/
def enabledAccounts : List Call :=
  [.add (.filter ⟨[accountRow], ((Expr.parameter accountRow).field "Disabled").negation⟩),
    .add (.project ⟨[accountRow], (Expr.parameter accountRow).field "Disabled"⟩)]

/-- One column, compared under a negation and bare as a result. -/
theorem enabledAccounts_columns :
    ∃ node body term, run enabledAccounts accountTable = .ok (.select node) ∧
      node.GivesBody .identity "" body ∧ body.filters = [term] ∧
      term.partAt? [0] = some (.flag "user" "Disabled") ∧
      body.selection = .terms (.column "user" "Disabled") := by
  obtain ⟨node, nested, body, parameters, ran, done, filters, projection, noJoins, ofRow⟩ :
      ∃ node nested body parameters, run enabledAccounts accountTable = .ok (.select node) ∧
        node.compile .identity "" 0 = .ok ((body, parameters), nested) ∧
        node.filters = [⟨[accountRow], ((Expr.parameter accountRow).field "Disabled").negation⟩] ∧
        node.projection = some ⟨[accountRow], (Expr.parameter accountRow).field "Disabled"⟩ ∧
        node.joins = [] ∧
        ∀ aliases, node.aliasesAt "" 0 = .ok aliases → aliases.ofParam accountRow = "user" :=
    ⟨_, _, _, _, rfl, rfl, rfl, rfl, rfl, by rintro _ ⟨⟩; rfl⟩
  have columns := Select.GivesBody.conditionwise_flagColumns ⟨_, _, _, done⟩
  have ofFilters := columns.filters
  rw [filters] at ofFilters
  obtain ⟨term, rest, ⟨inner, isTerm, aliases, groupKey, isAt, -, inFilter⟩, none, isFilters⟩ :=
    List.forall₂_cons_left_iff.mp ofFilters
  cases none
  obtain ⟨selected, isSelection, aliases', groupKey', isAt', -, inSelection⟩ :=
    columns.columns _ (by rw [projection]; rfl)
  rw [noJoins] at isAt isAt'
  have compared := inFilter.flag [0] accountRow _ _ rfl rfl
    (.operand (.whole _) rfl)
  have bare := inSelection.column [] accountRow _ _ rfl (.whole _)
    (fun isCondition => nomatch isCondition.wanted_of_whole)
  rw [ofRow aliases isAt] at compared
  rw [ofRow aliases' isAt'] at bare
  refine ⟨node, body, inner, ran, ⟨_, _, _, done⟩, by rw [isFilters, isTerm]; rfl, compared, ?_⟩
  rw [isSelection, Option.some.inj bare]
  rfl

/-- A flag compared with a literal. -/
def flagged : Lambda :=
  ⟨[accountRow], ((Expr.parameter accountRow).field "Disabled").equals (.literal (.bool true))⟩

/-- Users whose flag equals true. -/
def flaggedAccounts : List Call := [.add (.filter flagged)]

theorem flaggedAccounts_typed : AllowedRun Call.Typed flaggedAccounts accountTable := by
  refine ⟨by decide, nofun, ?_⟩
  rintro _ ⟨⟩
  trivial

/-- As an operand of an equality the column is compared explicitly. -/
theorem flaggedAccounts_operand_mismatch :
    ∃ query node command, run flaggedAccounts accountTable = .ok query ∧
      query.ReachableBy Call.Typed ∧ query = .select node ∧ node.filters = [flagged] ∧
      query.toCommand .identity = .ok command ∧
      command.text =
        "SELECT * FROM [User] [user] WHERE ([user].[Disabled] = 1) = (@p0)" := by
  obtain ⟨node, command, ran, filters, done, isText⟩ :
      ∃ node command, run flaggedAccounts accountTable = .ok (.select node) ∧
        node.filters = [flagged] ∧
        (Query.select node).toCommand .identity = .ok command ∧
        command.text =
          "SELECT * FROM [User] [user] WHERE ([user].[Disabled] = 1) = (@p0)" :=
    ⟨_, _, rfl, rfl, rfl, by decide +kernel⟩
  have accounts : accountTable.ReachableBy Call.Typed := .table _
  exact ⟨_, node, command, ran, accounts.run flaggedAccounts_typed ran, rfl, filters, done, isText⟩

end Query

end TypedQuery
