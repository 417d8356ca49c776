/-
Module: TypedQuery.Proofs.NullTests
Purpose: What texts of terms say about where they come from. The text of a compiled expression is
  the keyword `NULL` exactly for the null constant, empty exactly for a construction that writes
  nothing, and else has a character that the keyword has not. Tests for null therefore stand
  exactly where an operand of an equality is the null constant.
Main exports: Sql.Telling, Sql.Scope.GivesAs.text_cases, Expr.text_eq_null_iff, Expr.NullTests,
  Expr.compile_nullTests
-/
import TypedQuery.Proofs.BuilderCalls
import TypedQuery.Proofs.PartOrigins
import TypedQuery.Proofs.TermTokens

namespace TypedQuery

open Sql Sql.Compile

namespace Sql

/-! ### Texts of terms -/

theorem Term.text_binary (op : Operator) (left right : Term) :
    (Term.binary op left right).text =
      "(" ++ left.text ++ ") " ++ op.text ++ " (" ++ right.text ++ ")" := rfl

theorem Term.text_unary (op : Modifier) (operand : Term) :
    (Term.unary op operand).text = op.text ++ " (" ++ operand.text ++ ")" := rfl

theorem Term.text_convert (target : SqlType) (operand : Term) :
    (Term.convert target operand).text =
      "CONVERT(" ++ target.text ++ ", " ++ operand.text ++ ")" := rfl

theorem Term.text_iif (test ifTrue ifFalse : Term) :
    (Term.iif test ifTrue ifFalse).text =
      "IIF(" ++ test.text ++ ", " ++ ifTrue.text ++ ", " ++ ifFalse.text ++ ")" := rfl

theorem Term.text_apply (template : Template) (slots : List Term) :
    (Term.apply template slots).text = template.fill (slots.map Term.text) := by
  rw [← Term.texts_eq_map]
  rfl

theorem Term.text_dateTime (parts : List Term) :
    (Term.dateTime parts).text =
      "DATETIMEFROMPARTS(" ++ String.intercalate ", " (parts.map Term.text) ++ ")" := by
  rw [← Term.texts_eq_map]
  rfl

theorem Term.text_columns_cons (field : Labelled) (rest : List Labelled) :
    (Term.columns (field :: rest)).text = String.intercalate ", "
      ((field.term.text ++ " AS " ++ bracketed field.label) :: Labelled.texts rest) := by
  obtain ⟨term, label⟩ := field
  rfl

/-! ### Telling texts -/

/-- The text has a character that does not occur in the keyword `NULL`. -/
def Telling (text : String) : Prop := ∃ character ∈ text.toList, character ∉ "NULL".toList

namespace Telling

variable {text other : String}

theorem ne_null (telling : Telling text) : text ≠ "NULL" := by
  rintro rfl
  obtain ⟨character, present, absent⟩ := telling
  exact absent present

theorem ne_empty (telling : Telling text) : text ≠ "" := by
  rintro rfl
  obtain ⟨character, present, -⟩ := telling
  cases present

theorem append_right (telling : Telling text) (other : String) : Telling (text ++ other) := by
  obtain ⟨character, present, absent⟩ := telling
  exact ⟨character, by rw [String.toList_append]; exact List.mem_append_left _ present, absent⟩

theorem append_left (telling : Telling text) (other : String) : Telling (other ++ text) := by
  obtain ⟨character, present, absent⟩ := telling
  exact ⟨character, by rw [String.toList_append]; exact List.mem_append_right _ present, absent⟩

theorem intercalate (telling : Telling text) (separator : String) (others : List String) :
    Telling (separator.intercalate (text :: others)) := by
  cases others with
  | nil => rwa [String.intercalate_singleton]
  | cons other rest =>
      rw [String.intercalate_cons_cons]
      exact (telling.append_right _).append_right _

end Telling

/-- An opening bracket tells. -/
theorem telling_bracketed (name : String) : Telling (bracketed name) := by
  have opening : Telling "[" := ⟨'[', by decide, by decide⟩
  exact (opening.append_right name).append_right "]"

/-- The character that all templates have. -/
def Template.Opens (template : Template) : Prop := Piece.char '(' ∈ template.pieces

instance (template : Template) : Decidable template.Opens :=
  inferInstanceAs (Decidable (_ ∈ _))

theorem Template.Opens.telling {template : Template} (opens : template.Opens)
    (args : List String) : Telling (template.fill args) := by
  refine ⟨'(', ?_, by decide⟩
  rw [fill, String.toList_ofList]
  exact List.mem_flatMap.mpr ⟨.char '(', opens, .head _⟩

theorem Template.opens_of_template? {method : Method} {template : Template}
    (found : method.template? = some template) : template.Opens := by
  have all : ∀ entry ∈ methods, (Template.parse entry.2).Opens := by decide +kernel
  obtain ⟨entry, present, -, rfl⟩ := Method.template?_eq_some found
  exact all entry present

theorem Template.opens_of_propertyTemplate? {owner : Kind} {name : String} {template : Template}
    (found : propertyTemplate? owner name = some template) : template.Opens := by
  have all : ∀ entry ∈ properties, (Template.parse entry.2.2).Opens := by decide +kernel
  obtain ⟨entry, present, -, -, rfl⟩ := propertyTemplate?_eq_some found
  exact all entry present

/-- Commands begin with a keyword or a parenthesis. -/
theorem Statement.telling : ∀ statement : Statement, Telling statement.text
  | .table name => by
      have keyword : Telling "SELECT * FROM " := ⟨'S', by decide, by decide⟩
      exact keyword.append_right (bracketed name)
  | .select body => by
      have keyword : Telling "SELECT " := ⟨'S', by decide, by decide⟩
      change Telling body.text
      rw [Body.text_eq]
      simp only [String.append_assoc]
      exact keyword.append_right _
  | .combine op first second => by
      have opening : Telling "(" := ⟨'(', by decide, by decide⟩
      change Telling ("(" ++ first.text ++ " " ++ op.keyword ++ " " ++ second.text ++ ")")
      simp only [String.append_assoc]
      exact opening.append_right _

theorem paramColumn_telling (scope : Scope) (condition : Bool) (param : Param) (name : Member)
    (ty : Ty) : Telling (paramColumn scope condition param name ty).text := by
  unfold paramColumn
  dsimp only
  split
  · exact ((telling_bracketed _).append_right _ |>.append_right _).append_right _
  · exact (telling_bracketed _).append_right _ |>.append_right _

end Sql

/-- Captured values are placeholders, which begin with a sign of their own. -/
theorem Capture.telling {scope : Scope} {name : String} {captures : List Capture}
    {progress progress' : Progress} {term : Term}
    (done : Capture.compile scope name captures progress = .ok (term, progress')) :
    Telling term.text := by
  induction captures with
  | nil =>
      rw [Capture.compile] at done
      cases done
  | cons capture rest ih =>
      cases capture with
      | value held value =>
          rw [Capture.compile] at done
          split at done
          · cases done
            have sign : Telling "@" := ⟨'@', by decide, by decide⟩
            exact (sign.append_right _ |>.append_right _).append_right _
          · exact ih done
      | query held query =>
          rw [Capture.compile] at done
          split at done
          · obtain ⟨path, _, -, done⟩ := bind_eq_ok done
            obtain ⟨statement, _, -, done⟩ := bind_eq_ok done
            cases done
            exact statement.telling
          · exact ih done

/-! ### Expressions by their texts -/

/-- The null constant, possibly under lambdas. -/
def Expr.IsNull (expr : Expr) : Prop := expr.core.isNullConstant = true

instance (expr : Expr) : Decidable expr.IsNull := inferInstanceAs (Decidable (_ = _))

/-- A construction that writes nothing, possibly under lambdas: a source of random numbers, or a row
without fields. -/
def Expr.IsBlank (expr : Expr) : Prop :=
  match expr.core with
  | .construct .random _ _ => True
  | .construct (.record names) args _ => names = [] ∨ args = []
  | _ => False

/-- The key of the groups is read, possibly under lambdas. -/
def Sql.Scope.ReadsKey (scope : Scope) (expr : Expr) (term : Term) : Prop :=
  ∃ target name ty, expr.core = .member target name ty ∧ scope.groupKeyOf? name = some term

/-- What a compiled expression reads as. -/
inductive Sql.Scope.TextCase (scope : Scope) (expr : Expr) (term : Term) : Prop
  | null (isNull : expr.IsNull) (isTerm : term = .null) : TextCase scope expr term
  | blank (isBlank : expr.IsBlank) (isText : term.text = "") : TextCase scope expr term
  | key (readsKey : scope.ReadsKey expr term) : TextCase scope expr term
  | telling (telling : Telling term.text) : TextCase scope expr term

namespace Sql.Scope

variable {scope : Scope} {condition : Bool} {expr : Expr} {term : Term}

/-- Only without labels or without terms nothing is labelled. -/
theorem eq_nil_of_label {args : List Expr} {terms : List Term} {names : List String}
    (ofArgs : List.Forall₂ (scope.GivesAs false) args terms) (nothing : label terms names = []) :
    names = [] ∨ args = [] := by
  cases ofArgs with
  | nil => exact .inr rfl
  | cons ofFirst ofRest =>
      cases names with
      | nil => exact .inl rfl
      | cons name rest => cases nothing

/-- The step: what a node makes reads as the node says. -/
theorem Makes.text_cases (makes : scope.Makes condition expr.core term)
    (isCore : expr.core.IsCore) : scope.TextCase expr term := by
  generalize isExpr : expr.core = core at makes
  cases makes with
  | binary found ofLeft ofRight =>
      have opening : Telling "(" := ⟨'(', by decide, by decide⟩
      refine .telling ?_
      rw [Term.text_binary]
      simp only [String.append_assoc]
      exact opening.append_right _
  | convert found ofOperand =>
      have name : Telling "CONVERT(" := ⟨'(', by decide, by decide⟩
      refine .telling ?_
      rw [Term.text_convert]
      simp only [String.append_assoc]
      exact name.append_right _
  | unary found ofOperand =>
      have closing : Telling ")" := ⟨')', by decide, by decide⟩
      refine .telling ?_
      rw [Term.text_unary]
      exact closing.append_left _
  | conditional ofTest ofTrue ofFalse =>
      have name : Telling "IIF(" := ⟨'(', by decide, by decide⟩
      refine .telling ?_
      rw [Term.text_iif]
      simp only [String.append_assoc]
      exact name.append_right _
  | key isKey => exact .key ⟨_, _, _, isExpr, isKey⟩
  | duration timed isUnit found ofCallee ofArgs =>
      have name : Telling "CONVERT(" := ⟨'(', by decide, by decide⟩
      refine .telling ?_
      unfold durationTerm
      split
      · rw [Term.text_convert]
        simp only [String.append_assoc]
        exact name.append_right _
      · rw [Term.text_apply]
        exact (Template.opens_of_template? found).telling _
  | captured untimed done => exact .telling (Capture.telling done)
  | property untimed notClosure found ofTarget =>
      refine .telling ?_
      rw [Term.text_apply]
      exact (Template.opens_of_propertyTemplate? found).telling _
  | @column param name ty untimed =>
      exact .telling (paramColumn_telling scope condition param name ty)
  | keptColumn untimed isTable =>
      exact .telling (((telling_bracketed _).append_right _).append_right _)
  | call found ofTarget ofArgs =>
      refine .telling ?_
      rw [Term.text_apply]
      exact (Template.opens_of_template? found).telling _
  | @record names args ty terms ofArgs =>
      cases labelled : label terms names with
      | nil =>
          refine .blank ?_ rfl
          rw [Expr.IsBlank, isExpr]
          exact eq_nil_of_label ofArgs labelled
      | cons field rest =>
          refine .telling ?_
          rw [Term.text_columns_cons]
          exact (((telling_bracketed field.label).append_left _)).intercalate _ _
  | dateTime ofArgs =>
      have name : Telling "DATETIMEFROMPARTS(" := ⟨'(', by decide, by decide⟩
      refine .telling ?_
      rw [Term.text_dateTime]
      simp only [String.append_assoc]
      exact name.append_right _
  | random args ty =>
      refine .blank ?_ rfl
      rw [Expr.IsBlank, isExpr]
      trivial
  | null ty =>
      refine .null ?_ rfl
      rw [Expr.IsNull, isExpr]
      rfl
  | literal notNull ty index =>
      have sign : Telling "@" := ⟨'@', by decide, by decide⟩
      refine .telling ?_
      change Telling ("@" ++ scope.path ++ "p" ++ toString index)
      simp only [String.append_assoc]
      exact sign.append_right _
  | row param => exact .telling (telling_bracketed _)
  | lambda ofBody => exact absurd isExpr (isCore _)

/-- A compiled expression reads as the null constant, as nothing, as the key of the groups, or has a
character that the keyword has not. -/
theorem GivesAs.text_cases (gives : scope.GivesAs condition expr term) :
    scope.TextCase expr term := by
  obtain ⟨isCore, -, wanted, makes, -⟩ := GivesAs.core expr gives
  exact makes.text_cases isCore

/-- No key of the groups has the text. -/
def KeyNever (scope : Scope) (text : String) : Prop := ∀ key ∈ scope.groupKey, key.text ≠ text

theorem ReadsKey.mem (readsKey : scope.ReadsKey expr term) : term ∈ scope.groupKey := by
  obtain ⟨target, name, ty, -, isKey⟩ := readsKey
  exact scope.groupKeyOf?_mem isKey

end Sql.Scope

/-- The null constant is compiled to the keyword, in every state. -/
theorem Expr.compile_of_isNull (scope : Scope) (condition : Bool) (expr : Expr)
    (isNull : expr.IsNull) (progress : Progress) :
    expr.compile scope condition progress = .ok (.null, progress) := by
  cases expr with
  | lambda function =>
      obtain ⟨params, body⟩ := function
      exact compile_of_isNull scope false body isNull progress
  | constant value ty =>
      cases value with
      | null => rfl
      | _ => cases isNull
  | _ => cases isNull
termination_by structural expr

namespace Sql.Scope

variable {scope : Scope} {condition : Bool} {expr : Expr} {term : Term}

theorem GivesAs.eq_null (gives : scope.GivesAs condition expr term) (isNull : expr.IsNull) :
    term = .null := by
  obtain ⟨progress, progress', done⟩ := gives
  rw [Expr.compile_of_isNull scope condition expr isNull] at done
  cases done
  rfl

/-- Without fields, or without labels for them, a row is empty. -/
theorem label_eq_nil {args : List Expr} {terms : List Term} {names : List String}
    (ofArgs : List.Forall₂ (scope.GivesAs false) args terms) (nothing : names = [] ∨ args = []) :
    label terms names = [] := by
  rcases nothing with rfl | rfl
  · cases terms <;> rfl
  · cases ofArgs
    rfl

theorem Makes.text_of_isBlank (makes : scope.Makes condition expr.core term)
    (isBlank : expr.IsBlank) : term.text = "" := by
  unfold Expr.IsBlank at isBlank
  generalize expr.core = core at makes isBlank
  cases makes with
  | record ofArgs =>
      rw [label_eq_nil ofArgs isBlank]
      rfl
  | random => rfl
  | _ => cases isBlank

/-- The keyword is the text of the null constant only. -/
theorem GivesAs.text_eq_null_iff (gives : scope.GivesAs condition expr term)
    (keyNever : scope.KeyNever "NULL") : term.text = "NULL" ↔ expr.IsNull := by
  constructor
  · intro isText
    cases gives.text_cases with
    | null isNull isTerm => exact isNull
    | blank isBlank isEmpty => exact absurd (isEmpty.symm.trans isText) (by decide)
    | key readsKey => exact absurd isText (keyNever _ readsKey.mem)
    | telling telling => exact absurd isText telling.ne_null
  · intro isNull
    rw [gives.eq_null isNull]
    rfl

/-- Only constructions that write nothing are empty. -/
theorem GivesAs.text_eq_empty_iff (gives : scope.GivesAs condition expr term)
    (keyNever : scope.KeyNever "") : term.text = "" ↔ expr.IsBlank := by
  constructor
  · intro isText
    cases gives.text_cases with
    | null isNull isTerm =>
        rw [isTerm] at isText
        exact absurd isText (by decide)
    | blank isBlank isEmpty => exact isBlank
    | key readsKey => exact absurd isText (keyNever _ readsKey.mem)
    | telling telling => exact absurd isText telling.ne_empty
  · intro isBlank
    obtain ⟨-, -, wanted, makes, -⟩ := GivesAs.core expr gives
    exact makes.text_of_isBlank isBlank

/-- The test on terms is the test on texts. -/
theorem GivesAs.isNull_iff (gives : scope.GivesAs condition expr term)
    (keyNever : scope.KeyNever "NULL") : term.isNull = true ↔ expr.IsNull := by
  constructor
  · intro isNull
    refine (gives.text_eq_null_iff keyNever).mp ?_
    cases term with
    | null => rfl
    | _ => cases isNull
  · intro isNull
    rw [gives.eq_null isNull]
    rfl

end Sql.Scope

/-! ### Tests for null -/

/-- The SQL operators that test for null are those of equalities with a null operand. -/
theorem BinaryOp.testsNull_iff {op : BinaryOp} {anyNull : Bool} {operator : Operator}
    (found : op.sqlOperator? anyNull = some operator) :
    (operator.text = "IS" ↔ op = .eq ∧ anyNull = true) ∧
      (operator.text = "IS NOT" ↔ op = .notEq ∧ anyNull = true) := by
  cases op <;> cases anyNull <;> cases found <;> decide

/-- Tests for null in the term of an expression. -/
structure Expr.NullTests (scope : Scope) (whole : Expr) (term : Term) : Prop where
  /-- Wherever an operator with two operands is rendered, its SQL form stands between the texts of
  the operands, and tests for null just when it is an equality and one of them is the null
  constant. -/
  rendered : ∀ place op left right ty, whole.Renders place (.binary op left right ty) →
    ∃ (part leftTerm rightTerm : Term) (operator : Operator), term.partAt? place = some part ∧
      part.text = "(" ++ leftTerm.text ++ ") " ++ operator.text ++ " (" ++ rightTerm.text ++ ")" ∧
      scope.Gives left leftTerm ∧ scope.Gives right rightTerm ∧
      (operator.text = "IS" ↔ op = .eq ∧ (left.IsNull ∨ right.IsNull)) ∧
      (operator.text = "IS NOT" ↔ op = .notEq ∧ (left.IsNull ∨ right.IsNull))
  /-- Nothing else tests for null, but for parts of the group key, which was compiled before. -/
  only : ∀ (place : List Nat) (operator : Operator) (leftTerm rightTerm : Term),
    term.partAt? place = some (.binary operator leftTerm rightTerm) →
    operator.text = "IS" ∨ operator.text = "IS NOT" →
    (∃ op left right ty, whole.Renders place (.binary op left right ty) ∧
      (op = .eq ∨ op = .notEq) ∧ (left.IsNull ∨ right.IsNull)) ∨
    ∃ target name ty key outer inner, scope.groupKeyOf? name = some key ∧
      whole.Renders outer (.member target name ty) ∧ outer ++ inner = place ∧
      key.partAt? inner = some (.binary operator leftTerm rightTerm)

namespace Sql.Scope

variable {scope : Scope} {condition : Bool} {expr core : Expr} {term leftTerm rightTerm : Term}
  {operator : Operator}

/-- A node that makes an operator between two operands has one, or is the key of the groups. -/
theorem Makes.binary_cases
    (makes : scope.Makes condition core (.binary operator leftTerm rightTerm))
    (isCore : core.IsCore) :
    (∃ op left right ty, core = .binary op left right ty ∧
        op.sqlOperator? (leftTerm.isNull || rightTerm.isNull) = some operator ∧
        scope.Gives left leftTerm ∧ scope.Gives right rightTerm) ∨
      ∃ target name ty, core = .member target name ty ∧
        scope.groupKeyOf? name = some (.binary operator leftTerm rightTerm) := by
  generalize isBinary : Term.binary operator leftTerm rightTerm = made at makes
  cases makes with
  | binary found ofLeft ofRight =>
      cases isBinary
      exact .inl ⟨_, _, _, _, rfl, found, ofLeft.gives, ofRight.gives⟩
  | key isKey =>
      subst isBinary
      exact .inr ⟨_, _, _, rfl, isKey⟩
  | duration =>
      unfold durationTerm at isBinary
      split at isBinary <;> cases isBinary
  | captured untimed done =>
      rcases Capture.compile_cases done with ⟨placeholder, rfl⟩ | ⟨query, -, statement, rfl, -⟩
      · cases isBinary
      · cases isBinary
  | @column param name ty untimed =>
      unfold paramColumn at isBinary
      dsimp only at isBinary
      split at isBinary <;> cases isBinary
  | lambda ofBody => exact absurd rfl (isCore _)
  | _ => cases isBinary

/-- With a null operand, an operator that has a form for null takes it, and no other does. -/
theorem testsNull_iff (keyNever : scope.KeyNever "NULL") {op : BinaryOp} {left right : Expr}
    (found : op.sqlOperator? (leftTerm.isNull || rightTerm.isNull) = some operator)
    (ofLeft : scope.Gives left leftTerm) (ofRight : scope.Gives right rightTerm) :
    (operator.text = "IS" ↔ op = .eq ∧ (left.IsNull ∨ right.IsNull)) ∧
      (operator.text = "IS NOT" ↔ op = .notEq ∧ (left.IsNull ∨ right.IsNull)) := by
  obtain ⟨leftCondition, ofLeft⟩ := ofLeft
  obtain ⟨rightCondition, ofRight⟩ := ofRight
  have anyNull : (leftTerm.isNull || rightTerm.isNull) = true ↔ left.IsNull ∨ right.IsNull := by
    rw [Bool.or_eq_true, GivesAs.isNull_iff ofLeft keyNever, GivesAs.isNull_iff ofRight keyNever]
  rw [← anyNull]
  exact BinaryOp.testsNull_iff found

theorem GivesAs.nullTests (gives : scope.GivesAs condition expr term)
    (keyNever : scope.KeyNever "NULL") : expr.NullTests scope term where
  rendered := by
    intro place op left right ty placed
    obtain ⟨part, wanted, foundAt, ofPart, -⟩ := gives.rendered placed
    cases ofPart.makes with
    | binary found ofLeft ofRight =>
        exact ⟨_, _, _, _, foundAt, Term.text_binary .., ofLeft.gives, ofRight.gives,
          testsNull_iff keyNever found ofLeft.gives ofRight.gives⟩
  only := by
    intro place operator leftTerm rightTerm foundAt tests
    cases gives.partFrom foundAt with
    | rendered isCore placed makes =>
        rcases makes.binary_cases isCore with
          ⟨op, left, right, ty, rfl, found, ofLeft, ofRight⟩ | ⟨target, name, ty, rfl, isKey⟩
        · obtain ⟨isIff, isNotIff⟩ := testsNull_iff keyNever found ofLeft ofRight
          refine .inl ⟨op, left, right, ty, placed, ?_⟩
          rcases tests with tests | tests
          · obtain ⟨isEq, anyNull⟩ := isIff.mp tests
            exact ⟨.inl isEq, anyNull⟩
          · obtain ⟨isNotEq, anyNull⟩ := isNotIff.mp tests
            exact ⟨.inr isNotEq, anyNull⟩
        · exact .inr ⟨target, name, ty, _, place, [], isKey, placed, List.append_nil _, rfl⟩
    | durationCall _ _ _ _ _ _ _ isPart => cases isPart
    | key isKey placed isPlace isPart =>
        exact .inr ⟨_, _, _, _, _, _, isKey, placed, isPlace, isPart⟩
    | filler isFiller => cases isFiller

end Sql.Scope

/-- The test for null on texts agrees with the one on expressions. As long as the text of the group
key is not the keyword itself, an expression is compiled to the text `NULL` just when it is the null
constant, possibly under lambdas, whatever identifiers, templates and arguments it has, and
whatever was compiled before. So the operators `IS` and `IS NOT` stand exactly where an equality or
its negation has the null constant as an operand. -/
theorem Expr.compile_nullTests {scope : Scope} (keyNever : scope.KeyNever "NULL") (expr : Expr)
    (condition : Bool) (progress : Progress) :
    ((∃ term progress', expr.compile scope condition progress = .ok (term, progress') ∧
        term.text = "NULL") ↔ expr.IsNull) ∧
      ∀ term progress', expr.compile scope condition progress = .ok (term, progress') →
        expr.NullTests scope term := by
  refine ⟨⟨?_, ?_⟩, ?_⟩
  · rintro ⟨term, progress', done, isText⟩
    have gives : scope.GivesAs condition expr term := ⟨progress, progress', done⟩
    exact (gives.text_eq_null_iff keyNever).mp isText
  · intro isNull
    exact ⟨.null, progress, Expr.compile_of_isNull scope condition expr isNull progress, rfl⟩
  · intro term progress' done
    have gives : scope.GivesAs condition expr term := ⟨progress, progress', done⟩
    exact gives.nullTests keyNever

namespace Query

/-- The login is missing, and so is the key of the group; the first null stands under a lambda. -/
def missingLogin : Expr :=
  let user : Param := ⟨"user", userTable.rowType⟩
  let group : Param := ⟨"g", .group .string user.ty⟩
  (((Expr.parameter user).field "Login").equals (.lambda ⟨[], .null⟩)).both
    (Expr.null.notEquals (Expr.parameter group).key)

/-- Behind a grouping by logins. -/
def groupedScope : Scope := ⟨.identity, "", .start "", some (.column "user" "Login")⟩

/-- Both equalities test for null, and the term is not the keyword. -/
theorem missingLogin_nullTests :
    groupedScope.KeyNever "NULL" ∧
      ∃ term progress, missingLogin.compile groupedScope true ⟨0, .empty⟩ = .ok (term, progress) ∧
        term.text = "(([user].[Login]) IS (NULL)) AND ((NULL) IS NOT ([user].[Login]))" ∧
        missingLogin.NullTests groupedScope term ∧ ¬ missingLogin.IsNull ∧
        (Expr.lambda ⟨[], .null⟩).IsNull := by
  have keyNever : groupedScope.KeyNever "NULL" := by
    rintro _ ⟨⟩
    decide
  obtain ⟨term, progress, done, isText⟩ : ∃ term progress,
      missingLogin.compile groupedScope true ⟨0, .empty⟩ = .ok (term, progress) ∧
      term.text = "(([user].[Login]) IS (NULL)) AND ((NULL) IS NOT ([user].[Login]))" :=
    ⟨_, _, rfl, by decide +kernel⟩
  obtain ⟨-, nullTests⟩ := Expr.compile_nullTests keyNever missingLogin true ⟨0, .empty⟩
  exact ⟨keyNever, term, progress, done, isText, nullTests term progress done, by decide,
    by decide⟩

end Query

end TypedQuery
