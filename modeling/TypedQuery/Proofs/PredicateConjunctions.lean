/-
Module: TypedQuery.Proofs.PredicateConjunctions
Purpose: The clauses `WHERE` and `HAVING` hold where all of their predicates do. Outside of
  brackets, the term of a predicate has no `OR`: operators, conversions, choices and methods of
  strings put their operands in brackets, and a disjunction is put in parentheses as a whole.
Main exports: Expr.IsPredicate, Expr.compile_factor, Sql.Scope.Conjoins,
  Lambda.factors_of_compileAll, Lambda.predicates_conjoined, Select.GivesBody.clauses_conjoined
-/
import TypedQuery.Proofs.CommandNesting
import TypedQuery.Proofs.CommandNodes
import TypedQuery.Proofs.JoinChains
import TypedQuery.Proofs.TermOutlines

namespace TypedQuery

open Sql Sql.Compile

/-! ### Terms that may be joined by `AND` -/

namespace Sql

namespace Term

variable {term left right test ifTrue ifFalse : Term}

theorem conjunctive_enclosed (nested : WellNested term.text) :
    Conjunctive (Term.enclosed term).text :=
  .of_outlines (wellNested_enclosed nested) (outlines_enclosed nested) (by simp)

/-- Only the operator itself brings `OR` into a text. -/
theorem conjunctive_binary {op : Operator} (notOr : op ≠ .or) (ofLeft : WellNested left.text)
    (ofRight : WellNested right.text) : Conjunctive (Term.binary op left right).text := by
  refine .of_outlines (wellNested_binary op ofLeft ofRight) (outlines_binary op ofLeft ofRight) ?_
  cases op with
  | or => exact absurd rfl notOr
  | _ => decide

theorem conjunctive_unary (op : Modifier) (nested : WellNested term.text) :
    Conjunctive (Term.unary op term).text := by
  refine .of_outlines (wellNested_unary op nested) (outlines_unary op nested) ?_
  cases op <;> decide

theorem conjunctive_convert (target : SqlType) (nested : WellNested term.text) :
    Conjunctive (Term.convert target term).text :=
  .of_outlines (wellNested_convert target nested) (outlines_convert target nested) (by decide)

theorem conjunctive_iif (ofTest : WellNested test.text) (ofTrue : WellNested ifTrue.text)
    (ofFalse : WellNested ifFalse.text) : Conjunctive (Term.iif test ifTrue ifFalse).text :=
  .of_outlines (wellNested_iif ofTest ofTrue ofFalse) (outlines_iif ofTest ofTrue ofFalse)
    (by decide)

theorem conjunctive_column {table name : String} (free : Unbracketed table)
    (free' : Unbracketed name) : Conjunctive (Term.column table name).text :=
  .of_outlines (wellNested_column free free') (outlines_column free free') (by decide)

theorem conjunctive_flag {table name : String} (free : Unbracketed table)
    (free' : Unbracketed name) : Conjunctive (Term.flag table name).text :=
  .of_outlines (wellNested_flag free free') (outlines_flag free free') (by decide)

end Term

/-- The templates for methods of strings have their slots in brackets, and no `OR` outside. -/
theorem Template.shown_of_stringMethod {method : Method} {template : Template}
    (isString : method.owner = .string) (found : method.template? = some template) :
    slotsInside [] template.pieces = true ∧ .word "OR" ∉ template.shown := by
  have all : ∀ entry ∈ methods, entry.1.owner = .string →
      slotsInside [] (Template.parse entry.2).pieces = true ∧
        .word "OR" ∉ (Template.parse entry.2).shown := by
    decide +kernel
  obtain ⟨entry, present, isAnswer, rfl⟩ := Method.template?_eq_some found
  exact all entry present ((answers_names isAnswer).1.trans isString)

end Sql

/-! ### Predicates -/

/-- The expression is an operator, a choice, a column or a call of a method of strings. The key of
the groups is no column: it stands for the expression that the rows are grouped by. -/
inductive Expr.IsPredicate : Expr → Prop
  | binary (op : BinaryOp) (left right : Expr) (ty : Ty) : IsPredicate (.binary op left right ty)
  | unary (op : UnaryOp) (operand : Expr) (ty : Ty) : IsPredicate (.unary op operand ty)
  | conditional (test ifTrue ifFalse : Expr) (ty : Ty) :
      IsPredicate (.conditional test ifTrue ifFalse ty)
  | column {target : Option Expr} {name : Member} {ty : Ty}
      (notKey : ¬ (name.name = "Key" ∧ name.owner.isGroup)) (untimed : name.owner ≠ .timeSpan)
      (notClosure : ∀ captures ty, target ≠ some (.closure captures ty))
      (noProperty : propertyTemplate? name.owner.kind name.name = none) :
      IsPredicate (.member target name ty)
  | call (target : Option Expr) {method : Method} (args : List Expr) (ty : Ty)
      (isString : method.owner = .string) : IsPredicate (.call target method args ty)

/-- An operator that becomes `OR` is a disjunction. -/
theorem BinaryOp.isDisjunction_of_or {op : BinaryOp} {anyNull : Bool}
    (becomes : op.sqlOperator? anyNull = some .or) : op.isDisjunction = true := by
  cases op with
  | or => rfl
  | bitOr => rfl
  | eq => cases anyNull <;> cases becomes
  | notEq => cases anyNull <;> cases becomes
  | _ => cases becomes

namespace Sql

variable {scope : Scope} {resolver : Resolver}

/-- With the parentheses that it gets as a predicate, the term may be joined to others by `AND`. -/
abbrev Factor (predicate : Expr) (term : Term) : Prop :=
  Conjunctive (encloseDisjunction predicate term).text

theorem binaryTerm_factor (op : BinaryOp) (first second : Expr) (ty : Ty) {left right : Term}
    (ofLeft : WellNested left.text) (ofRight : WellNested right.text) :
    Ensures (Factor (.binary op first second ty)) (binaryTerm op left right) := by
  unfold binaryTerm
  split
  · rename_i operator becomes
    apply Ensures.pure
    unfold Factor encloseDisjunction
    dsimp only
    split
    · exact Term.conjunctive_enclosed (Term.wellNested_binary operator ofLeft ofRight)
    · rename_i noDisjunction
      refine Term.conjunctive_binary ?_ ofLeft ofRight
      rintro rfl
      exact noDisjunction (BinaryOp.isDisjunction_of_or becomes)
  · exact .unsupported _

theorem unaryTerm_factor (op : UnaryOp) (expr : Expr) (ty : Ty) {operand : Term}
    (nested : WellNested operand.text) :
    Ensures (Factor (.unary op expr ty)) (unaryTerm op operand ty) := by
  rcases unaryTerm_cases op operand ty with ⟨target, form⟩ | ⟨modifier, form⟩ | ⟨fragment, form⟩
  · rw [form]
    exact .pure (Term.conjunctive_convert target nested)
  · rw [form]
    exact .pure (Term.conjunctive_unary modifier nested)
  · rw [form]
    exact .unsupported fragment

theorem callTerm_factor (target : Option Expr) {method : Method} (args : List Expr) (ty : Ty)
    (isString : method.owner = .string) {slots : List Term}
    (nested : ∀ slot ∈ slots, WellNested slot.text) :
    Ensures (Factor (.call target method args ty)) (callTerm method slots) := by
  rcases callTerm_cases method slots with ⟨template, found, form⟩ | ⟨fragment, form⟩
  · rw [form]
    obtain ⟨inside, undivided⟩ := Template.shown_of_stringMethod isString found
    have isNested := Term.wellNested_apply (Template.wellNested_of_template? found) nested
    exact .pure (.of_outlines isNested (Term.outlines_apply inside nested) undivided)
  · rw [form]
    exact .unsupported fragment

theorem memberColumn_factor (nests : scope.Nests resolver) (condition : Bool)
    {target : Option Expr} {name : Member} (ty : Ty)
    (names : ∀ mention ∈ Expr.mentionsTarget target, mention.Permitted Unbracketed)
    (column : Unbracketed (resolver.columnName name)) :
    Ensures (Factor (.member target name ty)) (memberColumn scope condition target name ty) := by
  rw [← nests.resolver_eq] at column
  rcases memberColumn_cases scope condition target name ty with
    ⟨param, rfl, form⟩ | ⟨outer, inner, innerTy, table, rfl, found, form⟩ | ⟨fragment, form⟩
  · have table := ofParam_unbracketed nests (names (.param param.name) (.head _))
    rw [form, paramColumn]
    apply Ensures.pure
    split
    · exact Term.conjunctive_flag table column
    · exact Term.conjunctive_column table column
  · have free := (Aliases.ofMember?_named nests.named found).unbracketed nests.word
    rw [form]
    exact .pure (Term.conjunctive_column free column)
  · rw [form]
    exact .unsupported fragment

end Sql

theorem Expr.memberForm_of_column (scope : Scope) {target : Option Expr} {name : Member} (ty : Ty)
    (notKey : ¬ (name.name = "Key" ∧ name.owner.isGroup)) (untimed : name.owner ≠ .timeSpan)
    (notClosure : ∀ captures ty, target ≠ some (.closure captures ty))
    (noProperty : propertyTemplate? name.owner.kind name.name = none) :
    Expr.memberForm scope target name ty = .column := by
  have unkeyed : scope.groupKeyOf? name = none := if_neg notKey
  cases target with
  | none =>
      unfold Expr.memberForm
      rw [unkeyed, if_neg untimed, noProperty]
  | some expr =>
      have noClosure : ∀ captures ty, expr ≠ .closure captures ty := by
        rintro captures ty rfl
        exact notClosure captures ty rfl
      rw [Expr.memberForm_of_untimed scope ty untimed noClosure, unkeyed, noProperty]

/-- Outside of brackets, a predicate has no `OR`, whatever its operands are. -/
theorem Expr.compile_factor {resolver : Resolver} {scope : Scope} (nests : scope.Nests resolver)
    (condition : Bool) {expr : Expr} (isPredicate : expr.IsPredicate)
    (names : ∀ mention ∈ expr.mentions, mention.Permitted Unbracketed)
    (columns : ∀ identifier ∈ expr.identifiers resolver, Unbracketed identifier) :
    Ensures (Factor expr) (expr.compile scope condition) := by
  cases isPredicate with
  | binary op left right ty =>
      rw [Expr.mentions, List.forall_mem_append] at names
      rw [Expr.identifiers, List.forall_mem_append] at columns
      rw [Expr.compile]
      refine (Expr.compile_nests nests ty.isBool left names.1 columns.1).bind ?_
      intro leftTerm ofLeft
      refine (Expr.compile_nests nests ty.isBool right names.2 columns.2).bind ?_
      intro rightTerm ofRight
      exact binaryTerm_factor op left right ty ofLeft ofRight
  | unary op operand ty =>
      rw [Expr.mentions] at names
      rw [Expr.identifiers] at columns
      rw [Expr.compile]
      refine (Expr.compile_nests nests ty.isBool operand names columns).bind ?_
      intro operandTerm ofOperand
      exact unaryTerm_factor op operand ty ofOperand
  | conditional test ifTrue ifFalse ty =>
      rw [Expr.mentions, List.forall_mem_append, List.forall_mem_append] at names
      rw [Expr.identifiers, List.forall_mem_append, List.forall_mem_append] at columns
      rw [Expr.compile]
      refine (Expr.compile_nests nests true test names.1.1 columns.1.1).bind ?_
      intro testTerm ofTest
      refine (Expr.compile_nests nests false ifTrue names.1.2 columns.1.2).bind ?_
      intro trueTerm ofTrue
      refine (Expr.compile_nests nests false ifFalse names.2 columns.2).bind ?_
      intro falseTerm ofFalse
      exact .pure (Term.conjunctive_iif ofTest ofTrue ofFalse)
  | @column target name ty notKey untimed notClosure noProperty =>
      rw [Expr.mentions] at names
      have present := Expr.columnName_mem_identifiers resolver ty untimed notClosure noProperty
      rw [Expr.compile_member,
        Expr.memberForm_of_column scope ty notKey untimed notClosure noProperty]
      exact memberColumn_factor nests condition ty names (columns _ present)
  | @call target method args ty isString =>
      rw [Expr.mentions, List.forall_mem_append] at names
      rw [Expr.identifiers, List.forall_mem_append] at columns
      rw [Expr.compile]
      refine (Expr.compileTarget_nests nests target names.1 columns.1).bind ?_
      intro callee ofCallee
      refine (Expr.compileAll_nests nests args names.2 columns.2).bind ?_
      intro terms ofArgs
      exact callTerm_factor target args ty isString (List.forall_mem_cons.mpr ⟨ofCallee, ofArgs⟩)

/-! ### Clauses -/

namespace Sql

/-- The clause of the predicates holds where all of them do. The terms of the predicates `alone` are
those that they are compiled to, in their order, before disjunctions are put in parentheses. -/
structure Scope.Conjoins (scope : Scope) (keyword : String) (predicates : List Lambda)
    (alone terms : List Term) : Prop where
  given : List.Forall₂ (fun predicate term => scope.GivesAs true predicate.body term)
    predicates alone
  enclosed : terms =
    List.zipWith (fun predicate term => encloseDisjunction predicate.body term) predicates alone
  text : conjunctionText keyword (Term.texts terms) =
    keyword ++ String.intercalate " AND " (Term.texts terms)
  /-- However the parts are valued, the parentheses of a disjunction being one part. -/
  truth : ∀ {V : Type} [Lattice V] [BoundedOrder V] (valuation : Valuation V),
    valuation.truth (String.intercalate " AND " (Term.texts terms)) =
      conjoin (terms.map fun term => valuation.truth term.text)
  /-- Parentheses that are read through make no difference to a predicate alone. -/
  truth_alone : ∀ {V : Type} [Lattice V] [BoundedOrder V] (valuation : Valuation V),
    valuation.ReadsThrough →
      valuation.truth (String.intercalate " AND " (Term.texts terms)) =
        conjoin (alone.map fun term => valuation.truth term.text)

theorem truth_encloseDisjunction {V : Type} [Lattice V] [BoundedOrder V] {valuation : Valuation V}
    (reads : valuation.ReadsThrough) (predicate : Expr) {term : Term}
    (nested : WellNested term.text) :
    valuation.truth (encloseDisjunction predicate term).text = valuation.truth term.text := by
  unfold encloseDisjunction
  split
  · split
    · exact reads.truth_parenthesised nested
    · rfl
  · rfl

/-- Predicates are compiled one by one to terms that may be joined by `AND`. -/
structure Scope.Factors (scope : Scope) (predicates : List Lambda) (alone terms : List Term) :
    Prop where
  given : List.Forall₂ (fun predicate term => scope.GivesAs true predicate.body term)
    predicates alone
  enclosed : terms =
    List.zipWith (fun predicate term => encloseDisjunction predicate.body term) predicates alone
  conjunctive : ∀ term ∈ terms, Conjunctive term.text
  same : ∀ {V : Type} [Lattice V] [BoundedOrder V] (valuation : Valuation V),
    valuation.ReadsThrough →
      (terms.map fun term => valuation.truth term.text) =
        alone.map fun term => valuation.truth term.text

theorem Scope.Factors.cons {scope : Scope} {predicate : Lambda} {rest : List Lambda} {term : Term}
    {alone terms : List Term} (factors : scope.Factors rest alone terms)
    (given : scope.GivesAs true predicate.body term) (nested : WellNested term.text)
    (factor : Factor predicate.body term) :
    scope.Factors (predicate :: rest) (term :: alone)
      (encloseDisjunction predicate.body term :: terms) where
  given := .cons given factors.given
  enclosed := by rw [List.zipWith_cons_cons, ← factors.enclosed]
  conjunctive := List.forall_mem_cons.mpr ⟨factor, factors.conjunctive⟩
  same := by
    intro V _ _ valuation reads
    rw [List.map_cons, List.map_cons, factors.same valuation reads,
      truth_encloseDisjunction reads predicate.body nested]

/-- Without parentheses or with them, there is a term for every predicate. -/
theorem Scope.Factors.length_terms {scope : Scope} {predicates : List Lambda}
    {alone terms : List Term} (factors : scope.Factors predicates alone terms) :
    terms.length = predicates.length := by
  rw [factors.enclosed, List.length_zipWith, ← factors.given.length_eq, Nat.min_self]

/-- Predicates, at least one, are joined by `AND`. -/
theorem Scope.Factors.conjoins {scope : Scope} {predicates : List Lambda}
    {alone terms : List Term} (factors : scope.Factors predicates alone terms)
    (nonempty : predicates ≠ []) (keyword : String) :
    scope.Conjoins keyword predicates alone terms := by
  have someText : Term.texts terms ≠ [] := by
    rw [Term.texts_eq_map, ← List.length_pos_iff, List.length_map, factors.length_terms]
    exact List.length_pos_iff.mpr nonempty
  have conjunctive : ∀ text ∈ Term.texts terms, Conjunctive text := by
    rw [Term.texts_eq_map]
    exact List.forall_mem_map.mpr factors.conjunctive
  have truth {V : Type} [Lattice V] [BoundedOrder V] (valuation : Valuation V) :
      valuation.truth (String.intercalate " AND " (Term.texts terms)) =
        conjoin (terms.map fun term => valuation.truth term.text) := by
    rw [truth_intercalate valuation someText conjunctive, Term.texts_eq_map, List.map_map]
    rfl
  refine ⟨factors.given, factors.enclosed, ?_, truth, ?_⟩
  · cases texts : Term.texts terms with
    | nil => exact absurd texts someText
    | cons first rest => rfl
  · intro V _ _ valuation reads
    rw [truth, factors.same valuation reads]

end Sql

theorem Lambda.factors_of_compileAll {resolver : Resolver} {scope : Scope}
    (nests : scope.Nests resolver) {predicates : List Lambda} {terms : List Term}
    {progress progress' : Progress}
    (arePredicates : ∀ predicate ∈ predicates, predicate.body.IsPredicate)
    (names : ∀ mention ∈ Lambda.mentionsAll predicates, mention.Permitted Unbracketed)
    (columns : ∀ identifier ∈ Lambda.identifiersAll resolver predicates, Unbracketed identifier)
    (done : Lambda.compileAll scope predicates progress = .ok (terms, progress')) :
    ∃ alone, scope.Factors predicates alone terms := by
  induction predicates generalizing terms progress with
  | nil =>
      rw [Lambda.compileAll] at done
      cases done
      exact ⟨[], .nil, rfl, nofun, fun _ _ => rfl⟩
  | cons predicate rest ih =>
      obtain ⟨params, body⟩ := predicate
      rw [List.forall_mem_cons] at arePredicates
      rw [Lambda.mentionsAll, Lambda.mentions, List.forall_mem_append,
        List.forall_mem_append] at names
      rw [Lambda.identifiersAll, Lambda.identifiers, List.forall_mem_append] at columns
      rw [Lambda.compileAll] at done
      obtain ⟨term, _, ofBody, done⟩ := bind_eq_ok done
      obtain ⟨terms, _, ofRest, done⟩ := bind_eq_ok done
      cases done
      obtain ⟨alone, factors⟩ := ih arePredicates.2 names.2 columns.2 ofRest
      have nested := Expr.compile_nests nests true body names.1.2 columns.1 _ _ _ ofBody
      have factor :=
        Expr.compile_factor nests true arePredicates.1 names.1.2 columns.1 _ _ _ ofBody
      exact ⟨term :: alone, factors.cons ⟨_, _, ofBody⟩ nested factor⟩

/-- Where no name and no identifier has a bracket, predicates, at least one, are compiled to their
conjunction. Behind the keyword stand the terms of the predicates in their order, with `AND` between
them. Read as a search condition, this text is as true as all of them: each as it stands, whatever
its parentheses are worth, or the predicate alone, if parentheses are as true as what stands in
them. -/
theorem Lambda.predicates_conjoined {resolver : Resolver} {scope : Scope}
    (nests : scope.Nests resolver) (keyword : String) {predicates : List Lambda}
    (nonempty : predicates ≠ []) {terms : List Term} {progress progress' : Progress}
    (arePredicates : ∀ predicate ∈ predicates, predicate.body.IsPredicate)
    (names : ∀ mention ∈ Lambda.mentionsAll predicates, mention.Permitted Unbracketed)
    (columns : ∀ identifier ∈ Lambda.identifiersAll resolver predicates, Unbracketed identifier)
    (done : Lambda.compileAll scope predicates progress = .ok (terms, progress')) :
    ∃ alone, scope.Conjoins keyword predicates alone terms := by
  obtain ⟨alone, factors⟩ :=
    Lambda.factors_of_compileAll nests arePredicates names columns done
  exact ⟨alone, factors.conjoins nonempty keyword⟩

namespace Query

def userLogin : Expr := (Expr.parameter userRow).field "Login"

/-- The login is one of two. -/
def eitherLogin : Lambda :=
  ⟨[userRow], (userLogin.equals (.literal (.string "root"))).either
    (userLogin.equals (.literal (.string "admin")))⟩

/-- The login begins with a letter. -/
def initialLogin : Lambda := ⟨[userRow], userLogin.startsWith (.literal (.string "a"))⟩

/-- The scope of the first source of a command, before any join. -/
def firstScope : Scope := ⟨.identity, "", .start "", none⟩

theorem firstScope_nests : firstScope.Nests .identity :=
  ⟨rfl, by decide, Aliases.start_named, nofun⟩

/-- A disjunction and a call, joined by `AND`. -/
theorem initialLogin_conjoined :
    ∃ alone terms progress,
      Lambda.compileAll firstScope [eitherLogin, initialLogin] ⟨0, .empty⟩ =
        .ok (terms, progress) ∧
      (∀ predicate ∈ [eitherLogin, initialLogin], predicate.body.IsPredicate) ∧
      firstScope.Conjoins " WHERE " [eitherLogin, initialLogin] alone terms ∧
      conjunctionText " WHERE " (Term.texts terms) =
        " WHERE ((([user].[Login]) = (@p0)) OR (([user].[Login]) = (@p1)))" ++
          " AND ([user].[Login]) LIKE ((@p2) + '%')" := by
  obtain ⟨terms, progress, done, isText⟩ : ∃ terms progress,
      Lambda.compileAll firstScope [eitherLogin, initialLogin] ⟨0, .empty⟩ =
        .ok (terms, progress) ∧
      conjunctionText " WHERE " (Term.texts terms) =
        " WHERE ((([user].[Login]) = (@p0)) OR (([user].[Login]) = (@p1)))" ++
          " AND ([user].[Login]) LIKE ((@p2) + '%')" :=
    ⟨_, _, rfl, by decide +kernel⟩
  have arePredicates : ∀ predicate ∈ [eitherLogin, initialLogin],
      predicate.body.IsPredicate := by
    rw [List.forall_mem_cons, List.forall_mem_singleton]
    exact ⟨.binary _ _ _ _, .call _ _ _ rfl⟩
  obtain ⟨alone, conjoins⟩ :=
    Lambda.predicates_conjoined firstScope_nests " WHERE " (by simp) arePredicates (by decide)
      (by decide) done
  exact ⟨alone, terms, progress, done, arePredicates, conjoins, isText⟩

end Query

/-! ### Commands of nodes -/

/-- The scopes of the clauses of a node have no brackets either. -/
theorem Select.Steps.nests {resolver : Resolver} {path : String} {node : Select}
    {first joined : Aliases} {key : Option Term} {body : Body}
    (steps : node.Steps resolver path first joined key body) (word : IsWord path)
    (names : ∀ mention ∈ node.mentions, mention.Permitted Unbracketed)
    (columns : ∀ identifier ∈ node.identifiers resolver, Unbracketed identifier) :
    Scope.Nests resolver ⟨resolver, path, joined, none⟩ ∧
      Scope.Nests resolver ⟨resolver, path, joined, key⟩ := by
  obtain ⟨registered, -⟩ := Aliases.bindSource_named names steps.binds
  obtain ⟨_, _, ofJoins⟩ := steps.joins
  obtain ⟨_, _, ofGroupKey⟩ := steps.groupKey
  obtain ⟨source, modelType, filters, having, projection, groupKey, groupElement, joins, orderBy,
    skip, take, distinct, stage⟩ := node
  rw [Select.mentions] at names
  rw [Select.identifiers] at columns
  simp only [List.forall_mem_append] at names columns
  obtain ⟨⟨⟨⟨-, nKey⟩, -⟩, nJoins⟩, -⟩ := names
  obtain ⟨⟨⟨-, cKey⟩, cJoins⟩, -⟩ := columns
  have start : (⟨resolver, path, first, none⟩ : Scope).Nests resolver :=
    ⟨rfl, word, registered, by simp⟩
  have onRows := (Join.compileAll_nests start joins nJoins cJoins _ _ _ ofJoins).2
  have onGroups := (Lambda.compileGroupKey_nests onRows groupKey nKey cKey _ _ _ ofGroupKey).2
  exact ⟨onRows, onGroups⟩

/-- In the command of a node, `WHERE` and `HAVING` hold where all of their predicates do. -/
theorem Select.GivesBody.clauses_conjoined {resolver : Resolver} {path : String} {node : Select}
    {body : Body} (gives : node.GivesBody resolver path body) (word : IsWord path)
    (names : ∀ mention ∈ node.mentions, mention.Permitted Unbracketed)
    (columns : ∀ identifier ∈ node.identifiers resolver, Unbracketed identifier) :
    ∃ aliases key, node.aliasesAt path node.joins.length = .ok aliases ∧
      (∀ term ∈ key, ∃ terms ∈ body.groupBy, term ∈ terms) ∧
      (node.filters ≠ [] → (∀ predicate ∈ node.filters, predicate.body.IsPredicate) →
        ∃ alone, Scope.Conjoins ⟨resolver, path, aliases, none⟩ " WHERE " node.filters alone
          body.filters) ∧
      (node.having ≠ [] → (∀ predicate ∈ node.having, predicate.body.IsPredicate) →
        ∃ alone, Scope.Conjoins ⟨resolver, path, aliases, key⟩ " HAVING " node.having alone
          body.having) := by
  obtain ⟨nested, parameters, nested', done⟩ := gives
  obtain ⟨first, joined, key, steps⟩ := Select.steps_of_compile done
  have compiled := steps.compiledTo
  obtain ⟨onRows, onGroups⟩ := steps.nests word names columns
  obtain ⟨_, _, ofFilters⟩ := steps.filters
  obtain ⟨_, _, ofHaving⟩ := steps.having
  obtain ⟨source, modelType, filters, having, projection, groupKey, groupElement, joins, orderBy,
    skip, take, distinct, stage⟩ := node
  rw [Select.mentions] at names
  rw [Select.identifiers] at columns
  simp only [List.forall_mem_append] at names columns
  obtain ⟨⟨⟨⟨⟨⟨⟨-, nFilters⟩, nHaving⟩, -⟩, -⟩, -⟩, -⟩, -⟩ := names
  obtain ⟨⟨⟨⟨⟨⟨-, cFilters⟩, cHaving⟩, -⟩, -⟩, -⟩, -⟩ := columns
  refine ⟨joined, key, compiled.aliasesAt_length, compiled.key_mem, ?_, ?_⟩
  · intro nonempty arePredicates
    obtain ⟨alone, factors⟩ :=
      Lambda.factors_of_compileAll onRows arePredicates nFilters cFilters ofFilters
    exact ⟨alone, factors.conjoins nonempty " WHERE "⟩
  · intro nonempty arePredicates
    obtain ⟨alone, factors⟩ :=
      Lambda.factors_of_compileAll onGroups arePredicates nHaving cHaving ofHaving
    exact ⟨alone, factors.conjoins nonempty " HAVING "⟩

end TypedQuery
