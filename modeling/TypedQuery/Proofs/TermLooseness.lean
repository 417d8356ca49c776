/-
Module: TypedQuery.Proofs.TermLooseness
Purpose: How loosely the text of a compiled expression is held together, by the outermost form of
  its term. Operators count by their own precedence, whatever their operands are, and templates by
  what they show outside of brackets; everything else that stands for one value is one operand.
Main exports: Sql.Term.looseness, Expr.BracketFree, Expr.IsOpen, Sql.Scope.KeyHeld,
  Sql.Scope.Reading, Sql.Scope.GivesAs.reading
-/
import TypedQuery.Proofs.CommandNesting
import TypedQuery.Proofs.OperandReading
import TypedQuery.Proofs.PartOrigins
import TypedQuery.Proofs.TermOutlines

namespace TypedQuery

open Sql Sql.Compile

/-! ### Terms -/

namespace Sql

/-- How loosely the operator holds its operands together. -/
def Operator.looseness : Operator → Nat
  | .multiply | .divide => 1
  | .add | .subtract => 2
  | .is | .eq | .notEq | .lt | .ltEq | .gt | .gtEq => 3
  | .isNot => 4
  | .and => 5
  | .or => 6

/-- How loosely the modifier holds its operand. -/
def Modifier.looseness : Modifier → Nat
  | .negate | .plain => 0
  | .not => 4

/-- Keywords have no digits. -/
theorem Lexeme.looseness_word_of_digit {text : String} {digit : Char}
    (present : digit ∈ text.toList) (isDigit : digit.isDigit = true) :
    (Lexeme.word text).looseness = 0 := by
  have noDigit : ∀ keyword ∈ ["LIKE", "IN", "IS", "NOT", "AND", "OR"],
      keyword.toList.any Char.isDigit = false := by decide
  have noKeyword : ∀ keyword ∈ ["LIKE", "IN", "IS", "NOT", "AND", "OR"], text ≠ keyword := by
    rintro keyword isKeyword rfl
    have hasDigit := List.any_eq_true.mpr ⟨digit, present, isDigit⟩
    rw [noDigit _ isKeyword] at hasDigit
    cases hasDigit
  simp only [List.forall_mem_cons] at noKeyword
  unfold Lexeme.looseness
  split <;> simp_all

theorem exists_digit (number : Nat) : ∃ digit ∈ (toString number).toList, digit.isDigit = true := by
  cases shown : (toString number).toList with
  | nil => simp at shown
  | cons digit rest =>
      exact ⟨digit, .head _, isDigit_of_mem_toString (by rw [shown]; exact .head _)⟩

namespace Term

/-- How loosely the outermost form of the term holds its text together. Rows, commands and templates
with slots outside of brackets have no form of their own: there the text counts. -/
def looseness : Term → Nat
  | .binary op _ _ => op.looseness
  | .unary op _ => op.looseness
  | .flag _ _ => 3
  | .apply template slots =>
    if Template.slotsInside [] template.pieces then loosest template.shown
    else Sql.looseness (Term.apply template slots).text
  | .columns fields => Sql.looseness (Term.columns fields).text
  | .subquery statement => Sql.looseness (Term.subquery statement).text
  | _ => 0

/-- The term is one value: its text is not empty, and no comma divides it. -/
structure IsValue (term : Term) : Prop where
  written : lexemes term.text ≠ []
  held : Sql.looseness term.text = term.looseness
  undivided : term.looseness ≤ 6

variable {term left right test ifTrue ifFalse : Term}

/-- What is seen outside of brackets tells whether the term is one value. -/
theorem IsValue.of_outlines {shown : List Lexeme} (isOutlines : outlines term.text = shown)
    (written : shown ≠ []) (held : loosest shown = term.looseness)
    (undivided : loosest shown ≤ 6) : term.IsValue where
  written := by
    intro nothing
    rw [outlines, nothing] at isOutlines
    exact written isOutlines.symm
  held := by rw [looseness_eq_outlines, isOutlines, held]
  undivided := by rwa [← held]

theorem isValue_binary (op : Operator) (ofLeft : WellNested left.text)
    (ofRight : WellNested right.text) : (Term.binary op left right).IsValue := by
  refine .of_outlines (outlines_binary op ofLeft ofRight) (by simp) ?_ ?_
  · change _ = op.looseness
    cases op <;> decide
  · cases op <;> decide

theorem isValue_unary (op : Modifier) (nested : WellNested term.text) :
    (Term.unary op term).IsValue := by
  refine .of_outlines (outlines_unary op nested) (by simp) ?_ ?_
  · change _ = op.looseness
    cases op <;> decide
  · cases op <;> decide

theorem isValue_convert (target : SqlType) (nested : WellNested term.text) :
    (Term.convert target term).IsValue :=
  .of_outlines (outlines_convert target nested) (by simp) rfl (by decide)

theorem isValue_iif (ofTest : WellNested test.text) (ofTrue : WellNested ifTrue.text)
    (ofFalse : WellNested ifFalse.text) : (Term.iif test ifTrue ifFalse).IsValue :=
  .of_outlines (outlines_iif ofTest ofTrue ofFalse) (by simp) rfl (by decide)

theorem isValue_dateTime {parts : List Term} (nested : ∀ part ∈ parts, WellNested part.text) :
    (Term.dateTime parts).IsValue :=
  .of_outlines (outlines_dateTime nested) (by simp) rfl (by decide)

theorem isValue_row {table : String} (free : Unbracketed table) : (Term.row table).IsValue :=
  .of_outlines (outlines_row free) (by simp) rfl (by decide)

theorem isValue_column {table name : String} (free : Unbracketed table)
    (free' : Unbracketed name) : (Term.column table name).IsValue :=
  .of_outlines (outlines_column free free') (by simp) rfl (by decide)

theorem isValue_flag {table name : String} (free : Unbracketed table) (free' : Unbracketed name) :
    (Term.flag table name).IsValue :=
  .of_outlines (outlines_flag free free') (by simp) rfl (by decide)

theorem isValue_placeholder {path : String} (word : IsWord path) (index : Nat) :
    (Term.placeholder ("@" ++ path ++ "p" ++ toString index)).IsValue := by
  have name := (word.append (by decide : IsWord "p")).append (isWord_numeral index)
  have written : path ++ "p" ++ toString index ≠ "" := by simp
  have form : "@" ++ path ++ "p" ++ toString index = "@" ++ (path ++ "p" ++ toString index) := by
    simp only [String.append_assoc]
  have noKeyword : (Lexeme.word (path ++ "p" ++ toString index)).looseness = 0 := by
    obtain ⟨digit, present, isDigit⟩ := exists_digit index
    refine Lexeme.looseness_word_of_digit ?_ isDigit
    rw [String.toList_append]
    exact List.mem_append_right _ present
  have held : loosest [.sign '@', .word (path ++ "p" ++ toString index)] = 0 := by
    change max 0 (max (Lexeme.looseness _) 0) = 0
    rw [noKeyword]
    rfl
  rw [form]
  exact .of_outlines (outlines_placeholder name written) (by simp) held (by rw [held]; decide)

theorem isValue_null : Term.null.IsValue :=
  .of_outlines (by decide : outlines Term.null.text = [.word "NULL"]) (by simp) rfl (by decide)

end Term

namespace Template

/-- The slots of the template are in brackets, and what is seen of it besides is one value. -/
structure ShowsValue (template : Template) : Prop where
  inside : slotsInside [] template.pieces = true
  written : template.shown ≠ []
  undivided : loosest template.shown ≤ 6

instance (template : Template) : Decidable template.ShowsValue :=
  decidable_of_iff
    (slotsInside [] template.pieces = true ∧ template.shown ≠ [] ∧ loosest template.shown ≤ 6)
    ⟨fun ⟨inside, written, undivided⟩ => ⟨inside, written, undivided⟩,
      fun ⟨inside, written, undivided⟩ => ⟨inside, written, undivided⟩⟩

/-- All templates for methods do so, but that for membership in a query. -/
theorem showsValue_of_template? {method : Method} {template : Template}
    (found : method.template? = some template) (noQuery : method.owner ≠ .query) :
    template.ShowsValue := by
  have all : ∀ entry ∈ methods, entry.1.owner ≠ .query →
      (Template.parse entry.2).ShowsValue := by
    decide +kernel
  obtain ⟨entry, present, isAnswer, rfl⟩ := Method.template?_eq_some found
  exact all entry present ((answers_names isAnswer).1 ▸ noQuery)

/-- All templates for properties do so. -/
theorem showsValue_of_propertyTemplate? {owner : Kind} {name : String} {template : Template}
    (found : propertyTemplate? owner name = some template) : template.ShowsValue := by
  have all : ∀ entry ∈ properties, (Template.parse entry.2.2).ShowsValue := by decide +kernel
  obtain ⟨entry, present, -, -, rfl⟩ := propertyTemplate?_eq_some found
  exact all entry present

end Template

namespace Term

/-- In any case the form says how loosely a template is held together. -/
theorem looseness_apply (template : Template) {slots : List Term}
    (nested : ∀ slot ∈ slots, WellNested slot.text) :
    Sql.looseness (Term.apply template slots).text = (Term.apply template slots).looseness := by
  rw [looseness]
  split
  · rename_i inside
    rw [looseness_eq_outlines, outlines_apply inside nested]
  · rfl

/-- A template that shows a value is one, whatever fills it. -/
theorem isValue_apply {template : Template} (shows : template.ShowsValue) {slots : List Term}
    (nested : ∀ slot ∈ slots, WellNested slot.text) : (Term.apply template slots).IsValue := by
  refine .of_outlines (outlines_apply shows.inside nested) shows.written ?_ shows.undivided
  rw [looseness, if_pos shows.inside]

end Term

end Sql

/-! ### Names without brackets -/

/-- Nothing that the expression mentions or refers to has brackets in its name. -/
structure Expr.BracketFree (resolver : Resolver) (expr : Expr) : Prop where
  names : ∀ mention ∈ expr.mentions, mention.Permitted Unbracketed
  identifiers : ∀ identifier ∈ expr.identifiers resolver, Unbracketed identifier

namespace Expr.BracketFree

variable {resolver : Resolver} {ty : Ty}

theorem all {exprs : List Expr}
    (names : ∀ mention ∈ Expr.mentionsAll exprs, mention.Permitted Unbracketed)
    (identifiers : ∀ identifier ∈ Expr.identifiersAll resolver exprs, Unbracketed identifier) :
    ∀ expr ∈ exprs, expr.BracketFree resolver := by
  induction exprs with
  | nil => simp
  | cons first rest ih =>
      rw [Expr.mentionsAll, List.forall_mem_append] at names
      rw [Expr.identifiersAll, List.forall_mem_append] at identifiers
      exact List.forall_mem_cons.mpr ⟨⟨names.1, identifiers.1⟩, ih names.2 identifiers.2⟩

theorem target {target : Option Expr}
    (names : ∀ mention ∈ Expr.mentionsTarget target, mention.Permitted Unbracketed)
    (identifiers : ∀ identifier ∈ Expr.identifiersTarget resolver target, Unbracketed identifier) :
    ∀ expr ∈ target, expr.BracketFree resolver := by
  rintro expr ⟨⟩
  exact ⟨names, identifiers⟩

theorem binary {op : BinaryOp} {left right : Expr}
    (free : (Expr.binary op left right ty).BracketFree resolver) :
    left.BracketFree resolver ∧ right.BracketFree resolver := by
  obtain ⟨names, identifiers⟩ := free
  rw [Expr.mentions, List.forall_mem_append] at names
  rw [Expr.identifiers, List.forall_mem_append] at identifiers
  exact ⟨⟨names.1, identifiers.1⟩, ⟨names.2, identifiers.2⟩⟩

theorem unary {op : UnaryOp} {operand : Expr}
    (free : (Expr.unary op operand ty).BracketFree resolver) : operand.BracketFree resolver := by
  obtain ⟨names, identifiers⟩ := free
  rw [Expr.mentions] at names
  rw [Expr.identifiers] at identifiers
  exact ⟨names, identifiers⟩

theorem conditional {test ifTrue ifFalse : Expr}
    (free : (Expr.conditional test ifTrue ifFalse ty).BracketFree resolver) :
    test.BracketFree resolver ∧ ifTrue.BracketFree resolver ∧ ifFalse.BracketFree resolver := by
  obtain ⟨names, identifiers⟩ := free
  rw [Expr.mentions, List.forall_mem_append, List.forall_mem_append] at names
  rw [Expr.identifiers, List.forall_mem_append, List.forall_mem_append] at identifiers
  exact ⟨⟨names.1.1, identifiers.1.1⟩, ⟨names.1.2, identifiers.1.2⟩, ⟨names.2, identifiers.2⟩⟩

theorem member {target : Option Expr} {name : Member}
    (free : (Expr.member target name ty).BracketFree resolver) :
    ∀ expr ∈ target, expr.BracketFree resolver := by
  obtain ⟨names, identifiers⟩ := free
  rw [Expr.mentions] at names
  refine .target names fun identifier present => ?_
  exact identifiers identifier (Expr.identifiersTarget_subset resolver target name ty present)

theorem call {target : Option Expr} {method : Method} {args : List Expr}
    (free : (Expr.call target method args ty).BracketFree resolver) :
    (∀ expr ∈ target, expr.BracketFree resolver) ∧ ∀ expr ∈ args, expr.BracketFree resolver := by
  obtain ⟨names, identifiers⟩ := free
  rw [Expr.mentions, List.forall_mem_append] at names
  rw [Expr.identifiers, List.forall_mem_append] at identifiers
  exact ⟨.target names.1 identifiers.1, .all names.2 identifiers.2⟩

theorem construct {ctor : Constructor} {args : List Expr}
    (free : (Expr.construct ctor args ty).BracketFree resolver) :
    ∀ expr ∈ args, expr.BracketFree resolver := by
  obtain ⟨names, identifiers⟩ := free
  rw [Expr.mentions, List.forall_mem_append] at names
  rw [Expr.identifiers] at identifiers
  exact .all names.2 identifiers

theorem core : ∀ expr : Expr, expr.BracketFree resolver → expr.core.BracketFree resolver
  | .lambda ⟨params, body⟩, free => by
      obtain ⟨names, identifiers⟩ := free
      rw [Expr.mentions, Lambda.mentions, List.forall_mem_append] at names
      rw [Expr.identifiers, Lambda.identifiers] at identifiers
      exact core body ⟨names.2, identifiers⟩
  | .binary _ _ _ _, free | .unary _ _ _, free | .conditional _ _ _ _, free | .member _ _ _, free
  | .call _ _ _ _, free | .construct _ _ _, free | .constant _ _, free | .closure _ _, free
  | .parameter _, free => free
termination_by structural expr => expr

theorem groupFields (key : Expr) (free : key.BracketFree resolver) :
    ∀ field ∈ key.groupFields, field.BracketFree resolver := by
  unfold Expr.groupFields
  split
  · exact free.construct
  · exact List.forall_mem_singleton.mpr free

end Expr.BracketFree

namespace Sql.Scope

variable {resolver : Resolver} {scope : Scope} {condition : Bool} {term : Term}

theorem GivesAs.nested {expr : Expr} (nests : scope.Nests resolver)
    (free : expr.BracketFree resolver) (gives : scope.GivesAs condition expr term) :
    WellNested term.text := by
  obtain ⟨progress, progress', done⟩ := gives
  exact Expr.compile_nests nests condition expr free.names free.identifiers _ _ _ done

theorem TargetGives.nested {target : Option Expr} (nests : scope.Nests resolver)
    (free : ∀ expr ∈ target, expr.BracketFree resolver) (ofTarget : scope.TargetGives target term) :
    WellNested term.text := by
  cases ofTarget with
  | missing => decide
  | given gives => exact gives.nested nests (free _ rfl)

theorem nested_all {args : List Expr} {terms : List Term} (nests : scope.Nests resolver)
    (free : ∀ expr ∈ args, expr.BracketFree resolver)
    (ofArgs : List.Forall₂ (scope.GivesAs false) args terms) :
    ∀ term ∈ terms, WellNested term.text := by
  induction ofArgs with
  | nil => simp
  | cons ofFirst ofRest ih =>
      rw [List.forall_mem_cons] at free ⊢
      exact ⟨ofFirst.nested nests free.1, ih free.2⟩

end Sql.Scope

/-! ### Expressions -/

/-- The expression stands for no single value: it is a row or a generator, a captured query or a
test for membership in one, or it reads a key of the groups that is none. -/
def Expr.IsOpen (scope : Scope) (expr : Expr) : Prop :=
  match expr.core with
  | .construct ctor _ _ => ctor ≠ .dateTime
  | .call _ method _ _ => method.owner = .query
  | .member target name _ =>
    (∃ key, scope.groupKeyOf? name = some key ∧ ¬ key.IsValue) ∨
      (∃ captures ty query, target = some (.closure captures ty) ∧
        .query name.name query ∈ captures) ∨
      ∃ callee method args ty, target = some (.call callee method args ty) ∧
        name.owner = .timeSpan ∧ method.owner = .query
  | _ => False

/-- A captured variable is bound to a placeholder, or is a query that was captured under its
name. -/
theorem Capture.compile_placeholder_or_query {scope : Scope} {name : String}
    {captures : List Capture} {progress progress' : Progress} {term : Term}
    (done : Capture.compile scope name captures progress = .ok (term, progress')) :
    (∃ index, term = .placeholder ("@" ++ scope.path ++ "p" ++ toString (index : Nat))) ∨
      ∃ query, .query name query ∈ captures ∧ ∃ statement, term = .subquery statement := by
  induction captures with
  | nil =>
      rw [Capture.compile] at done
      cases done
  | cons capture rest ih =>
      cases capture with
      | value held value =>
          rw [Capture.compile] at done
          split at done
          · cases done
            exact .inl ⟨_, rfl⟩
          · rcases ih done with isValue | ⟨inner, present, isQuery⟩
            · exact .inl isValue
            · exact .inr ⟨inner, .tail _ present, isQuery⟩
      | query held query =>
          rw [Capture.compile] at done
          split at done
          · rename_i isHeld
            obtain ⟨path, _, -, done⟩ := bind_eq_ok done
            obtain ⟨statement, _, -, done⟩ := bind_eq_ok done
            cases done
            subst isHeld
            exact .inr ⟨query, .head _, statement, rfl⟩
          · rcases ih done with isValue | ⟨inner, present, isQuery⟩
            · exact .inl isValue
            · exact .inr ⟨inner, .tail _ present, isQuery⟩

namespace Sql.Scope

variable {resolver : Resolver} {scope : Scope} {condition : Bool} {expr : Expr} {term : Term}

/-- The key of the groups is held together as its form says. -/
def KeyHeld (scope : Scope) : Prop :=
  ∀ key ∈ scope.groupKey, Sql.looseness key.text = key.looseness

/-- The term of an expression is one value, unless the expression is open; its text is held together
as its form says in any case. -/
inductive Reading (scope : Scope) (expr : Expr) (term : Term) : Prop
  | value (isValue : term.IsValue)
  | isOpen (isOpen : expr.IsOpen scope) (held : Sql.looseness term.text = term.looseness)

theorem Reading.held (reading : scope.Reading expr term) :
    Sql.looseness term.text = term.looseness := by
  cases reading with
  | value isValue => exact isValue.held
  | isOpen _ held => exact held

/-- A template that is filled is one value, but for that of membership. -/
theorem reading_apply {method : Method} {template : Template} {slots : List Term}
    (found : method.template? = some template) (nested : ∀ slot ∈ slots, WellNested slot.text)
    (isOpen : method.owner = .query → expr.IsOpen scope) :
    scope.Reading expr (.apply template slots) := by
  by_cases isQuery : method.owner = .query
  · exact .isOpen (isOpen isQuery) (Term.looseness_apply template nested)
  · exact .value (Term.isValue_apply (Template.showsValue_of_template? found isQuery) nested)

/-- The step: what a node makes is held together as its form says. -/
theorem Makes.reading (nests : scope.Nests resolver) (keyHeld : scope.KeyHeld)
    (free : expr.core.BracketFree resolver) (makes : scope.Makes condition expr.core term)
    (isCore : expr.core.IsCore) : scope.Reading expr term := by
  generalize isExpr : expr.core = core at makes free
  cases makes with
  | binary found ofLeft ofRight =>
      exact .value (Term.isValue_binary _ (ofLeft.nested nests free.binary.1)
        (ofRight.nested nests free.binary.2))
  | convert found ofOperand =>
      exact .value (Term.isValue_convert _ (ofOperand.nested nests free.unary))
  | unary found ofOperand =>
      exact .value (Term.isValue_unary _ (ofOperand.nested nests free.unary))
  | conditional ofTest ofTrue ofFalse =>
      obtain ⟨freeTest, freeTrue, freeFalse⟩ := free.conditional
      exact .value (Term.isValue_iif (ofTest.nested nests freeTest) (ofTrue.nested nests freeTrue)
        (ofFalse.nested nests freeFalse))
  | key isKey =>
      by_cases isValue : term.IsValue
      · exact .value isValue
      · refine .isOpen ?_ (keyHeld _ (scope.groupKeyOf?_mem isKey))
        rw [Expr.IsOpen, isExpr]
        exact .inl ⟨_, isKey, isValue⟩
  | @duration callee method args callTy name ty unit template calleeTerm terms timed isUnit found
      ofCallee ofArgs =>
      obtain ⟨freeCallee, freeArgs⟩ := (free.member _ rfl).call
      have nested : ∀ slot ∈ Term.word unit :: calleeTerm :: terms, WellNested slot.text := by
        rw [List.forall_mem_cons, List.forall_mem_cons]
        exact ⟨wellNested_of_durationUnit? isUnit, ofCallee.nested nests freeCallee,
          nested_all nests freeArgs ofArgs⟩
      unfold durationTerm
      split
      · exact .value (Term.isValue_convert _
          (Term.wellNested_apply (Template.wellNested_of_template? found) nested))
      · refine reading_apply found nested fun isQuery => ?_
        rw [Expr.IsOpen, isExpr]
        exact .inr (.inr ⟨_, _, _, _, rfl, timed, isQuery⟩)
  | @captured captures closureTy name ty term progress progress' untimed done =>
      rcases Capture.compile_placeholder_or_query done with
        ⟨index, rfl⟩ | ⟨query, present, statement, rfl⟩
      · exact .value (Term.isValue_placeholder nests.word index)
      · refine .isOpen ?_ rfl
        rw [Expr.IsOpen, isExpr]
        exact .inr (.inl ⟨_, _, query, rfl, present⟩)
  | property untimed notClosure found ofTarget =>
      refine .value (Term.isValue_apply (Template.showsValue_of_propertyTemplate? found) ?_)
      rw [List.forall_mem_singleton]
      exact ofTarget.nested nests free.member
  | @column param name ty untimed noProperty =>
      have freeColumn := free.identifiers _
        (Expr.columnName_mem_identifiers resolver ty untimed (by simp) noProperty)
      rw [← nests.resolver_eq] at freeColumn
      have isName : Unbracketed param.name :=
        (free.member _ rfl).names (.param param.name) (.head _)
      have table := ofParam_unbracketed nests isName
      unfold paramColumn
      dsimp only
      split
      · exact .value (Term.isValue_flag table freeColumn)
      · exact .value (Term.isValue_column table freeColumn)
  | @keptColumn _ _ _ _ ty _ untimed noProperty isTable =>
      have freeColumn := free.identifiers _
        (Expr.columnName_mem_identifiers resolver ty untimed (by simp) noProperty)
      rw [← nests.resolver_eq] at freeColumn
      have table := (Aliases.ofMember?_named nests.named isTable).unbracketed nests.word
      exact .value (Term.isValue_column table freeColumn)
  | call found ofTarget ofArgs =>
      obtain ⟨freeTarget, freeArgs⟩ := free.call
      refine reading_apply found ?_ fun isQuery => ?_
      · rw [List.forall_mem_cons]
        exact ⟨ofTarget.nested nests freeTarget, nested_all nests freeArgs ofArgs⟩
      · rw [Expr.IsOpen, isExpr]
        exact isQuery
  | record ofArgs =>
      refine .isOpen ?_ rfl
      rw [Expr.IsOpen, isExpr]
      intro isDateTime
      cases isDateTime
  | dateTime ofArgs =>
      have nested := nested_all nests free.construct ofArgs
      exact .value (Term.isValue_dateTime (wellNested_padParts nested))
  | random args ty =>
      refine .isOpen ?_ rfl
      rw [Expr.IsOpen, isExpr]
      intro isDateTime
      cases isDateTime
  | null ty => exact .value Term.isValue_null
  | literal notNull ty index => exact .value (Term.isValue_placeholder nests.word index)
  | row param =>
      have table := ofParam_unbracketed nests (free.names (.param param.name) (.head _))
      exact .value (Term.isValue_row table)
  | lambda ofBody => exact absurd isExpr (isCore _)

theorem GivesAs.reading (nests : scope.Nests resolver) (keyHeld : scope.KeyHeld)
    (free : expr.BracketFree resolver) (gives : scope.GivesAs condition expr term) :
    scope.Reading expr term := by
  obtain ⟨isCore, -, wanted, makes, -⟩ := GivesAs.core expr gives
  exact makes.reading nests keyHeld (free.core expr) isCore

end Sql.Scope

end TypedQuery
