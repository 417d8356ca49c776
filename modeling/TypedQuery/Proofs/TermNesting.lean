/-
Module: TypedQuery.Proofs.TermNesting
Purpose: Brackets in the texts of terms and commands. Each form of a term or a command is well
  nested if its parts are, and identifiers without brackets are bracketed by it; for the
  templates of the catalogue this is checked once.
Main exports: Template.wellNested_fill, Term.wellNested_binary, Term.wellNested_apply,
  Statement.wellNested_combine, JoinClause.Nests, Body.Nests, Body.Nests.wellNested
-/
import TypedQuery.Proofs.TermTokens
import TypedQuery.Proofs.TextNesting

namespace TypedQuery.Sql

/-! ### Templates -/

namespace Template

/-- Well-nested arguments change nothing at the brackets of a template. -/
theorem nesting_pieces {args : List String} (nested : ∀ arg ∈ args, WellNested arg)
    (opened : List Bracket) (pieces : List Piece) :
    nesting opened (pieces.flatMap (fillPiece args)) =
      nesting opened (pieces.flatMap (fillPiece [])) := by
  induction pieces generalizing opened with
  | nil => rfl
  | cons piece rest ih =>
      rw [List.flatMap_cons, List.flatMap_cons, nesting_append, nesting_append]
      cases piece with
      | char character =>
          rw [fillPiece, fillPiece]
          congr 1
          funext opened
          exact ih opened
      | slot index =>
          rw [fillPiece, fillPiece]
          cases found : args[index]? with
          | none => exact ih opened
          | some arg =>
              have ofArg := (nested arg (List.mem_of_getElem? found)).nest_eq opened
              dsimp only
              rw [show nesting opened arg.toList = some opened from ofArg]
              exact ih opened

/-- A template that is well nested without arguments stays so with well-nested ones. -/
theorem wellNested_fill {template : Template} (empty : WellNested (template.fill []))
    {args : List String} (nested : ∀ arg ∈ args, WellNested arg) :
    WellNested (template.fill args) := by
  unfold WellNested nest fill at empty ⊢
  rw [String.toList_ofList] at empty ⊢
  rw [nesting_pieces nested]
  exact empty

/-- Without arguments, what is left of a template are its characters. -/
theorem wellNested_fill_nil {template : Template}
    (closed : nesting [] (template.pieces.flatMap (fillPiece [])) = some []) :
    WellNested (template.fill []) := by
  rw [WellNested, nest, fill, String.toList_ofList]
  exact closed

/-- All templates for methods are well nested. -/
theorem wellNested_of_template? {method : Method} {template : Template}
    (found : method.template? = some template) : WellNested (template.fill []) := by
  have all : ∀ entry ∈ methods,
      nesting [] ((Template.parse entry.2).pieces.flatMap (fillPiece [])) = some [] := by
    decide +kernel
  obtain ⟨entry, present, -, rfl⟩ := Method.template?_eq_some found
  exact wellNested_fill_nil (all entry present)

/-- All templates for properties are well nested. -/
theorem wellNested_of_propertyTemplate? {owner : Kind} {name : String} {template : Template}
    (found : propertyTemplate? owner name = some template) : WellNested (template.fill []) := by
  have all : ∀ entry ∈ properties,
      nesting [] ((Template.parse entry.2.2).pieces.flatMap (fillPiece [])) = some [] := by
    decide +kernel
  obtain ⟨entry, present, -, -, rfl⟩ := propertyTemplate?_eq_some found
  exact wellNested_fill_nil (all entry present)

end Template

theorem wellNested_of_durationUnit? {name unit : String} (found : durationUnit? name = some unit) :
    WellNested unit := by
  have all : ∀ entry ∈ durations, WellNested entry.2 := by decide +kernel
  obtain ⟨entry, present, -, rfl⟩ := durationUnit?_eq_some found
  exact all entry present

/-! ### Words of SQL -/

theorem Operator.wellNested (op : Operator) : WellNested op.text := by cases op <;> decide

theorem Modifier.wellNested (op : Modifier) : WellNested op.text := by cases op <;> decide

theorem SqlType.wellNested (target : SqlType) : WellNested target.text := by
  cases target <;> decide

theorem wellNested_joinKeyword (kind : JoinKind) : WellNested kind.keyword := by
  cases kind <;> decide

theorem wellNested_setKeyword (op : SetOp) : WellNested op.keyword := by cases op <;> decide

theorem wellNested_numeral (number : Nat) : WellNested (toString number) :=
  (isWord_numeral number).unbracketed.wellNested

theorem Unbracketed.bracketed {name : String} (free : Unbracketed name) :
    WellNested (bracketed name) :=
  free.wellNested.between (by decide : WellNested ("[" ++ "]"))

/-! ### Terms -/

namespace Term

variable {term left right test ifTrue ifFalse : Term}

theorem wellNested_enclosed (nested : WellNested term.text) :
    WellNested (Term.enclosed term).text :=
  nested.between (by decide : WellNested ("(" ++ ")"))

theorem wellNested_binary (op : Operator) (ofLeft : WellNested left.text)
    (ofRight : WellNested right.text) : WellNested (Term.binary op left right).text := by
  have first : WellNested ("(" ++ left.text ++ ") ") := ofLeft.between (by decide)
  have second : WellNested (" (" ++ right.text ++ ")") := ofRight.between (by decide)
  have whole := (first.append op.wellNested).append second
  change WellNested ("(" ++ left.text ++ ") " ++ op.text ++ " (" ++ right.text ++ ")")
  simpa only [String.append_assoc] using whole

theorem wellNested_unary (op : Modifier) (nested : WellNested term.text) :
    WellNested (Term.unary op term).text := by
  have whole := op.wellNested.append (nested.between (by decide : WellNested (" (" ++ ")")))
  change WellNested (op.text ++ " (" ++ term.text ++ ")")
  simpa only [String.append_assoc] using whole

theorem wellNested_convert (target : SqlType) (nested : WellNested term.text) :
    WellNested (Term.convert target term).text := by
  have inner := (target.wellNested.append (by decide : WellNested ", ")).append nested
  have whole := inner.between (by decide : WellNested ("CONVERT(" ++ ")"))
  change WellNested ("CONVERT(" ++ target.text ++ ", " ++ term.text ++ ")")
  simpa only [String.append_assoc] using whole

theorem wellNested_iif (ofTest : WellNested test.text) (ofTrue : WellNested ifTrue.text)
    (ofFalse : WellNested ifFalse.text) : WellNested (Term.iif test ifTrue ifFalse).text := by
  have comma : WellNested ", " := by decide
  have inner := (((ofTest.append comma).append ofTrue).append comma).append ofFalse
  have whole := inner.between (by decide : WellNested ("IIF(" ++ ")"))
  change WellNested ("IIF(" ++ test.text ++ ", " ++ ifTrue.text ++ ", " ++ ifFalse.text ++ ")")
  simpa only [String.append_assoc] using whole

theorem wellNested_texts {terms : List Term} (nested : ∀ term ∈ terms, WellNested term.text) :
    ∀ text ∈ Term.texts terms, WellNested text := by
  rw [texts_eq_map]
  exact List.forall_mem_map.mpr nested

theorem wellNested_apply {template : Template} (empty : WellNested (template.fill []))
    {slots : List Term} (nested : ∀ slot ∈ slots, WellNested slot.text) :
    WellNested (Term.apply template slots).text :=
  Template.wellNested_fill empty (wellNested_texts nested)

theorem wellNested_dateTime {parts : List Term} (nested : ∀ part ∈ parts, WellNested part.text) :
    WellNested (Term.dateTime parts).text :=
  (WellNested.intercalate (by decide) (wellNested_texts nested)).between
    (by decide : WellNested ("DATETIMEFROMPARTS(" ++ ")"))

theorem wellNested_columns {fields : List Labelled}
    (nested : ∀ field ∈ fields, WellNested field.term.text ∧ Unbracketed field.label) :
    WellNested (Term.columns fields).text := by
  refine WellNested.intercalate (by decide : WellNested ", ") ?_
  induction fields with
  | nil => simp [Labelled.texts]
  | cons field rest ih =>
      rw [List.forall_mem_cons] at nested
      obtain ⟨term, label⟩ := field
      rw [Labelled.texts, List.forall_mem_cons]
      obtain ⟨⟨ofTerm, ofLabel⟩, ofRest⟩ := nested
      exact ⟨(ofTerm.append (by decide)).append ofLabel.bracketed, ih ofRest⟩

theorem wellNested_row {table : String} (free : Unbracketed table) :
    WellNested (Term.row table).text :=
  free.bracketed

theorem wellNested_column {table name : String} (free : Unbracketed table)
    (free' : Unbracketed name) : WellNested (Term.column table name).text :=
  (free.bracketed.append (by decide)).append free'.bracketed

theorem wellNested_flag {table name : String} (free : Unbracketed table)
    (free' : Unbracketed name) : WellNested (Term.flag table name).text :=
  (wellNested_column free free').append (by decide : WellNested " = 1")

end Term

/-! ### Commands -/

theorem Statement.wellNested_table {name : String} (free : Unbracketed name) :
    WellNested (Statement.table name).text :=
  (by decide : WellNested "SELECT * FROM ").append free.bracketed

theorem Statement.wellNested_combine (op : SetOp) {first second : Statement}
    (ofFirst : WellNested first.text) (ofSecond : WellNested second.text) :
    WellNested (Statement.combine op first second).text := by
  have space : WellNested " " := by decide
  have inner :=
    (((ofFirst.append space).append (wellNested_setKeyword op)).append space).append ofSecond
  have whole := inner.between (by decide : WellNested ("(" ++ ")"))
  change WellNested ("(" ++ first.text ++ " " ++ op.keyword ++ " " ++ second.text ++ ")")
  simpa only [String.append_assoc] using whole

theorem Source.wellNested_derived {statement : Statement} (nested : WellNested statement.text) :
    WellNested (Source.derived statement).text := by
  have enclosed : WellNested ("(" ++ statement.text ++ ")") :=
    nested.between (by decide)
  cases statement with
  | combine op first second => exact nested
  | _ => exact enclosed

/-- A joined source with the keys that pair its rows. -/
structure JoinClause.Nests (clause : JoinClause) : Prop where
  source : WellNested clause.source.text
  table : Unbracketed clause.table
  outer : WellNested clause.outer.text
  inner : WellNested clause.inner.text

theorem JoinClause.wellNested_texts {clauses : List JoinClause}
    (nested : ∀ clause ∈ clauses, clause.Nests) : WellNested (JoinClause.texts clauses) := by
  induction clauses with
  | nil => rfl
  | cons clause rest ih =>
      rw [List.forall_mem_cons] at nested
      obtain ⟨ofClause, ofRest⟩ := nested
      rw [JoinClause.texts_cons]
      have before := (by decide : WellNested " ").append (wellNested_joinKeyword clause.kind)
      have joined := before.append (by decide : WellNested " JOIN ")
      have named := ((joined.append ofClause.source).append (by decide : WellNested " ")).append
        ofClause.table.bracketed
      have outer := (named.append (by decide : WellNested " ON ")).append ofClause.outer
      have keys := (outer.append (by decide : WellNested " = ")).append ofClause.inner
      exact keys.append (ih ofRest)

theorem wellNested_conjunction {keyword : String} (ofKeyword : WellNested keyword)
    {predicates : List String} (nested : ∀ predicate ∈ predicates, WellNested predicate) :
    WellNested (conjunctionText keyword predicates) := by
  cases predicates with
  | nil => rfl
  | cons first rest => exact ofKeyword.append (.intercalate (by decide) nested)

theorem wellNested_group {groupBy : Option (List Term)}
    (nested : ∀ keys ∈ groupBy, ∀ key ∈ keys, WellNested key.text) :
    WellNested (groupText groupBy) := by
  cases groupBy with
  | none => decide
  | some keys =>
      exact (by decide : WellNested " GROUP BY ").append
        (.intercalate (by decide) (Term.wellNested_texts (nested keys rfl)))

theorem SortKey.wellNested_texts {keys : List SortKey}
    (nested : ∀ key ∈ keys, WellNested key.term.text) :
    ∀ text ∈ SortKey.texts keys, WellNested text := by
  induction keys with
  | nil => simp [SortKey.texts]
  | cons key rest ih =>
      obtain ⟨term, ascending⟩ := key
      rw [List.forall_mem_cons] at nested
      rw [SortKey.texts, List.forall_mem_cons]
      refine ⟨?_, ih nested.2⟩
      split
      · exact nested.1
      · exact nested.1.append (by decide)

theorem wellNested_paging (skip take : Nat) : WellNested (pagingText skip take) := by
  have offset : WellNested (" OFFSET " ++ toString skip ++ " ROWS") :=
    ((by decide : WellNested " OFFSET ").append (wellNested_numeral skip)).append (by decide)
  have fetch : WellNested (" FETCH NEXT " ++ toString take ++ " ROWS ONLY") :=
    ((by decide : WellNested " FETCH NEXT ").append (wellNested_numeral take)).append (by decide)
  unfold pagingText
  refine WellNested.append ?_ ?_
  · split
    · exact offset
    · decide
  · split
    · exact fetch
    · decide

/-- The parts of a select command are well nested. -/
structure Body.Nests (body : Body) : Prop where
  selection : WellNested body.selection.text
  source : WellNested body.source.text
  table : ∀ name ∈ body.table, Unbracketed name
  joins : ∀ clause ∈ body.joins, clause.Nests
  filters : ∀ term ∈ body.filters, WellNested term.text
  groupBy : ∀ keys ∈ body.groupBy, ∀ key ∈ keys, WellNested key.text
  having : ∀ term ∈ body.having, WellNested term.text
  orderBy : ∀ key ∈ body.orderBy, WellNested key.term.text

theorem wellNested_alias {table : Option String} (free : ∀ name ∈ table, Unbracketed name) :
    WellNested (aliasText table) := by
  cases table with
  | none => rfl
  | some name => exact (by decide : WellNested " ").append (free name rfl).bracketed

theorem wellNested_order {keys : List SortKey} (nested : ∀ key ∈ keys, WellNested key.term.text) :
    WellNested (orderText (SortKey.texts keys)) := by
  have ofKeys := SortKey.wellNested_texts nested
  cases texts : SortKey.texts keys with
  | nil => rfl
  | cons text rest =>
      rw [texts] at ofKeys
      exact (by decide : WellNested " ORDER BY ").append (.intercalate (by decide) ofKeys)

theorem Body.Nests.wellNested {body : Body} (nests : body.Nests) : WellNested body.text := by
  have distinct : WellNested (if body.distinct then "DISTINCT " else "") := by
    split <;> decide
  have columns := ((by decide : WellNested "SELECT ").append distinct).append nests.selection
  have sources := ((columns.append (by decide : WellNested " FROM ")).append nests.source).append
    (wellNested_alias nests.table)
  have rows := (sources.append (JoinClause.wellNested_texts nests.joins)).append
    (wellNested_conjunction (by decide : WellNested " WHERE ")
      (Term.wellNested_texts nests.filters))
  have groups := (rows.append (wellNested_group nests.groupBy)).append
    (wellNested_conjunction (by decide : WellNested " HAVING ")
      (Term.wellNested_texts nests.having))
  rw [Body.text_eq]
  exact (groups.append (wellNested_order nests.orderBy)).append
    (wellNested_paging body.skip body.take)

end TypedQuery.Sql
