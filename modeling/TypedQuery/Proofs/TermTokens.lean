/-
Module: TypedQuery.Proofs.TermTokens
Purpose: Which placeholders the text of a term or a command shows, part by part. Between
  the parts stands nothing that shows placeholders of its own or that a placeholder
  could run into; for the templates of the catalogue this is checked once.
Main exports: Template.Separated, Template.tokens_fill, Term.tokens, shownFrom,
  Statement.tokens_combine, Body.tokens_text
-/
import TypedQuery.Proofs.CatalogEntries
import TypedQuery.Proofs.TextTokens
import TypedQuery.Sql.Statement

namespace TypedQuery

namespace Sql

/-! ### Templates -/

namespace Template

/-- Slots stand apart: behind a slot comes the end or a character that ends a name, and
no character of the template is an at sign. -/
def separatedPieces : List Piece → Bool
  | [] => true
  | .char character :: rest => character != '@' && separatedPieces rest
  | [.slot _] => true
  | .slot _ :: .char character :: rest =>
    !isWord character && separatedPieces (.char character :: rest)
  | .slot _ :: .slot _ :: _ => false

/-- Slots stand apart in the template. -/
def Separated (template : Template) : Prop := separatedPieces template.pieces = true

/-- Does the template have a slot of the number? -/
def mentions (template : Template) (index : Nat) : Bool := template.pieces.contains (.slot index)

/-- What a piece shows. -/
def pieceTokens (args : List String) : Piece → List String
  | .char _ => []
  | .slot index => (args[index]?.map Sql.tokens).getD []

/-- The text of the pieces, filled in. -/
def fillPieces (args : List String) (pieces : List Piece) : String :=
  String.ofList (pieces.flatMap (fillPiece args))

theorem fillPieces_cons (args : List String) (piece : Piece) (rest : List Piece) :
    fillPieces args (piece :: rest) =
      String.ofList (fillPiece args piece) ++ fillPieces args rest := by
  rw [fillPieces, List.flatMap_cons, String.ofList_append, fillPieces]

theorem tokens_slot (args : List String) (index : Nat) :
    Sql.tokens (String.ofList (fillPiece args (.slot index))) =
      pieceTokens args (.slot index) := by
  simp only [fillPiece, pieceTokens]
  cases args[index]? with
  | none => rfl
  | some arg => rw [String.ofList_toList, Option.map_some, Option.getD_some]

/-- Filled in, separated slots show what their arguments show. -/
theorem tokens_fillPieces (args : List String) (pieces : List Piece)
    (separated : separatedPieces pieces = true) :
    Sql.tokens (fillPieces args pieces) = pieces.flatMap (pieceTokens args) := by
  fun_induction separatedPieces pieces with
  | case1 => rfl
  | case2 character rest ih =>
      rw [Bool.and_eq_true, bne_iff_ne] at separated
      have plain : Plain (String.ofList [character]) := by
        simpa [Plain] using Ne.symm separated.1
      rw [fillPieces_cons, fillPiece, tokens_plain_append plain, ih separated.2]
      rfl
  | case3 index =>
      have alone : fillPieces args [.slot index] =
          String.ofList (fillPiece args (.slot index)) := by
        rw [fillPieces, List.flatMap_singleton]
      rw [alone, tokens_slot, List.flatMap_singleton]
  | case4 index character rest ih =>
      rw [Bool.and_eq_true, Bool.not_eq_true'] at separated
      -- The character behind the slot is there whatever the arguments are.
      have stops : Stops (fillPieces args (.char character :: rest)) := by
        rw [fillPieces_cons, fillPiece]
        refine Stops.append_of_ne_empty ?_ ?_ _
        · simpa [Stops] using separated.1
        · simp [← String.toList_inj]
      rw [fillPieces_cons, tokens_append _ stops, tokens_slot, ih separated.2]
      rfl
  | case5 => cases separated

theorem tokens_fill {template : Template} (separated : template.Separated) (args : List String) :
    Sql.tokens (template.fill args) = template.pieces.flatMap (pieceTokens args) :=
  tokens_fillPieces args template.pieces separated

/-- All templates for methods are separated. -/
theorem separated_of_template? {method : Method} {template : Template}
    (found : method.template? = some template) : template.Separated := by
  have all : ∀ entry ∈ methods, (Template.parse entry.2).Separated := by
    unfold Separated
    decide +kernel
  obtain ⟨entry, present, -, rfl⟩ := Method.template?_eq_some found
  exact all entry present

/-- All templates for properties are separated. -/
theorem separated_of_propertyTemplate? {owner : Kind} {name : String} {template : Template}
    (found : propertyTemplate? owner name = some template) : template.Separated := by
  have all : ∀ entry ∈ properties, (Template.parse entry.2.2).Separated := by
    unfold Separated
    decide +kernel
  obtain ⟨entry, present, -, -, rfl⟩ := propertyTemplate?_eq_some found
  exact all entry present

end Template

theorem plain_of_durationUnit? {name unit : String} (found : durationUnit? name = some unit) :
    Plain unit := by
  have all : ∀ entry ∈ durations, Plain entry.2 := by decide +kernel
  obtain ⟨entry, present, -, rfl⟩ := durationUnit?_eq_some found
  exact all entry present

/-! ### Words of SQL -/

theorem plain_open : Plain "(" := by decide

theorem divides_space : Divides " " := by decide

theorem divides_close : Divides ")" := by decide

theorem divides_comma : Divides ", " := by decide

theorem divides_where : Divides " WHERE " := by decide

theorem divides_having : Divides " HAVING " := by decide

theorem Operator.plain_text (op : Operator) : Plain op.text := by cases op <;> decide

theorem Modifier.plain_text (op : Modifier) : Plain op.text := by cases op <;> decide

theorem SqlType.plain_text (target : SqlType) : Plain target.text := by cases target <;> decide

theorem plain_joinKeyword (kind : JoinKind) : Plain kind.keyword := by cases kind <;> decide

theorem plain_setKeyword (op : SetOp) : Plain op.keyword := by cases op <;> decide

theorem Plain.bracketed {name : String} (plain : Plain name) : Plain (bracketed name) :=
  (Plain.append (by decide) plain).append (by decide)

/-! ### Terms -/

/-- The placeholders that a term shows. -/
def Term.tokens (term : Term) : List String := Sql.tokens term.text

namespace Term

theorem tokens_null : Term.null.tokens = [] := rfl

theorem tokens_zero : Term.zero.tokens = [] := rfl

theorem tokens_nothing : Term.nothing.tokens = [] := rfl

theorem tokens_word {text : String} (plain : Plain text) : (Term.word text).tokens = [] :=
  tokens_of_plain plain

theorem tokens_row {table : String} (plain : Plain table) : (Term.row table).tokens = [] :=
  tokens_of_plain plain.bracketed

theorem tokens_column {table name : String} (plain : Plain table) (plain' : Plain name) :
    (Term.column table name).tokens = [] :=
  tokens_of_plain ((plain.bracketed.append (by decide)).append plain'.bracketed)

theorem tokens_flag {table name : String} (plain : Plain table) (plain' : Plain name) :
    (Term.flag table name).tokens = [] :=
  tokens_of_plain
    (((plain.bracketed.append (by decide)).append plain'.bracketed).append (by decide))

theorem tokens_enclosed (term : Term) : (Term.enclosed term).tokens = term.tokens := by
  change Sql.tokens ("(" ++ term.text ++ ")") = _
  rw [String.append_assoc, tokens_plain_append plain_open, tokens_append_divider divides_close,
    tokens]

theorem tokens_binary (op : Operator) (left right : Term) :
    (Term.binary op left right).tokens = left.tokens ++ right.tokens := by
  change Sql.tokens ("(" ++ left.text ++ ") " ++ op.text ++ " (" ++ right.text ++ ")") = _
  simp only [String.append_assoc]
  rw [tokens_plain_append plain_open, tokens_between (by decide),
    tokens_plain_append op.plain_text, tokens_plain_append (by decide),
    tokens_append_divider divides_close, tokens, tokens]

theorem tokens_unary (op : Modifier) (operand : Term) :
    (Term.unary op operand).tokens = operand.tokens := by
  change Sql.tokens (op.text ++ " (" ++ operand.text ++ ")") = _
  simp only [String.append_assoc]
  rw [tokens_plain_append op.plain_text, tokens_plain_append (by decide),
    tokens_append_divider divides_close, tokens]

theorem tokens_convert (target : SqlType) (operand : Term) :
    (Term.convert target operand).tokens = operand.tokens := by
  change Sql.tokens ("CONVERT(" ++ target.text ++ ", " ++ operand.text ++ ")") = _
  simp only [String.append_assoc]
  rw [tokens_plain_append (by decide), tokens_plain_append target.plain_text,
    tokens_plain_append (by decide), tokens_append_divider divides_close, tokens]

theorem tokens_iif (test ifTrue ifFalse : Term) :
    (Term.iif test ifTrue ifFalse).tokens =
      test.tokens ++ ifTrue.tokens ++ ifFalse.tokens := by
  change Sql.tokens
    ("IIF(" ++ test.text ++ ", " ++ ifTrue.text ++ ", " ++ ifFalse.text ++ ")") = _
  simp only [String.append_assoc]
  rw [tokens_plain_append (by decide), tokens_between divides_comma, tokens_between divides_comma,
    tokens_append_divider divides_close, tokens, tokens, tokens, List.append_assoc]

theorem tokens_subquery (statement : Statement) :
    (Term.subquery statement).tokens = Sql.tokens statement.text := rfl

theorem texts_eq_map (terms : List Term) : Term.texts terms = terms.map Term.text := by
  induction terms with
  | nil => rfl
  | cons term rest ih =>
      rw [List.map_cons, ← ih]
      rfl

/-- What several texts of terms show. -/
theorem tokens_texts (terms : List Term) :
    (Term.texts terms).flatMap Sql.tokens = terms.flatMap Term.tokens := by
  rw [texts_eq_map, List.flatMap_map]
  rfl

theorem tokens_dateTime (parts : List Term) :
    (Term.dateTime parts).tokens = parts.flatMap Term.tokens := by
  change Sql.tokens
    ("DATETIMEFROMPARTS(" ++ String.intercalate ", " (Term.texts parts) ++ ")") = _
  rw [String.append_assoc, tokens_plain_append (by decide), tokens_append_divider divides_close,
    tokens_intercalate divides_comma, tokens_texts]

/-- The fields of a row show what their terms show. -/
theorem tokens_columns {fields : List Labelled}
    (plain : ∀ field ∈ fields, Plain field.label) :
    (Term.columns fields).tokens = fields.flatMap fun field => field.term.tokens := by
  change Sql.tokens (String.intercalate ", " (Labelled.texts fields)) = _
  rw [tokens_intercalate divides_comma]
  induction fields with
  | nil => rfl
  | cons field rest ih =>
      obtain ⟨term, label⟩ := field
      have label_plain : Plain (bracketed label) :=
        (plain ⟨term, label⟩ List.mem_cons_self).bracketed
      change Sql.tokens (term.text ++ " AS " ++ bracketed label) ++
        (Labelled.texts rest).flatMap Sql.tokens = _
      rw [String.append_assoc, tokens_between (by decide), tokens_of_plain label_plain,
        List.append_nil, ih fun field present => plain field (List.mem_cons_of_mem _ present)]
      rfl

/-- A filled template shows what the terms in its slots show. -/
theorem mem_tokens_apply {template : Template} (separated : template.Separated)
    {slots : List Term} {token : String} :
    token ∈ (Term.apply template slots).tokens ↔ ∃ index term,
      template.mentions index = true ∧ slots[index]? = some term ∧ token ∈ term.tokens := by
  change token ∈ Sql.tokens (template.fill (Term.texts slots)) ↔ _
  rw [Template.tokens_fill separated, texts_eq_map, List.mem_flatMap]
  constructor
  · intro shown
    obtain ⟨piece, present, shown⟩ := shown
    cases piece with
    | char character => simp [Template.pieceTokens] at shown
    | slot index =>
        simp only [Template.pieceTokens, List.getElem?_map] at shown
        cases found : slots[index]? with
        | none =>
            rw [found] at shown
            simp at shown
        | some term =>
            rw [found] at shown
            exact ⟨index, term, List.contains_iff_mem.mpr present, found, shown⟩
  · intro held
    obtain ⟨index, term, mentioned, found, shown⟩ := held
    refine ⟨.slot index, List.contains_iff_mem.mp mentioned, ?_⟩
    simp only [Template.pieceTokens, List.getElem?_map, found]
    exact shown

end Term

/-- What the terms show that stand at rendered positions. -/
def shownFrom (rendered : Nat → Bool) : Nat → List Term → List String
  | _, [] => []
  | position, term :: rest =>
    (if rendered position then term.tokens else []) ++ shownFrom rendered (position + 1) rest

theorem mem_shownFrom {rendered : Nat → Bool} {position : Nat} {terms : List Term}
    {token : String} :
    token ∈ shownFrom rendered position terms ↔ ∃ index term,
      rendered (position + index) = true ∧ terms[index]? = some term ∧ token ∈ term.tokens := by
  induction terms generalizing position with
  | nil => simp [shownFrom]
  | cons first rest ih =>
      rw [shownFrom, List.mem_append, ih]
      constructor
      · intro shown
        rcases shown with shown | ⟨index, term, isRendered, found, shown⟩
        · split at shown
          · exact ⟨0, first, by assumption, rfl, shown⟩
          · simp at shown
        · refine ⟨index + 1, term, ?_, found, shown⟩
          rwa [← Nat.add_assoc, Nat.add_right_comm]
      · intro held
        obtain ⟨index, term, isRendered, found, shown⟩ := held
        cases index with
        | zero =>
            cases found
            rw [Nat.add_zero] at isRendered
            rw [if_pos isRendered]
            exact .inl shown
        | succ index =>
            refine .inr ⟨index, term, ?_, found, shown⟩
            rwa [Nat.add_right_comm, Nat.add_assoc]

theorem shownFrom_all (position : Nat) (terms : List Term) :
    shownFrom (fun _ => true) position terms = terms.flatMap Term.tokens := by
  induction terms generalizing position with
  | nil => rfl
  | cons term rest ih => rw [shownFrom, if_pos rfl, ih, List.flatMap_cons]

/-! ### Clauses -/

theorem tokens_conjunction {keyword : String} (divides : Divides keyword) (terms : List Term) :
    tokens (conjunctionText keyword (Term.texts terms)) = terms.flatMap Term.tokens := by
  rw [← Term.tokens_texts]
  cases Term.texts terms with
  | nil => rfl
  | cons text rest =>
      rw [conjunctionText, tokens_plain_append divides.plain, tokens_intercalate (by decide)]
      intro empty
      cases empty

theorem stops_conjunction {keyword : String} (divides : Divides keyword)
    (texts : List String) : Stops (conjunctionText keyword texts) := by
  cases texts with
  | nil => exact stops_empty
  | cons text rest =>
      rw [conjunctionText]
      · exact divides.stops_append _
      · intro empty
        cases empty

theorem tokens_group (keys : Option (List Term)) :
    tokens (groupText keys) = (keys.getD []).flatMap Term.tokens := by
  cases keys with
  | none => rfl
  | some keys =>
      change tokens (" GROUP BY " ++ String.intercalate ", " (Term.texts keys)) = _
      rw [tokens_plain_append (by decide), tokens_intercalate divides_comma, Term.tokens_texts,
        Option.getD_some]

theorem stops_group (keys : Option (List Term)) : Stops (groupText keys) := by
  cases keys with
  | none => exact stops_empty
  | some keys => exact Divides.stops_append (by decide) _

/-- What sort keys show. -/
def SortKey.tokens (key : SortKey) : List String := key.term.tokens

theorem SortKey.tokens_texts (keys : List SortKey) :
    (SortKey.texts keys).flatMap Sql.tokens = keys.flatMap SortKey.tokens := by
  induction keys with
  | nil => rfl
  | cons key rest ih =>
      obtain ⟨term, ascending⟩ := key
      change Sql.tokens (if ascending then term.text else term.text ++ " DESC") ++
        (SortKey.texts rest).flatMap Sql.tokens = term.tokens ++ _
      rw [ih]
      split
      · rfl
      · rw [tokens_append_divider (by decide)]
        rfl

/-- Text of the sort keys with their keyword. -/
def orderText : List String → String
  | [] => ""
  | keys => " ORDER BY " ++ String.intercalate ", " keys

theorem tokens_order (keys : List SortKey) :
    tokens (orderText (SortKey.texts keys)) = keys.flatMap SortKey.tokens := by
  rw [← SortKey.tokens_texts]
  cases SortKey.texts keys with
  | nil => rfl
  | cons text rest =>
      rw [orderText, tokens_plain_append (by decide), tokens_intercalate divides_comma]
      intro empty
      cases empty

theorem stops_order (texts : List String) : Stops (orderText texts) := by
  cases texts with
  | nil => exact stops_empty
  | cons text rest =>
      rw [orderText]
      · exact Divides.stops_append (by decide) _
      · intro empty
        cases empty

theorem plain_paging (skip take : Nat) : Plain (pagingText skip take) := by
  unfold pagingText
  apply Plain.append
  · split
    · exact (Plain.append (by decide) (isWord_numeral skip).plain).append (by decide)
    · decide
  · split
    · exact (Plain.append (by decide) (isWord_numeral take).plain).append (by decide)
    · decide

theorem stops_paging (skip take : Nat) : Stops (pagingText skip take) := by
  unfold pagingText
  apply Stops.append
  · split
    · rw [String.append_assoc]
      exact Divides.stops_append (by decide) _
    · decide
  · split
    · rw [String.append_assoc]
      exact Divides.stops_append (by decide) _
    · decide

/-- Text of a source's alias. -/
def aliasText : Option String → String
  | some name => " " ++ bracketed name
  | none => ""

theorem plain_alias {table : Option String} (plain : ∀ name ∈ table, Plain name) :
    Plain (aliasText table) := by
  cases table with
  | none => decide
  | some name => exact Plain.append (by decide) (plain name rfl).bracketed

theorem stops_alias (table : Option String) : Stops (aliasText table) := by
  cases table with
  | none => exact stops_empty
  | some name => exact Divides.stops_append (by decide) _

/-! ### Sources and commands -/

/-- What a source shows. -/
def Source.tokens (source : Source) : List String := Sql.tokens source.text

theorem Source.tokens_table {name : String} (plain : Plain name) :
    (Source.table name).tokens = [] :=
  tokens_of_plain plain.bracketed

theorem Source.tokens_derived (statement : Statement) :
    (Source.derived statement).tokens = Sql.tokens statement.text := by
  cases statement with
  | combine op first second => rfl
  | _ =>
      change Sql.tokens ("(" ++ Statement.text _ ++ ")") = _
      rw [String.append_assoc, tokens_plain_append plain_open,
        tokens_append_divider divides_close]

/-- What the columns of a command show. -/
def Selection.tokens (selection : Selection) : List String := Sql.tokens selection.text

theorem Selection.tokens_allOf (row : Term) : (Selection.allOf row).tokens = row.tokens :=
  tokens_append_divider (by decide) row.text

theorem JoinClause.texts_cons (join : JoinClause) (rest : List JoinClause) :
    JoinClause.texts (join :: rest) =
      " " ++ join.kind.keyword ++ " JOIN " ++ join.source.text ++ " " ++ bracketed join.table ++
        " ON " ++ join.outer.text ++ " = " ++ join.inner.text ++ JoinClause.texts rest := by
  cases join
  rfl

theorem stops_joins (joins : List JoinClause) : Stops (JoinClause.texts joins) := by
  cases joins with
  | nil => exact stops_empty
  | cons join rest =>
      simp only [JoinClause.texts_cons, String.append_assoc]
      exact Divides.stops_append (by decide) _

/-- What a joined source and its condition show. -/
def JoinClause.tokens (join : JoinClause) : List String :=
  join.source.tokens ++ (join.outer.tokens ++ join.inner.tokens)

theorem tokens_joins {joins : List JoinClause} (plain : ∀ join ∈ joins, Plain join.table) :
    tokens (JoinClause.texts joins) = joins.flatMap JoinClause.tokens := by
  induction joins with
  | nil => rfl
  | cons join rest ih =>
      have table_plain : Plain (bracketed join.table) := (plain _ List.mem_cons_self).bracketed
      simp only [JoinClause.texts_cons, String.append_assoc]
      rw [tokens_plain_append (by decide), tokens_plain_append (plain_joinKeyword join.kind),
        tokens_plain_append (by decide), tokens_between (by decide),
        tokens_plain_append table_plain, tokens_plain_append (by decide),
        tokens_between (by decide), tokens_append join.inner.text (stops_joins rest),
        ih fun join present => plain join (List.mem_cons_of_mem _ present)]
      simp only [List.flatMap_cons, JoinClause.tokens, List.append_assoc]
      rfl

theorem Body.text_eq (body : Body) :
    body.text = "SELECT " ++ (if body.distinct then "DISTINCT " else "") ++
      body.selection.text ++ " FROM " ++ body.source.text ++ aliasText body.table ++
      JoinClause.texts body.joins ++ conjunctionText " WHERE " (Term.texts body.filters) ++
      groupText body.groupBy ++ conjunctionText " HAVING " (Term.texts body.having) ++
      orderText (SortKey.texts body.orderBy) ++ pagingText body.skip body.take := by
  obtain ⟨distinct, selection, source, table, joins, filters, groupBy, having, orderBy, skip,
    take⟩ := body
  cases table with
  | none =>
      cases orderBy with
      | nil => rfl
      | cons key rest => rfl
  | some name =>
      cases orderBy with
      | nil => rfl
      | cons key rest => rfl

/-- A select command shows what its clauses show. -/
theorem Body.tokens_text {body : Body} (plain : ∀ name ∈ body.table, Plain name)
    (plain' : ∀ join ∈ body.joins, Plain join.table) :
    tokens body.text = body.selection.tokens ++ (body.source.tokens ++
      (body.joins.flatMap JoinClause.tokens ++ (body.filters.flatMap Term.tokens ++
        ((body.groupBy.getD []).flatMap Term.tokens ++ (body.having.flatMap Term.tokens ++
          body.orderBy.flatMap SortKey.tokens))))) := by
  have distinct_plain : Plain (if body.distinct then "DISTINCT " else "") := by
    split <;> decide
  have paging := stops_paging body.skip body.take
  have order := (stops_order (SortKey.texts body.orderBy)).append paging
  have having := (stops_conjunction divides_having (Term.texts body.having)).append order
  have group := (stops_group body.groupBy).append having
  have filters := (stops_conjunction divides_where (Term.texts body.filters)).append group
  have joins := (stops_joins body.joins).append filters
  have table := (stops_alias body.table).append joins
  rw [Body.text_eq]
  simp only [String.append_assoc]
  rw [tokens_plain_append (by decide), tokens_plain_append distinct_plain,
    tokens_between (by decide), tokens_append body.source.text table,
    tokens_plain_append (plain_alias plain), tokens_append _ filters, tokens_joins plain',
    tokens_append _ group, tokens_conjunction divides_where, tokens_append _ having, tokens_group,
    tokens_append _ order, tokens_conjunction divides_having, tokens_append _ paging, tokens_order,
    tokens_of_plain (plain_paging _ _), List.append_nil]
  rfl

theorem Statement.tokens_table {name : String} (plain : Plain name) :
    tokens (Statement.table name).text = [] :=
  tokens_of_plain (Plain.append (by decide) plain.bracketed)

theorem Statement.tokens_combine (op : SetOp) (first second : Statement) :
    tokens (Statement.combine op first second).text =
      tokens first.text ++ tokens second.text := by
  change tokens ("(" ++ first.text ++ " " ++ op.keyword ++ " " ++ second.text ++ ")") = _
  simp only [String.append_assoc]
  rw [tokens_plain_append plain_open, tokens_between divides_space,
    tokens_plain_append (plain_setKeyword op), tokens_plain_append divides_space.plain,
    tokens_append_divider divides_close]

end Sql

end TypedQuery
