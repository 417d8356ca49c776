/-
Module: TypedQuery.Proofs.TermOutlines
Purpose: What the text of a term shows outside of its brackets. Each form puts its operands in
  brackets of its own, so that the outline depends on the form alone; for templates this is so if
  their slots are in brackets.
Main exports: Term.outlines_binary, Term.outlines_apply, Term.outlines_placeholder
-/
import TypedQuery.Proofs.SearchConditions
import TypedQuery.Proofs.TermNesting

namespace TypedQuery.Sql

/-! ### Words -/

/-- Characters of a name are held until it ends. -/
theorem Lexer.lexemes_word {held characters : List Char}
    (word : ∀ character ∈ characters, isWord character = true) (isHeld : held ++ characters ≠ []) :
    Lexer.lexemes ⟨[], held⟩ characters = [.word (String.ofList (held ++ characters))] := by
  induction characters generalizing held with
  | nil =>
      rw [List.append_nil] at isHeld ⊢
      rw [Lexer.lexemes, Lexer.finish, if_pos ⟨rfl, isHeld⟩]
  | cons character rest ih =>
      rw [List.forall_mem_cons] at word
      have free : Mark.of character = .neither := by
        have single : IsWord (String.ofList [character]) := by
          simpa [IsWord] using word.1
        exact single.unbracketed character (by simp)
      have read : Lexer.read ⟨[], held⟩ character = ([], ⟨[], held ++ [character]⟩) := by
        unfold Lexer.read
        rw [free]
        exact if_pos word.1
      rw [Lexer.lexemes, read, ih word.2 (by simp), List.append_assoc]
      rfl

theorem lexemes_word {text : String} (word : IsWord text) (written : text ≠ "") :
    lexemes text = [.word text] := by
  have nonempty : [] ++ text.toList ≠ [] := by simpa using written
  have whole := Lexer.lexemes_word word nonempty
  rw [List.nil_append, String.ofList_toList] at whole
  exact whole

/-! ### Terms -/

namespace Term

variable {term left right test ifTrue ifFalse : Term}

theorem outlines_enclosed (nested : WellNested term.text) :
    outlines (Term.enclosed term).text = [.enclosed .round ""] :=
  outlines_parenthesised nested

/-- Outside of brackets there is nothing but the operator. -/
theorem outlines_binary (op : Operator) (ofLeft : WellNested left.text)
    (ofRight : WellNested right.text) :
    outlines (Term.binary op left right).text =
      .enclosed .round "" :: (outlines op.text ++ [.enclosed .round ""]) := by
  have form : (Term.binary op left right).text =
      "(" ++ left.text ++ ")" ++ " " ++ (op.text ++ " " ++ ("(" ++ right.text ++ ")")) := by
    change "(" ++ left.text ++ ") " ++ op.text ++ " (" ++ right.text ++ ")" = _
    simp only [String.append_assoc]
    rfl
  have enclosed : WellNested ("(" ++ left.text ++ ")") := wellNested_enclosed ofLeft
  rw [form, outlines_append_blank enclosed, outlines_append_blank op.wellNested,
    outlines_parenthesised ofLeft, outlines_parenthesised ofRight]
  rfl

theorem outlines_unary (op : Modifier) (nested : WellNested term.text) :
    outlines (Term.unary op term).text = outlines op.text ++ [.enclosed .round ""] := by
  have form : (Term.unary op term).text = op.text ++ " " ++ ("(" ++ term.text ++ ")") := by
    change op.text ++ " (" ++ term.text ++ ")" = _
    simp only [String.append_assoc]
    rfl
  rw [form, outlines_append_blank op.wellNested, outlines_parenthesised nested]

theorem outlines_convert (target : SqlType) (nested : WellNested term.text) :
    outlines (Term.convert target term).text = [.word "CONVERT", .enclosed .round ""] := by
  have opened : nest [] ("CONVERT(" ++ target.text ++ ", ") = some [.round] := by
    cases target <;> decide
  change outlines ("CONVERT(" ++ target.text ++ ", " ++ term.text ++ ")") = _
  rw [outlines_between opened (by simp) nested]
  cases target <;> decide

theorem outlines_iif (ofTest : WellNested test.text) (ofTrue : WellNested ifTrue.text)
    (ofFalse : WellNested ifFalse.text) :
    outlines (Term.iif test ifTrue ifFalse).text = [.word "IIF", .enclosed .round ""] := by
  have comma : WellNested ", " := by decide
  have inner := (((ofTest.append comma).append ofTrue).append comma).append ofFalse
  have form : (Term.iif test ifTrue ifFalse).text =
      "IIF(" ++ (test.text ++ ", " ++ ifTrue.text ++ ", " ++ ifFalse.text) ++ ")" := by
    change "IIF(" ++ test.text ++ ", " ++ ifTrue.text ++ ", " ++ ifFalse.text ++ ")" = _
    simp only [String.append_assoc]
  rw [form, outlines_between (by decide : nest [] "IIF(" = some [.round]) (by simp) inner]
  decide

theorem outlines_dateTime {parts : List Term} (nested : ∀ part ∈ parts, WellNested part.text) :
    outlines (Term.dateTime parts).text = [.word "DATETIMEFROMPARTS", .enclosed .round ""] := by
  have inner := WellNested.intercalate (by decide : WellNested ", ") (wellNested_texts nested)
  have opened : nest [] "DATETIMEFROMPARTS(" = some [.round] := by decide
  change outlines ("DATETIMEFROMPARTS(" ++ _ ++ ")") = _
  rw [outlines_between opened (by simp) inner]
  decide

/-- An identifier in square brackets shows nothing of its name. -/
theorem outlines_row {table : String} (free : Unbracketed table) :
    outlines (Term.row table).text = [.enclosed .square ""] := by
  change outlines ("[" ++ table ++ "]") = _
  rw [outlines_between (by decide : nest [] "[" = some [.square]) (by simp) free.wellNested]
  decide

theorem outlines_column {table name : String} (free : Unbracketed table)
    (free' : Unbracketed name) :
    outlines (Term.column table name).text =
      [.enclosed .square "", .sign '.', .enclosed .square ""] := by
  have form : (Term.column table name).text = "[" ++ table ++ ("].[" ++ name ++ "]") := by
    change "[" ++ table ++ "]" ++ "." ++ ("[" ++ name ++ "]") = _
    simp only [String.append_assoc]
    rfl
  have second : "[" ++ ("].[" ++ name ++ "]") = "[].[" ++ name ++ "]" := by
    simp only [← String.append_assoc]
    rfl
  rw [form, outlines_between (by decide : nest [] "[" = some [.square]) (by simp) free.wellNested,
    second,
    outlines_between (by decide : nest [] "[].[" = some [.square]) (by simp) free'.wellNested]
  decide

theorem outlines_flag {table name : String} (free : Unbracketed table) (free' : Unbracketed name) :
    outlines (Term.flag table name).text =
      [.enclosed .square "", .sign '.', .enclosed .square "", .sign '=', .word "1"] := by
  have form : (Term.flag table name).text = (Term.column table name).text ++ " " ++ "= 1" := by
    rw [String.append_assoc]
    rfl
  rw [form, outlines_append_blank (wellNested_column free free'), outlines_column free free']
  decide

theorem outlines_placeholder {name : String} (word : IsWord name) (written : name ≠ "") :
    outlines (Term.placeholder ("@" ++ name)).text = [.sign '@', .word name] := by
  have whole : lexemes ("@" ++ name) = .sign '@' :: lexemes name := by
    rw [lexemes, String.toList_append]
    rfl
  change outlines ("@" ++ name) = _
  rw [outlines, whole, lexemes_word word written]
  rfl

theorem outlines_apply {template : Template}
    (inside : Template.slotsInside [] template.pieces = true) {slots : List Term}
    (nested : ∀ slot ∈ slots, WellNested slot.text) :
    outlines (Term.apply template slots).text = template.shown :=
  Template.outlines_fill inside (wellNested_texts nested)

end Term

end TypedQuery.Sql
