/-
Module: TypedQuery.Proofs.OperandReading
Purpose: How SQL reads an argument in the place of an operand. An operator takes what stands next
  to it as far as tighter operators hold it together, so that a text that is put beside an operator
  is one operand just if nothing looser stands in it outside of brackets. What stands beside the
  text is found within the innermost bracket, between two commas.
Main exports: Lexeme.looseness, looseness, rightOperand, leftOperand, OneOperand, InFront, Behind,
  InFront.unique, Behind.unique
-/
import Mathlib.Data.List.DropRight
import TypedQuery.Proofs.SearchConditions

namespace TypedQuery.Sql

/-! ### Precedence -/

/-- How loosely an operator holds its operands together. Products come first, then sums,
comparisons, `NOT`, `AND` and `OR`; a comma divides whatever they hold. Anything else is a part of
an operand. `IS NOT` counts as its `NOT`. -/
def Lexeme.looseness : Lexeme → Nat
  | .sign '*' | .sign '/' => 1
  | .sign '+' | .sign '-' => 2
  | .sign '=' | .sign '<' | .sign '>' | .word "LIKE" | .word "IN" | .word "IS" => 3
  | .word "NOT" => 4
  | .word "AND" => 5
  | .word "OR" => 6
  | .sign ',' => 7
  | _ => 0

/-- A plus or a minus: in front of an operand it is its sign. -/
def Lexeme.isSign : Lexeme → Bool
  | .sign '+' | .sign '-' => true
  | _ => false

/-- An operand without its sign. -/
def behindSign : List Lexeme → List Lexeme
  | [] => []
  | first :: rest => if first.isSign then rest else first :: rest

/-- How loosely the loosest operator among the lexemes holds them together. -/
def loosest (lexemes : List Lexeme) : Nat :=
  ((behindSign lexemes).map Lexeme.looseness).foldr max 0

/-- How loosely the loosest operator of a text outside of its brackets holds the text together. -/
def looseness (text : String) : Nat := loosest (lexemes text)

example : looseness "- (a OR b) * c + 1" = 2 := by decide

theorem loosest_le_iff {lexemes : List Lexeme} {bound : Nat} :
    loosest lexemes ≤ bound ↔ ∀ lexeme ∈ behindSign lexemes, lexeme.looseness ≤ bound := by
  unfold loosest
  induction behindSign lexemes with
  | nil => simp
  | cons first rest ih =>
      rw [List.map_cons, List.foldr_cons, Nat.max_le, ih, List.forall_mem_cons]

theorem looseness_le_iff {text : String} {bound : Nat} :
    looseness text ≤ bound ↔ ∀ lexeme ∈ behindSign (lexemes text), lexeme.looseness ≤ bound :=
  loosest_le_iff

theorem Lexeme.looseness_outline (lexeme : Lexeme) :
    lexeme.outline.looseness = lexeme.looseness := by
  cases lexeme <;> rfl

theorem behindSign_outlines (lexemes : List Lexeme) :
    behindSign (lexemes.map Lexeme.outline) = (behindSign lexemes).map Lexeme.outline := by
  cases lexemes with
  | nil => rfl
  | cons first rest =>
      have same : first.outline.isSign = first.isSign := by cases first <;> rfl
      rw [List.map_cons, behindSign, behindSign, same]
      split <;> rfl

/-- What stands in brackets does not count. -/
theorem looseness_eq_outlines (text : String) : looseness text = loosest (outlines text) := by
  have same : Lexeme.looseness ∘ Lexeme.outline = Lexeme.looseness :=
    funext Lexeme.looseness_outline
  rw [looseness, loosest, loosest, outlines, behindSign_outlines, List.map_map, same]

/-- A sign in front counts just where sums do. -/
theorem forall_behindSign_iff {lexemes : List Lexeme} {bound : Nat} (sums : 2 ≤ bound) :
    (∀ lexeme ∈ behindSign lexemes, lexeme.looseness ≤ bound) ↔
      ∀ lexeme ∈ lexemes, lexeme.looseness ≤ bound := by
  cases lexemes with
  | nil => rfl
  | cons first rest =>
      rw [behindSign]
      split
      · rename_i isSign
        have ofSign : first.looseness ≤ bound := by
          unfold Lexeme.isSign at isSign
          split at isSign
          · exact sums
          · exact sums
          · cases isSign
        rw [List.forall_mem_cons]
        exact ⟨fun ofRest => ⟨ofSign, ofRest⟩, And.right⟩
      · rfl

/-- Nothing but a comma is looser than `OR`. -/
theorem Lexeme.looseness_le_six_iff {lexeme : Lexeme} :
    lexeme.looseness ≤ 6 ↔ lexeme ≠ .sign ',' := by
  constructor
  · rintro tight rfl
    exact absurd tight (by decide)
  · intro notComma
    unfold Lexeme.looseness
    split <;> first | decide | exact absurd rfl notComma

theorem undivided_iff {text : String} : .sign ',' ∉ lexemes text ↔ looseness text ≤ 6 := by
  rw [looseness_le_iff, forall_behindSign_iff (by decide)]
  constructor
  · rintro undivided lexeme present
    refine Lexeme.looseness_le_six_iff.mpr ?_
    rintro rfl
    exact undivided present
  · intro tight present
    exact Lexeme.looseness_le_six_iff.mp (tight _ present) rfl

/-! ### Operands -/

/-- The right operand of an operator in front of the lexemes. A sign in front belongs to it, and it
goes on up to the next operator that is not tighter. -/
def rightOperand (op : Lexeme) : List Lexeme → List Lexeme
  | [] => []
  | first :: rest =>
    if first.isSign then first :: rest.takeWhile (·.looseness < op.looseness)
    else (first :: rest).takeWhile (·.looseness < op.looseness)

/-- The left operand of an operator behind the lexemes. It begins behind the last operator that is
looser. -/
def leftOperand (op : Lexeme) (before : List Lexeme) : List Lexeme :=
  before.rtakeWhile (·.looseness ≤ op.looseness)

/-- Between the two texts, the argument is read as one operand: neither the operator in front of it
nor the one behind it takes only a part of it. -/
structure OneOperand (lead argument follow : String) : Prop where
  apart : lexemes (lead ++ argument ++ follow) =
    lexemes lead ++ lexemes argument ++ lexemes follow
  written : lexemes argument ≠ []
  undivided : .sign ',' ∉ lexemes argument
  ofLead : ∀ op ∈ (lexemes lead).getLast?,
    lexemes argument <+: rightOperand op (lexemes argument ++ lexemes follow)
  ofFollow : ∀ op ∈ (lexemes follow).head?,
    lexemes argument <:+ leftOperand op (lexemes lead ++ lexemes argument)

theorem prefix_takeWhile_append_iff {α : Type} {p : α → Bool} {first second : List α} :
    first <+: (first ++ second).takeWhile p ↔ ∀ a ∈ first, p a = true := by
  constructor
  · intro isPrefix a present
    exact List.mem_takeWhile_imp (isPrefix.subset present)
  · intro all
    rw [List.takeWhile_append_of_pos all]
    exact List.prefix_append _ _

/-- The right operand contains the argument if nothing in it is as loose as the operator. -/
theorem prefix_rightOperand_iff {op : Lexeme} {argument follow : List Lexeme} :
    argument <+: rightOperand op (argument ++ follow) ↔
      ∀ lexeme ∈ behindSign argument, lexeme.looseness < op.looseness := by
  cases argument with
  | nil => simp [behindSign]
  | cons first rest =>
      rw [List.cons_append, rightOperand, behindSign]
      split
      · rw [List.cons_prefix_cons, prefix_takeWhile_append_iff]
        simp
      · rw [← List.cons_append, prefix_takeWhile_append_iff]
        simp

/-- The left operand contains the argument if nothing in it is looser than the operator. -/
theorem suffix_leftOperand_iff {op : Lexeme} {lead argument : List Lexeme} :
    argument <:+ leftOperand op (lead ++ argument) ↔
      ∀ lexeme ∈ argument, lexeme.looseness ≤ op.looseness := by
  rw [leftOperand, List.rtakeWhile, ← List.reverse_prefix, List.reverse_reverse,
    List.reverse_append, prefix_takeWhile_append_iff]
  simp

/-! ### Surroundings -/

namespace Lexer

/-- A sign behind a text that closes its brackets is a lexeme. -/
theorem lexemes_append_sign {lexer : Lexer} {first : List Char} {sign : Char}
    (nests : nesting lexer.opened first = some []) (free : Mark.of sign = .neither)
    (notWord : isWord sign = false) (notBlank : sign.isWhitespace = false) (second : List Char) :
    lexer.lexemes (first ++ sign :: second) =
      lexer.lexemes first ++ .sign sign :: start.lexemes second := by
  induction first generalizing lexer with
  | nil =>
      obtain ⟨opened, held⟩ := lexer
      cases nests
      have read : Lexer.read ⟨[], held⟩ sign =
          (Lexer.finish ⟨[], held⟩ ++ [.sign sign], start) := by
        simp [Lexer.read, free, notWord, notBlank]
      rw [List.nil_append, lexemes, lexemes, read, List.append_assoc]
      rfl
  | cons character first ih =>
      obtain ⟨left, step, ofFirst⟩ := Option.bind_eq_some_iff.mp nests
      rw [← opened_read step] at ofFirst
      rw [List.cons_append, lexemes, lexemes, ih ofFirst, List.append_assoc]

end Lexer

theorem lexemes_push_sign {first : String} {sign : Char} (nested : WellNested first)
    (free : Mark.of sign = .neither) (notWord : isWord sign = false)
    (notBlank : sign.isWhitespace = false) (second : String) :
    lexemes (first.push sign ++ second) = lexemes first ++ .sign sign :: lexemes second := by
  have read : nesting Lexer.start.opened first.toList = some [] := nested
  rw [lexemes, String.toList_append, String.toList_push, List.append_assoc]
  exact Lexer.lexemes_append_sign read free notWord notBlank second.toList

theorem lexemes_push_comma {first : String} (nested : WellNested first) (second : String) :
    lexemes (first.push ',' ++ second) = lexemes first ++ .sign ',' :: lexemes second :=
  lexemes_push_sign nested (by decide) (by decide) (by decide) second

/-- All brackets of the text are its own, and no comma divides it outside of them. -/
structure Closed (text : String) : Prop where
  nested : WellNested text
  undivided : .sign ',' ∉ lexemes text

instance (text : String) : Decidable (Closed text) :=
  decidable_of_iff (WellNested text ∧ .sign ',' ∉ lexemes text)
    ⟨fun ⟨nested, undivided⟩ => ⟨nested, undivided⟩,
      fun ⟨nested, undivided⟩ => ⟨nested, undivided⟩⟩

/-- The text in front of an argument, and what of it stands in the same bracket between the same
commas. -/
inductive InFront : String → String → Prop
  | whole {lead : String} (closed : Closed lead) : InFront lead lead
  | behind (outer : String) {divider : Char} (divides : divider = '(' ∨ divider = ',')
      {lead : String} (closed : Closed lead) : InFront (outer.push divider ++ lead) lead

/-- The text behind an argument, and what of it stands in the same bracket between the same
commas. -/
inductive Behind : String → String → Prop
  | whole {follow : String} (closed : Closed follow) : Behind follow follow
  | before {follow : String} (closed : Closed follow) {divider : Char}
      (divides : divider = ')' ∨ divider = ',') (outer : String) :
      Behind (follow.push divider ++ outer) follow

/-- A closed text that ends in another has no open bracket and no comma in front of that. -/
theorem Closed.not_behind {outer lead : String} {divider : Char}
    (divides : divider = '(' ∨ divider = ',') (closed : Closed (outer.push divider ++ lead))
    (nested : WellNested lead) : False := by
  obtain ⟨ofWhole, undivided⟩ := closed
  have read := ofWhole
  rw [WellNested, nest_append] at read
  obtain ⟨opened, ofFront, ofLead⟩ := Option.bind_eq_some_iff.mp read
  rw [nested.nest_eq] at ofLead
  cases ofLead
  rw [nest, String.toList_push, nesting_append] at ofFront
  obtain ⟨opened, ofOuter, ofDivider⟩ := Option.bind_eq_some_iff.mp ofFront
  rcases divides with rfl | rfl
  · cases ofDivider
  · cases ofDivider
    rw [lexemes_push_comma ofOuter] at undivided
    simp at undivided

/-- A closed text that begins with another closes no bracket and has no comma behind that. -/
theorem Closed.not_before {follow outer : String} {divider : Char}
    (divides : divider = ')' ∨ divider = ',') (closed : Closed (follow.push divider ++ outer))
    (nested : WellNested follow) : False := by
  obtain ⟨ofWhole, undivided⟩ := closed
  rcases divides with rfl | rfl
  · have closes : nest [] (follow.push ')') = none := by
      have read : nesting [] follow.toList = some [] := nested
      rw [nest, String.toList_push, nesting_append, read]
      rfl
    rw [WellNested, nest_append, closes] at ofWhole
    cases ofWhole
  · rw [lexemes_push_comma nested] at undivided
    simp at undivided

/-- Where a list is divided twice, it is so in one place, or one place comes behind the other. -/
theorem append_cons_eq_append_cons {α : Type} {outer outer' inner inner' : List α}
    {divider divider' : α} (same : outer ++ divider :: inner = outer' ++ divider' :: inner') :
    (outer = outer' ∧ inner = inner') ∨
      (∃ between, outer' = outer ++ divider :: between ∧ inner = between ++ divider' :: inner') ∨
      ∃ between, outer = outer' ++ divider' :: between ∧ inner' = between ++ divider :: inner := by
  rcases List.append_eq_append_iff.mp same with
    ⟨between, isOuter, rest⟩ | ⟨between, isOuter, rest⟩
  · cases between with
    | nil =>
        cases rest
        exact .inl ⟨by rw [isOuter, List.append_nil], rfl⟩
    | cons first between =>
        cases rest
        exact .inr (.inl ⟨between, isOuter, rfl⟩)
  · cases between with
    | nil =>
        cases rest
        exact .inl ⟨by rw [isOuter, List.append_nil], rfl⟩
    | cons first between =>
        cases rest
        exact .inr (.inr ⟨between, isOuter, rfl⟩)

theorem push_append_eq_iff {outer inner outer' inner' : String} {divider divider' : Char} :
    outer.push divider ++ inner = outer'.push divider' ++ inner' ↔
      outer.toList ++ divider :: inner.toList = outer'.toList ++ divider' :: inner'.toList := by
  rw [← String.toList_inj]
  simp only [String.toList_append, String.toList_push, List.append_assoc, List.singleton_append]

/-- What is in front of an argument belongs to it from one place on only. -/
theorem InFront.unique {before lead lead' : String} (leads : InFront before lead)
    (leads' : InFront before lead') : lead = lead' := by
  cases leads with
  | whole closed =>
      cases leads' with
      | whole closed' => rfl
      | behind outer divides closed' => exact (closed.not_behind divides closed'.nested).elim
  | @behind outer divider divides _ closed =>
      generalize same : outer.push divider ++ lead = before at leads'
      cases leads' with
      | whole closed' =>
          subst same
          exact (closed'.not_behind divides closed.nested).elim
      | @behind outer' divider' divides' _ closed' =>
          rcases append_cons_eq_append_cons (push_append_eq_iff.mp same) with
            ⟨-, isSame⟩ | ⟨between, -, isLonger⟩ | ⟨between, -, isLonger⟩
          · exact String.toList_inj.mp isSame
          · have split : lead = (String.ofList between).push divider' ++ lead' := by
              simp [← String.toList_inj, isLonger]
            rw [split] at closed
            exact (closed.not_behind divides' closed'.nested).elim
          · have split : lead' = (String.ofList between).push divider ++ lead := by
              simp [← String.toList_inj, isLonger]
            rw [split] at closed'
            exact (closed'.not_behind divides closed.nested).elim

/-- What is behind an argument belongs to it up to one place only. -/
theorem Behind.unique {after follow follow' : String} (follows : Behind after follow)
    (follows' : Behind after follow') : follow = follow' := by
  cases follows with
  | whole closed =>
      cases follows' with
      | whole closed' => rfl
      | before closed' divides outer => exact (closed.not_before divides closed'.nested).elim
  | @before _ closed divider divides outer =>
      generalize same : follow.push divider ++ outer = after at follows'
      cases follows' with
      | whole closed' =>
          subst same
          exact (closed'.not_before divides closed.nested).elim
      | @before _ closed' divider' divides' outer' =>
          rcases append_cons_eq_append_cons (push_append_eq_iff.mp same) with
            ⟨isSame, -⟩ | ⟨between, isLonger, -⟩ | ⟨between, isLonger, -⟩
          · exact String.toList_inj.mp isSame
          · have split : follow' = follow.push divider ++ String.ofList between := by
              simp [← String.toList_inj, isLonger]
            rw [split] at closed'
            exact (closed'.not_before divides closed.nested).elim
          · have split : follow = follow'.push divider' ++ String.ofList between := by
              simp [← String.toList_inj, isLonger]
            rw [split] at closed
            exact (closed.not_before divides' closed'.nested).elim

end TypedQuery.Sql
