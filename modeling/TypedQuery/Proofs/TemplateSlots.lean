/-
Module: TypedQuery.Proofs.TemplateSlots
Purpose: What stands beside the slots of the templates. Almost every slot is between a bracket or a
  comma and another, where an argument is one operand whatever its operators are. Three slots stand
  beside an operator of their template, which leaves room for tighter operators only.
Main exports: roomBetween, oneOperand_iff, Method.slotRoom, Template.ReadsSlot,
  Template.readsSlot_of_template?, Template.readsSlot_of_propertyTemplate?
-/
import TypedQuery.Proofs.DateDifferences
import TypedQuery.Proofs.OperandReading
import TypedQuery.Proofs.TermNesting

namespace TypedQuery.Sql

/-! ### Room for an argument -/

/-- How loose an argument between the two texts may be: tighter than the operator in front of it,
and no looser than the one behind it. -/
def roomBetween (lead follow : String) : Nat :=
  min (((lexemes lead).getLast?.map fun op => op.looseness - 1).getD 6)
    (((lexemes follow).head?.map Lexeme.looseness).getD 6)

theorem Lexeme.looseness_le_seven (lexeme : Lexeme) : lexeme.looseness ≤ 7 := by
  unfold Lexeme.looseness
  split <;> decide

/-- An argument is read as one operand if it fits in. -/
theorem oneOperand_iff {lead argument follow : String}
    (apart : lexemes (lead ++ argument ++ follow) =
      lexemes lead ++ lexemes argument ++ lexemes follow)
    (ofLead : ∀ op ∈ (lexemes lead).getLast?, 1 ≤ op.looseness)
    (ofFollow : ∀ op ∈ (lexemes follow).head?, 2 ≤ op.looseness) :
    OneOperand lead argument follow ↔
      lexemes argument ≠ [] ∧ looseness argument ≤ roomBetween lead follow := by
  have front : (∀ op ∈ (lexemes lead).getLast?,
        lexemes argument <+: rightOperand op (lexemes argument ++ lexemes follow)) ↔
      ∀ op ∈ (lexemes lead).getLast?, looseness argument ≤ op.looseness - 1 := by
    refine forall₂_congr fun op present => ?_
    have positive := ofLead op present
    rw [prefix_rightOperand_iff, looseness_le_iff]
    exact forall₂_congr fun lexeme _ => by omega
  have back : (∀ op ∈ (lexemes follow).head?,
        lexemes argument <:+ leftOperand op (lexemes lead ++ lexemes argument)) ↔
      ∀ op ∈ (lexemes follow).head?, looseness argument ≤ op.looseness := by
    refine forall₂_congr fun op present => ?_
    rw [suffix_leftOperand_iff, looseness_le_iff, forall_behindSign_iff (ofFollow op present)]
  have room : looseness argument ≤ roomBetween lead follow ↔ looseness argument ≤ 6 ∧
      (∀ op ∈ (lexemes lead).getLast?, looseness argument ≤ op.looseness - 1) ∧
      ∀ op ∈ (lexemes follow).head?, looseness argument ≤ op.looseness := by
    unfold roomBetween
    cases last : (lexemes lead).getLast? with
    | none => cases first : (lexemes follow).head? <;> simp
    | some op =>
        have atMost := op.looseness_le_seven
        cases first : (lexemes follow).head? with
        | none => simp; omega
        | some op' => simp; omega
  constructor
  · intro one
    exact ⟨one.written, room.mpr
      ⟨undivided_iff.mp one.undivided, front.mp one.ofLead, back.mp one.ofFollow⟩⟩
  · rintro ⟨written, fits⟩
    obtain ⟨undivided, tighter, noLooser⟩ := room.mp fits
    exact ⟨apart, written, undivided_iff.mpr undivided, front.mpr tighter, back.mpr noLooser⟩

/-! ### Slots -/

namespace Template

/-- The slots among the pieces, each with what is in front of it and what is behind it. -/
def slotPlaces : List Piece → List Piece → List (List Piece × Nat × List Piece)
  | _, [] => []
  | front, .char character :: rest => slotPlaces (front ++ [.char character]) rest
  | front, .slot index :: rest => (front, index, rest) :: slotPlaces (front ++ [.slot index]) rest

theorem mem_slotPlaces (before front : List Piece) (index : Nat) (back : List Piece) :
    (before ++ front, index, back) ∈ slotPlaces before (front ++ .slot index :: back) := by
  induction front generalizing before with
  | nil =>
      rw [List.append_nil, List.nil_append, slotPlaces]
      exact .head _
  | cons piece rest ih =>
      have later := ih (before ++ [piece])
      rw [List.append_assoc, List.singleton_append] at later
      cases piece with
      | char character =>
          rw [List.cons_append, slotPlaces]
          exact later
      | slot other =>
          rw [List.cons_append, slotPlaces]
          exact .tail _ later

theorem fill_append (first second : List Piece) (args : List String) :
    fill ⟨first ++ second⟩ args = fill ⟨first⟩ args ++ fill ⟨second⟩ args := by
  rw [fill, fill, fill, List.flatMap_append, String.ofList_append]

theorem fill_literally (characters : List Char) (args : List String) :
    fill ⟨literally characters⟩ args = String.ofList characters := by
  rw [fill, flatMap_literally]

/-- The pieces in front end in a bracket or a comma, and those behind begin with one. -/
def Delimited (front back : List Piece) : Prop :=
  ([.char '('] <:+ front ∨ [.char ',', .char ' '] <:+ front) ∧
    ([.char ')'] <+: back ∨ [.char ','] <+: back)

instance (front back : List Piece) : Decidable (Delimited front back) :=
  inferInstanceAs (Decidable (_ ∧ _))

theorem closed_blank : Closed " " := by decide

theorem closed_empty : Closed "" := by decide

variable {front back : List Piece}

/-- Behind an opening bracket or a comma, nothing but a blank belongs to the argument. -/
theorem leads_of_opens (opens : [.char '('] <:+ front ∨ [.char ',', .char ' '] <:+ front)
    (args : List String) :
    ∃ lead, (lead = "" ∨ lead = " ") ∧ InFront (fill ⟨front⟩ args) lead := by
  rcases opens with ⟨outer, rfl⟩ | ⟨outer, rfl⟩
  · refine ⟨"", .inl rfl, ?_⟩
    have form : fill ⟨outer ++ [.char '(']⟩ args = (fill ⟨outer⟩ args).push '(' ++ "" := by
      rw [fill_append, ← String.toList_inj]
      simp [fill, fillPiece]
    rw [form]
    exact .behind _ (.inl rfl) closed_empty
  · refine ⟨" ", .inr rfl, ?_⟩
    have form : fill ⟨outer ++ [.char ',', .char ' ']⟩ args =
        (fill ⟨outer⟩ args).push ',' ++ " " := by
      rw [fill_append, ← String.toList_inj]
      simp [fill, fillPiece]
    rw [form]
    exact .behind _ (.inr rfl) closed_blank

/-- In front of a closing bracket or a comma, nothing belongs to the argument. -/
theorem follows_of_closes (closes : [.char ')'] <+: back ∨ [.char ','] <+: back)
    (args : List String) : Behind (fill ⟨back⟩ args) "" := by
  rcases closes with ⟨outer, rfl⟩ | ⟨outer, rfl⟩
  · have form : fill ⟨[.char ')'] ++ outer⟩ args = "".push ')' ++ fill ⟨outer⟩ args := by
      rw [fill_append, ← String.toList_inj]
      simp [fill, fillPiece]
    rw [form]
    exact .before closed_empty (.inl rfl) _
  · have form : fill ⟨[.char ','] ++ outer⟩ args = "".push ',' ++ fill ⟨outer⟩ args := by
      rw [fill_append, ← String.toList_inj]
      simp [fill, fillPiece]
    rw [form]
    exact .before closed_empty (.inr rfl) _

/-- What is in front of the slots that stand beside an operator, what is behind them, and the room
for an argument: behind a product, in front of a sum, in front of a test for membership. -/
def exposedSlots : List (List Piece × List Piece × Nat) := [
  (literally "FLOOR(RAND()*".toList, literally ")".toList, 0),
  (literally "SUBSTRING(".toList ++ .slot 0 :: literally ", ".toList,
    literally " + 1,".toList ++ (literally " ".toList ++ .slot 2 :: literally ")".toList), 2),
  ([], literally " IN (".toList ++ .slot 0 :: literally ")".toList, 3)]

end Template

end TypedQuery.Sql

namespace TypedQuery

open Sql

/-- The room for an argument in a slot of a method. Three slots stand beside an operator of the
template; in any other, whatever holds together is one operand. -/
def Method.slotRoom (method : Method) (index : Nat) : Nat :=
  match method.owner, method.name, index with
  | .random, "Next", 1 => 0
  | .string, "Substring", 1 => 2
  | .query, "Contains", 1 => 3
  | _, _, _ => 6

namespace Sql.Template

/-- Wherever the slot occurs in the template, the argument in it is read as one operand just if it
fits into the room. What stands beside it in the same bracket between the same commas may hold other
arguments. -/
def ReadsSlot (template : Template) (args : List String) (index room : Nat) (argument : String) :
    Prop :=
  ∀ front back, template.pieces = front ++ .slot index :: back →
    ∃ lead follow, InFront (fill ⟨front⟩ args) lead ∧ Behind (fill ⟨back⟩ args) follow ∧
      (OneOperand lead argument follow ↔ lexemes argument ≠ [] ∧ looseness argument ≤ room)

variable {front back : List Piece} {args : List String} {argument : String}

/-- Behind a blank at most, the room is what the operator behind the argument leaves. -/
theorem oneOperand_behind_blank {lead follow : String} (blank : lead = "" ∨ lead = " ")
    (nested : WellNested argument) (apart : follow = "" ∨ ∃ rest, follow = " " ++ rest)
    (ofFollow : ∀ op ∈ (lexemes follow).head?, 2 ≤ op.looseness) :
    OneOperand lead argument follow ↔
      lexemes argument ≠ [] ∧ looseness argument ≤ roomBetween "" follow := by
  have none : lexemes "" = [] := rfl
  have ofLead : lexemes lead = [] := by rcases blank with rfl | rfl <;> rfl
  have behind : WellNested (lead ++ argument) ∧ lexemes (lead ++ argument) = lexemes argument := by
    rcases blank with rfl | rfl
    · rw [String.empty_append]
      exact ⟨nested, rfl⟩
    · exact ⟨(by decide : WellNested " ").append nested,
        lexemes_append_blank (by decide : WellNested "") argument⟩
  have room : roomBetween lead follow = roomBetween "" follow := by
    rw [roomBetween, roomBetween, ofLead, none]
  rw [← room]
  refine oneOperand_iff ?_ (by rw [ofLead]; nofun) ofFollow
  rw [ofLead, List.nil_append]
  rcases apart with rfl | ⟨rest, rfl⟩
  · rw [String.append_empty, behind.2, none, List.append_nil]
  · have first := lexemes_append_blank behind.1 rest
    have second : lexemes (" " ++ rest) = lexemes rest :=
      lexemes_append_blank (by decide : WellNested "") rest
    rw [second, ← behind.2, ← first]
    simp only [String.append_assoc]

/-- Between brackets and commas there is room for everything. -/
theorem readsBetween_of_delimited (delimited : Delimited front back)
    (ofArgument : WellNested argument) :
    ∃ lead follow, InFront (fill ⟨front⟩ args) lead ∧ Behind (fill ⟨back⟩ args) follow ∧
      (OneOperand lead argument follow ↔ lexemes argument ≠ [] ∧ looseness argument ≤ 6) := by
  obtain ⟨opens, closes⟩ := delimited
  obtain ⟨lead, blank, leads⟩ := leads_of_opens opens args
  exact ⟨lead, "", leads, follows_of_closes closes args,
    oneOperand_behind_blank blank ofArgument (.inl rfl) nofun⟩

/-- As the right operand of a product. -/
theorem readsBetween_of_factor :
    ∃ lead follow, InFront (fill ⟨literally "FLOOR(RAND()*".toList⟩ args) lead ∧
      Behind (fill ⟨literally ")".toList⟩ args) follow ∧
      (OneOperand lead argument follow ↔ lexemes argument ≠ [] ∧ looseness argument ≤ 0) := by
  refine ⟨"RAND()*", "", ?_, follows_of_closes (.inl ⟨[], rfl⟩) args, ?_⟩
  · rw [fill_literally]
    exact .behind "FLOOR" (.inl rfl) (by decide : Closed "RAND()*")
  · have room : roomBetween "RAND()*" "" = 0 := by decide
    have none : lexemes "" = [] := rfl
    rw [← room]
    refine oneOperand_iff ?_ (by decide) nofun
    have product : lexemes ("RAND()".push '*' ++ argument) =
        lexemes "RAND()" ++ .sign '*' :: lexemes argument :=
      lexemes_push_sign (by decide) (by decide) (by decide) (by decide) argument
    have isLead : lexemes "RAND()*" = lexemes "RAND()" ++ [.sign '*'] := by decide
    have form : "RAND()*" = "RAND()".push '*' := by decide
    rw [String.append_empty, none, List.append_nil, isLead, List.append_assoc, form]
    exact product

/-- As the left operand of a sum. -/
theorem readsBetween_of_summand (ofArgument : WellNested argument) (rest : List Piece) :
    ∃ lead follow,
      InFront (fill ⟨literally "SUBSTRING(".toList ++ .slot 0 :: literally ", ".toList⟩ args) lead ∧
      Behind (fill ⟨literally " + 1,".toList ++ rest⟩ args) follow ∧
      (OneOperand lead argument follow ↔ lexemes argument ≠ [] ∧ looseness argument ≤ 2) := by
  have opens : [.char ',', .char ' '] <:+
      literally "SUBSTRING(".toList ++ .slot 0 :: literally ", ".toList := by decide +kernel
  obtain ⟨lead, blank, leads⟩ := leads_of_opens (.inr opens) args
  refine ⟨lead, " + 1", leads, ?_, ?_⟩
  · rw [fill_append, fill_literally]
    exact .before (by decide : Closed " + 1") (.inr rfl) _
  · have room : roomBetween "" " + 1" = 2 := by decide
    rw [← room]
    exact oneOperand_behind_blank blank ofArgument (.inr ⟨"+ 1", rfl⟩) (by decide)

/-- As the left operand of a test for membership. -/
theorem readsBetween_of_member (nested : ∀ arg ∈ args, WellNested arg)
    (ofArgument : WellNested argument) :
    ∃ lead follow, InFront (fill ⟨[]⟩ args) lead ∧
      Behind (fill ⟨literally " IN (".toList ++ .slot 0 :: literally ")".toList⟩ args) follow ∧
      (OneOperand lead argument follow ↔ lexemes argument ≠ [] ∧ looseness argument ≤ 3) := by
  have ofList : WellNested (slotText args 0) := by
    rw [slotText]
    cases found : args[0]? with
    | none => decide
    | some arg => exact nested arg (List.mem_of_getElem? found)
  have form : fill ⟨literally " IN (".toList ++ .slot 0 :: literally ")".toList⟩ args =
      " " ++ ("IN" ++ " " ++ ("(" ++ slotText args 0 ++ ")")) := by
    rw [fill_append, fill_literally, ← String.toList_inj, fill, List.flatMap_cons, fillPiece_slot,
      flatMap_literally]
    simp only [String.toList_append, String.toList_ofList, List.append_assoc]
    rfl
  have isLexemes : lexemes (" " ++ ("IN" ++ " " ++ ("(" ++ slotText args 0 ++ ")"))) =
      [.word "IN", .enclosed .round (slotText args 0)] := by
    have first := lexemes_append_blank (by decide : WellNested "")
      ("IN" ++ " " ++ ("(" ++ slotText args 0 ++ ")"))
    have second := lexemes_append_blank (by decide : WellNested "IN")
      ("(" ++ slotText args 0 ++ ")")
    rw [lexemes_parenthesised ofList] at second
    rw [second] at first
    exact first
  rw [form]
  refine ⟨"", _, .whole closed_empty, .whole ⟨?_, ?_⟩, ?_⟩
  · have keyword : WellNested ("IN" ++ " ") := by decide
    have enclosed : WellNested ("(" ++ slotText args 0 ++ ")") := ofList.between (by decide)
    exact (by decide : WellNested " ").append (keyword.append enclosed)
  · rw [isLexemes]
    simp
  · have room : roomBetween "" (" " ++ ("IN" ++ " " ++ ("(" ++ slotText args 0 ++ ")"))) = 3 := by
      rw [roomBetween, isLexemes]
      rfl
    rw [← room]
    refine oneOperand_behind_blank (.inl rfl) ofArgument (.inr ⟨_, rfl⟩) ?_
    rw [isLexemes]
    simp [Lexeme.looseness]

/-- What the two sides of a slot make of an argument. -/
theorem readsBetween {room : Nat} (nested : ∀ arg ∈ args, WellNested arg)
    (ofArgument : WellNested argument)
    (place : Delimited front back ∧ room = 6 ∨ (front, back, room) ∈ exposedSlots) :
    ∃ lead follow, InFront (fill ⟨front⟩ args) lead ∧ Behind (fill ⟨back⟩ args) follow ∧
      (OneOperand lead argument follow ↔ lexemes argument ≠ [] ∧ looseness argument ≤ room) := by
  rcases place with ⟨delimited, rfl⟩ | exposed
  · exact readsBetween_of_delimited delimited ofArgument
  · rw [exposedSlots, List.mem_cons, List.mem_cons, List.mem_singleton] at exposed
    rcases exposed with isFactor | isSummand | isMember
    · cases isFactor
      exact readsBetween_of_factor
    · cases isSummand
      exact readsBetween_of_summand ofArgument _
    · cases isMember
      exact readsBetween_of_member nested ofArgument

/-- The slots of the methods are those that are delimited, and the three that are not. -/
theorem readsSlot_of_template? {method : Method} {template : Template}
    (found : method.template? = some template) (nested : ∀ arg ∈ args, WellNested arg) (index : Nat)
    (ofArgument : WellNested argument) :
    template.ReadsSlot args index (method.slotRoom index) argument := by
  have all : ∀ entry ∈ methods, ∀ place ∈ slotPlaces [] (Template.parse entry.2).pieces,
      Delimited place.1 place.2.2 ∧ entry.1.slotRoom place.2.1 = 6 ∨
        (place.1, place.2.2, entry.1.slotRoom place.2.1) ∈ exposedSlots := by
    decide +kernel
  obtain ⟨entry, present, isAnswer, rfl⟩ := Method.template?_eq_some found
  have sameRoom : entry.1.slotRoom index = method.slotRoom index := by
    unfold Method.slotRoom
    rw [(answers_names isAnswer).1, (answers_names isAnswer).2]
  intro front back isPieces
  have isPlace := mem_slotPlaces [] front index back
  rw [List.nil_append, ← isPieces] at isPlace
  have place := all entry present _ isPlace
  rw [sameRoom] at place
  exact readsBetween nested ofArgument place

/-- The slots of the properties are delimited. -/
theorem readsSlot_of_propertyTemplate? {owner : Kind} {name : String} {template : Template}
    (found : propertyTemplate? owner name = some template) (index : Nat)
    (ofArgument : WellNested argument) : template.ReadsSlot args index 6 argument := by
  have all : ∀ entry ∈ properties, ∀ place ∈ slotPlaces [] (Template.parse entry.2.2).pieces,
      Delimited place.1 place.2.2 := by
    decide +kernel
  obtain ⟨entry, present, -, -, rfl⟩ := propertyTemplate?_eq_some found
  intro front back isPieces
  have isPlace := mem_slotPlaces [] front index back
  rw [List.nil_append, ← isPieces] at isPlace
  exact readsBetween_of_delimited (all entry present _ isPlace) ofArgument

end Sql.Template

end TypedQuery
