/-
Module: TypedQuery.Proofs.DateDifferences
Purpose: Differences of dates and the accessors that read them. The template of the subtraction has
  a slot for the unit in front of its operands; an accessor fills it. Nothing keeps a subtraction
  from standing alone, where its operands move up and the last slot stays empty, nor an accessor
  from reading another call, whose operands move down.
Main exports: Sql.Template.fill_subtraction, Expr.DateDifferences,
  Sql.Scope.GivesAs.dateDifferences, Expr.compile_dateDifferences
-/
import TypedQuery.Proofs.NullTests
import TypedQuery.Proofs.TemplateFilling
import TypedQuery.Proofs.UnsupportedOnly

namespace TypedQuery

open Sql Sql.Compile

namespace Sql

/-! ### The template of the subtraction -/

def subtraction : Method := ⟨.dateTime, "Subtract", [.dateTime]⟩

/-- Unit, end and start, in the order in which an accessor fills them in. -/
def subtractionTemplate : Template := .parse "DATEDIFF({0}, {2}, {1})"

theorem template?_subtraction : subtraction.template? = some subtractionTemplate := by
  decide +kernel

/-- No other method has the template. -/
theorem eq_subtraction {method : Method} (found : method.template? = some subtractionTemplate) :
    method = subtraction := by
  have all : ∀ entry ∈ methods, Template.parse entry.2 = subtractionTemplate →
      entry.1 = subtraction := by decide +kernel
  obtain ⟨entry, present, isAnswer, isTemplate⟩ := Method.template?_eq_some found
  have isEntry := all entry present isTemplate
  simp only [answers, isEntry, Bool.and_eq_true, Bool.or_eq_true, beq_iff_eq] at isAnswer
  obtain ⟨⟨isOwner, isName⟩, sameParams | ⟨isGeneric, -⟩⟩ := isAnswer
  · obtain ⟨owner, name, params⟩ := method
    cases isOwner
    cases isName
    cases sameParams
    rfl
  · rw [← isOwner] at isGeneric
    cases isGeneric

/-- No property has it. -/
theorem ne_subtraction {owner : Kind} {name : String} {template : Template}
    (found : propertyTemplate? owner name = some template) : template ≠ subtractionTemplate := by
  have all : ∀ entry ∈ properties, Template.parse entry.2.2 ≠ subtractionTemplate := by
    decide +kernel
  obtain ⟨entry, present, -, -, rfl⟩ := propertyTemplate?_eq_some found
  exact all entry present

namespace Template

/-- The subtraction with its slots filled. -/
theorem fill_subtraction (args : List String) :
    subtractionTemplate.fill args =
      "DATEDIFF(" ++ slotText args 0 ++ ", " ++ slotText args 2 ++ ", " ++ slotText args 1 ++
        ")" := by
  have pieces : subtractionTemplate.pieces =
      literally "DATEDIFF(".toList ++ .slot 0 :: (literally ", ".toList ++ .slot 2 ::
        (literally ", ".toList ++ .slot 1 :: literally ")".toList)) := by decide +kernel
  rw [← String.toList_inj, fill, pieces, String.toList_ofList]
  simp only [List.flatMap_append, List.flatMap_cons, flatMap_literally, fillPiece_slot,
    String.toList_append, List.append_assoc]

end Template

/-- A duration as a double is converted. -/
def durationText (ty : Ty) (text : String) : String :=
  if ty = .double then "CONVERT(FLOAT, " ++ text ++ ")" else text

theorem text_durationTerm (ty : Ty) (term : Term) :
    (durationTerm ty term).text = durationText ty term.text := by
  unfold durationTerm durationText
  split <;> rfl

end Sql

theorem Sql.Term.text_subtraction (slots : List Term) :
    (Term.apply subtractionTemplate slots).text =
      "DATEDIFF(" ++ Template.slotText (slots.map Term.text) 0 ++ ", " ++
        Template.slotText (slots.map Term.text) 2 ++ ", " ++
        Template.slotText (slots.map Term.text) 1 ++ ")" := by
  rw [Term.text_apply, Template.fill_subtraction]

/-! ### Accessors -/

/-- What an accessor reads: a call that the catalogue has, whose template it fills behind its
unit. -/
structure Expr.Accesses (scope : Scope) (target : Option Expr) (name : Member) (unit : String)
    (template : Template) (slots : List Term) : Prop where
  isUnit : durationUnit? name.name = some unit
  reads : ∃ callee method args callTy calleeTerm terms,
    target = some (.call callee method args callTy) ∧ method.template? = some template ∧
      scope.TargetGives callee calleeTerm ∧ List.Forall₂ (scope.GivesAs false) args terms ∧
      slots = calleeTerm :: terms

namespace Sql.Scope

variable {scope : Scope} {condition : Bool} {term : Term}

/-- An accessor is refused unless it reads a call. -/
theorem Makes.accesses {target : Option Expr} {name : Member} {ty : Ty}
    (makes : scope.Makes condition (.member target name ty) term)
    (timed : name.owner = .timeSpan) :
    ∃ unit template slots, Expr.Accesses scope target name unit template slots ∧
      term = durationTerm ty (.apply template (.word unit :: slots)) := by
  cases makes with
  | key isKey =>
      have unkeyed : scope.groupKeyOf? name = none := groupKeyOf?_eq_none scope (by rw [timed]; rfl)
      rw [unkeyed] at isKey
      cases isKey
  | duration timed isUnit found ofCallee ofArgs =>
      exact ⟨_, _, _, ⟨isUnit, _, _, _, _, _, _, rfl, found, ofCallee, ofArgs, rfl⟩, rfl⟩
  | captured untimed => exact absurd timed untimed
  | property untimed => exact absurd timed untimed
  | column _ _ untimed => exact absurd timed untimed
  | keptColumn untimed => exact absurd timed untimed

end Sql.Scope

/-- Units are not empty. -/
theorem Sql.ne_empty_of_durationUnit? {name unit : String}
    (found : durationUnit? name = some unit) : unit ≠ "" := by
  have all : ∀ entry ∈ durations, entry.2 ≠ "" := by decide
  obtain ⟨entry, present, -, rfl⟩ := durationUnit?_eq_some found
  exact all entry present

/-! ### Differences -/

/-- The term of an operand of a difference. It is empty only if the operand writes nothing; what the
group key writes apart. -/
structure Expr.OperandTerm (scope : Scope) (operand : Expr) (term : Term) : Prop where
  given : scope.GivesAs false operand term
  empty_iff : scope.KeyNever "" → (term.text = "" ↔ operand.IsBlank)

theorem Sql.Scope.GivesAs.operandTerm {scope : Scope} {operand : Expr} {term : Term}
    (gives : scope.GivesAs false operand term) : operand.OperandTerm scope term :=
  ⟨gives, gives.text_eq_empty_iff⟩

/-- Differences of dates in the term of an expression. -/
structure Expr.DateDifferences (scope : Scope) (whole : Expr) (term : Term) : Prop where
  /-- An accessor reads a call of the catalogue and puts its unit in the first slot, whatever the
  template has that for. -/
  accessor : ∀ place target name ty, name.owner = .timeSpan →
    whole.Renders place (.member target name ty) →
    ∃ unit template slots part, Expr.Accesses scope target name unit template slots ∧
      term.partAt? place = some part ∧
      part.text = durationText ty (template.fill (unit :: slots.map Term.text))
  /-- A subtraction that an accessor reads has unit, start and end. -/
  read : ∀ place later earlier name ty,
    whole.Renders place ((Expr.subtract later earlier).duration name ty) →
    ∃ (unit : String) (endTerm startTerm part : Term), durationUnit? name = some unit ∧ unit ≠ "" ∧
      later.OperandTerm scope endTerm ∧ earlier.OperandTerm scope startTerm ∧
      term.partAt? place = some part ∧
      part.text = durationText ty
        ("DATEDIFF(" ++ unit ++ ", " ++ startTerm.text ++ ", " ++ endTerm.text ++ ")")
  /-- Any other subtraction has its end in the place of the unit, and nothing in the place of its
  start. -/
  alone : ∀ place later earlier, whole.Renders place (Expr.subtract later earlier) →
    ∃ endTerm startTerm part : Term, later.OperandTerm scope endTerm ∧
      earlier.OperandTerm scope startTerm ∧ term.partAt? place = some part ∧
      part.text = "DATEDIFF(" ++ endTerm.text ++ ", , " ++ startTerm.text ++ ")"
  /-- Every difference comes from a subtraction, read or alone, or is a part of the group key. -/
  only : ∀ place slots, term.partAt? place = some (.apply subtractionTemplate slots) →
    (∃ target args ty, whole.Renders place (.call target subtraction args ty)) ∨
    (∃ callee args callTy name ty outer, name.owner = .timeSpan ∧
      whole.Renders outer (.member (some (.call callee subtraction args callTy)) name ty) ∧
      outer ++ durationPlace ty = place) ∨
    ∃ target name ty key outer inner, scope.groupKeyOf? name = some key ∧
      whole.Renders outer (.member target name ty) ∧ outer ++ inner = place ∧
      key.partAt? inner = some (.apply subtractionTemplate slots)

namespace Sql.Scope

variable {scope : Scope} {condition : Bool} {core expr : Expr} {term : Term}

/-- A subtraction on its own, or read by an accessor: its two operands. -/
theorem subtraction_operands {later earlier : Expr} {calleeTerm : Term} {terms : List Term}
    (ofCallee : scope.TargetGives (some later) calleeTerm)
    (ofArgs : List.Forall₂ (scope.GivesAs false) [earlier] terms) :
    later.OperandTerm scope calleeTerm ∧
      ∃ startTerm, earlier.OperandTerm scope startTerm ∧ terms = [startTerm] := by
  cases ofCallee with
  | given ofLater =>
      obtain ⟨startTerm, rest, ofEarlier, none, rfl⟩ := List.forall₂_cons_left_iff.mp ofArgs
      cases none
      exact ⟨ofLater.operandTerm, startTerm, ofEarlier.operandTerm, rfl⟩

/-- A node that fills the template of the subtraction is a subtraction, reads one, or is the key of
the groups. -/
theorem Makes.subtraction_cases {slots : List Term}
    (makes : scope.Makes condition core (.apply subtractionTemplate slots))
    (isCore : core.IsCore) :
    (∃ target args ty, core = .call target subtraction args ty) ∨
    (∃ callee args callTy name ty,
      core = .member (some (.call callee subtraction args callTy)) name ty ∧
        name.owner = .timeSpan ∧ durationPlace ty = []) ∨
    ∃ target name ty, core = .member target name ty ∧
      scope.groupKeyOf? name = some (.apply subtractionTemplate slots) := by
  generalize isApply : Term.apply subtractionTemplate slots = made at makes
  cases makes with
  | key isKey =>
      subst isApply
      exact .inr (.inr ⟨_, _, _, rfl, isKey⟩)
  | @duration callee method args callTy name ty unit template calleeTerm terms timed isUnit found =>
      unfold durationTerm at isApply
      split at isApply
      · cases isApply
      · rename_i notDouble
        cases isApply
        obtain rfl := eq_subtraction found
        exact .inr (.inl ⟨callee, args, callTy, name, ty, rfl, timed, if_neg notDouble⟩)
  | captured untimed done =>
      rcases Capture.compile_cases done with ⟨placeholder, rfl⟩ | ⟨query, -, statement, rfl, -⟩
      · cases isApply
      · cases isApply
  | property untimed notClosure found =>
      cases isApply
      exact absurd rfl (ne_subtraction found)
  | column param ty =>
      unfold paramColumn at isApply
      dsimp only at isApply
      split at isApply <;> cases isApply
  | call found =>
      cases isApply
      obtain rfl := eq_subtraction found
      exact .inl ⟨_, _, _, rfl⟩
  | lambda ofBody => exact absurd rfl (isCore _)
  | _ => cases isApply

theorem GivesAs.dateDifferences (gives : scope.GivesAs condition expr term) :
    expr.DateDifferences scope term where
  accessor := by
    intro place target name ty timed placed
    obtain ⟨part, wanted, foundAt, ofPart, -⟩ := gives.rendered placed
    obtain ⟨unit, template, slots, accesses, rfl⟩ := ofPart.makes.accesses timed
    refine ⟨unit, template, slots, _, accesses, foundAt, ?_⟩
    rw [text_durationTerm, Term.text_apply]
    rfl
  read := by
    intro place later earlier name ty placed
    obtain ⟨part, wanted, foundAt, ofPart, -⟩ := gives.rendered placed
    obtain ⟨unit, template, slots, accesses, rfl⟩ := ofPart.makes.accesses rfl
    obtain ⟨isUnit, callee, method, args, callTy, calleeTerm, terms, isCall, found, ofCallee,
      ofArgs, rfl⟩ := accesses
    cases isCall
    cases found.symm.trans template?_subtraction
    obtain ⟨ofLater, startTerm, ofEarlier, rfl⟩ := subtraction_operands ofCallee ofArgs
    refine ⟨unit, calleeTerm, startTerm, _, isUnit, ne_empty_of_durationUnit? isUnit, ofLater,
      ofEarlier, foundAt, ?_⟩
    rw [text_durationTerm, Term.text_subtraction]
    rfl
  alone := by
    intro place later earlier placed
    obtain ⟨part, wanted, foundAt, ofPart, -⟩ := gives.rendered placed
    cases ofPart.makes with
    | call found ofCallee ofArgs =>
        cases found.symm.trans template?_subtraction
        obtain ⟨ofLater, startTerm, ofEarlier, rfl⟩ := subtraction_operands ofCallee ofArgs
        refine ⟨_, startTerm, _, ofLater, ofEarlier, foundAt, ?_⟩
        have apart : ", , " = ", " ++ "" ++ ", " := rfl
        rw [Term.text_subtraction, apart]
        simp only [String.append_assoc]
        rfl
  only := by
    intro place slots foundAt
    cases gives.partFrom foundAt with
    | rendered isCore placed makes =>
        rcases makes.subtraction_cases isCore with
          ⟨target, args, ty, rfl⟩ | ⟨callee, args, callTy, name, ty, rfl, timed, atOnce⟩ |
            ⟨target, name, ty, rfl, isKey⟩
        · exact .inl ⟨target, args, ty, placed⟩
        · refine .inr (.inl ⟨callee, args, callTy, name, ty, place, timed, placed, ?_⟩)
          rw [atOnce, List.append_nil]
        · exact .inr (.inr ⟨target, name, ty, _, place, [], isKey, placed, List.append_nil _, rfl⟩)
    | durationCall placed isPlace timed isUnit found ofCallee ofArgs isPart =>
        cases isPart
        obtain rfl := eq_subtraction found
        exact .inr (.inl ⟨_, _, _, _, _, _, timed, placed, isPlace⟩)
    | key isKey placed isPlace isPart =>
        exact .inr (.inr ⟨_, _, _, _, _, _, isKey, placed, isPlace, isPart⟩)
    | filler isFiller => cases isFiller

end Sql.Scope

/-- Expressions with differences of dates. An expression whose captured queries were built is
compiled or has a fragment without an SQL form. Once compiled, accessors read calls of the
catalogue with the unit of their own name; a subtraction has its unit, its start and its end just
where an accessor reads it, and alone it is compiled as well, with an empty argument. -/
theorem Expr.compile_dateDifferences (scope : Scope) {expr : Expr}
    (captured : ∀ query ∈ expr.captured, query.Reachable) (condition : Bool)
    (progress : Progress) :
    (∃ term progress', expr.compile scope condition progress = .ok (term, progress') ∧
        expr.DateDifferences scope term) ∨
      ∃ fragment, expr.compile scope condition progress = .error (.unsupported fragment) := by
  have safe : ∀ query ∈ expr.captured, query.Safe := fun query present =>
    query.safe_of_namesBothSides (captured query present).namesBothSides
  cases outcome : expr.compile scope condition progress with
  | ok reached =>
      obtain ⟨term, progress'⟩ := reached
      have gives : scope.GivesAs condition expr term := ⟨progress, progress', outcome⟩
      exact .inl ⟨term, progress', rfl, gives.dateDifferences⟩
  | error error =>
      have onlyUnsupported := Expr.compile_onlyUnsupported scope condition expr safe
      obtain ⟨fragment, rfl⟩ := onlyUnsupported progress error outcome
      exact .inr ⟨fragment, rfl⟩

namespace Query

/-- Users with their dates of birth. -/
def birthTable : Query := .ofTable (.table "User" [⟨"Id", .int⟩, ⟨"BirthDate", .dateTime⟩])

def birthRow : Param := ⟨"u", birthTable.rowType⟩

def birthDate : Expr := (Expr.parameter birthRow).field "BirthDate"

/-- The time since birth in hours. -/
def ageInHours : Expr := (Expr.now.subtract birthDate).totalHours

/-- An accessor fills in its unit. -/
theorem ageInHours_dateDifferences :
    (∀ query ∈ ageInHours.captured, query.Reachable) ∧
      ∃ term progress,
        ageInHours.compile ⟨.identity, "", .start "", none⟩ false ⟨0, .empty⟩ =
          .ok (term, progress) ∧
        term.text = "CONVERT(FLOAT, DATEDIFF(hour, [u].[BirthDate], GETDATE()))" ∧
        ageInHours.DateDifferences ⟨.identity, "", .start "", none⟩ term := by
  have captured : ∀ query ∈ ageInHours.captured, query.Reachable := nofun
  obtain ⟨term, progress, done, isText⟩ : ∃ term progress,
      ageInHours.compile ⟨.identity, "", .start "", none⟩ false ⟨0, .empty⟩ =
        .ok (term, progress) ∧
      term.text = "CONVERT(FLOAT, DATEDIFF(hour, [u].[BirthDate], GETDATE()))" :=
    ⟨_, _, rfl, by decide +kernel⟩
  rcases Expr.compile_dateDifferences ⟨.identity, "", .start "", none⟩ captured false
      ⟨0, .empty⟩ with ⟨term', progress', done', differences⟩ | ⟨fragment, failed⟩
  · cases done.symm.trans done'
    exact ⟨captured, term, progress, done, isText, differences⟩
  · cases done.symm.trans failed

/-- The time since birth without a unit. -/
def agedUsers : List Call :=
  [.add (.filter ⟨[birthRow], (Expr.now.subtract birthDate).greaterThan (.literal (.int 1))⟩)]

/-- A subtraction that no accessor reads is compiled as well, without a unit and with an empty
argument. -/
theorem agedUsers_unit_mismatch :
    ∃ query node predicate command, run agedUsers birthTable = .ok query ∧ query.Reachable ∧
      query = .select node ∧ node.filters = [predicate] ∧
      predicate.body.Renders [0] (Expr.now.subtract birthDate) ∧
      query.toCommand .identity = .ok command ∧
      command.text =
        "SELECT * FROM [User] [u] WHERE (DATEDIFF(GETDATE(), , [u].[BirthDate])) > (@p0)" := by
  obtain ⟨node, command, ran, filters, done, isText⟩ :
      ∃ node command, run agedUsers birthTable = .ok (.select node) ∧
        node.filters = [⟨[birthRow],
          (Expr.now.subtract birthDate).greaterThan (.literal (.int 1))⟩] ∧
        (Query.select node).toCommand .identity = .ok command ∧
        command.text =
          "SELECT * FROM [User] [u] WHERE (DATEDIFF(GETDATE(), , [u].[BirthDate])) > (@p0)" :=
    ⟨_, _, rfl, rfl, rfl, by decide +kernel⟩
  have operands : ∀ call ∈ agedUsers, ∀ operand ∈ call.operands, Reachable operand := by
    simp [agedUsers, Call.operands, Clause.inner?, Clause.functions, Lambda.captured,
      Expr.captured, Expr.capturedTarget, Expr.capturedAll, Expr.subtract, Expr.greaterThan,
      Expr.now, Expr.clock, Expr.literal, birthDate, Expr.field]
  exact ⟨_, node, _, command, ran, Reachable.run (.table _) operands ran, rfl, filters,
    .left (.whole _), done, isText⟩

end Query

end TypedQuery
