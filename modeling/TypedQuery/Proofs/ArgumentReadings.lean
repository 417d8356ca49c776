/-
Module: TypedQuery.Proofs.ArgumentReadings
Purpose: How the arguments of calls and properties are read in their templates. A slot between
  brackets or commas holds any argument together. The bound of a random number stands bare behind a
  product, the beginning of a substring in front of a sum, and the item of a test for membership in
  front of the test: there an argument falls apart whose own operator is not tight enough.
Main exports: Template.Reads, Expr.ArgumentTerm, Expr.ReadsArguments, Expr.compile_arguments,
  Select.Steps.keyHeld
-/
import TypedQuery.Proofs.PredicateConjunctions
import TypedQuery.Proofs.TemplateSlots
import TypedQuery.Proofs.TermLooseness

namespace TypedQuery

open Sql Sql.Compile

/-! ### Arguments in their slots -/

/-- Wherever a slot occurs in the template, its argument is read as one operand just if there is one
and its outermost form is no looser than the slot has room for. -/
def Sql.Template.Reads (template : Template) (room : Nat → Nat) (slots : List Term) : Prop :=
  ∀ index slot front back, slots[index]? = some slot →
    template.pieces = front ++ .slot index :: back →
    ∃ lead follow, InFront (Template.fill ⟨front⟩ (slots.map Term.text)) lead ∧
      Behind (Template.fill ⟨back⟩ (slots.map Term.text)) follow ∧
      (OneOperand lead slot.text follow ↔ lexemes slot.text ≠ [] ∧ slot.looseness ≤ room index)

/-- The term of an argument. If the argument stands for a value of its own, the term is not empty,
and its outermost form is no looser than a disjunction. -/
structure Expr.ArgumentTerm (scope : Scope) (argument : Expr) (term : Term) : Prop where
  given : scope.GivesAs false argument term
  value : ¬ argument.IsOpen scope → lexemes term.text ≠ [] ∧ term.looseness ≤ 6

/-- The term of the target of a call, which a method of a type does not have. -/
inductive Expr.TargetTerm (scope : Scope) : Option Expr → Term → Prop
  | missing : TargetTerm scope none .nothing
  | given {target : Expr} {term : Term} (ofTarget : target.ArgumentTerm scope term) :
      TargetTerm scope (some target) term

/-- A call, a property or an accessor of durations with its term: a template of the catalogue, whose
slots the arguments fill. -/
inductive Expr.ReadsArguments (scope : Scope) : Expr → Term → Prop
  | call {target : Option Expr} {method : Method} {args : List Expr} {ty : Ty}
      {template : Template} {calleeTerm : Term} {terms : List Term}
      (found : method.template? = some template)
      (ofTarget : Expr.TargetTerm scope target calleeTerm)
      (ofArgs : List.Forall₂ (Expr.ArgumentTerm scope) args terms)
      (reads : template.Reads method.slotRoom (calleeTerm :: terms)) :
      ReadsArguments scope (.call target method args ty) (.apply template (calleeTerm :: terms))
  | property {target : Option Expr} {name : Member} {ty : Ty} {template : Template}
      {calleeTerm : Term} (found : propertyTemplate? name.owner.kind name.name = some template)
      (ofTarget : Expr.TargetTerm scope target calleeTerm)
      (reads : template.Reads (fun _ => 6) [calleeTerm]) :
      ReadsArguments scope (.member target name ty) (.apply template [calleeTerm])
  /-- The unit takes the first slot, and the arguments move on. -/
  | duration {callee : Option Expr} {method : Method} {args : List Expr} {callTy ty : Ty}
      {name : Member} {unit : String} {template : Template} {calleeTerm : Term}
      {terms : List Term} (isUnit : durationUnit? name.name = some unit)
      (found : method.template? = some template)
      (ofCallee : Expr.TargetTerm scope callee calleeTerm)
      (ofArgs : List.Forall₂ (Expr.ArgumentTerm scope) args terms)
      (reads : template.Reads method.slotRoom (.word unit :: calleeTerm :: terms)) :
      ReadsArguments scope (.member (some (.call callee method args callTy)) name ty)
        (durationTerm ty (.apply template (.word unit :: calleeTerm :: terms)))

/-- The expression is a call, or a member with a template: a property, unless it is read off an
environment, or a duration. -/
inductive Expr.HasTemplate : Expr → Prop
  | call (target : Option Expr) (method : Method) (args : List Expr) (ty : Ty) :
      HasTemplate (.call target method args ty)
  | property {target : Option Expr} {name : Member} (ty : Ty) {template : Template}
      (found : propertyTemplate? name.owner.kind name.name = some template)
      (notClosure : ∀ captures ty, target ≠ some (.closure captures ty)) :
      HasTemplate (.member target name ty)
  | duration (target : Option Expr) {name : Member} (ty : Ty) (timed : name.owner = .timeSpan) :
      HasTemplate (.member target name ty)

/-! ### Compiled arguments -/

namespace Sql.Scope

variable {resolver : Resolver} {scope : Scope} {condition : Bool} {term : Term}

/-- What fills a slot: its brackets are closed, and its outermost form holds it together. -/
structure FillsSlot (slot : Term) : Prop where
  nested : WellNested slot.text
  held : Sql.looseness slot.text = slot.looseness

theorem fillsSlot_unit {name unit : String} (isUnit : durationUnit? name = some unit) :
    FillsSlot (.word unit) where
  nested := wellNested_of_durationUnit? isUnit
  held := by
    have all : ∀ entry ∈ durations, Sql.looseness entry.2 = 0 := by decide +kernel
    obtain ⟨entry, present, -, rfl⟩ := durationUnit?_eq_some isUnit
    exact all entry present

theorem GivesAs.fillsSlot {argument : Expr} (nests : scope.Nests resolver)
    (keyHeld : scope.KeyHeld) (free : argument.BracketFree resolver)
    (gives : scope.GivesAs false argument term) :
    argument.ArgumentTerm scope term ∧ FillsSlot term := by
  have reading := gives.reading nests keyHeld free
  refine ⟨⟨gives, fun closed => ?_⟩, gives.nested nests free, reading.held⟩
  cases reading with
  | value isValue => exact ⟨isValue.written, isValue.undivided⟩
  | isOpen isOpen => exact absurd isOpen closed

theorem TargetGives.fillsSlot {target : Option Expr} (nests : scope.Nests resolver)
    (keyHeld : scope.KeyHeld) (free : ∀ expr ∈ target, expr.BracketFree resolver)
    (ofTarget : scope.TargetGives target term) :
    Expr.TargetTerm scope target term ∧ FillsSlot term := by
  cases ofTarget with
  | missing => exact ⟨.missing, by decide, rfl⟩
  | given gives =>
      obtain ⟨argumentTerm, fills⟩ := gives.fillsSlot nests keyHeld (free _ rfl)
      exact ⟨.given argumentTerm, fills⟩

theorem fillsSlots {args : List Expr} {terms : List Term} (nests : scope.Nests resolver)
    (keyHeld : scope.KeyHeld) (free : ∀ expr ∈ args, expr.BracketFree resolver)
    (ofArgs : List.Forall₂ (scope.GivesAs false) args terms) :
    List.Forall₂ (Expr.ArgumentTerm scope) args terms ∧ ∀ term ∈ terms, FillsSlot term := by
  induction ofArgs with
  | nil => exact ⟨.nil, by simp⟩
  | cons ofFirst ofRest ih =>
      rw [List.forall_mem_cons] at free
      obtain ⟨argumentTerm, fills⟩ := ofFirst.fillsSlot nests keyHeld free.1
      obtain ⟨argumentTerms, fillRest⟩ := ih free.2
      exact ⟨.cons argumentTerm argumentTerms, List.forall_mem_cons.mpr ⟨fills, fillRest⟩⟩

/-- The slots of a method, filled with compiled arguments. -/
theorem reads_of_template? {method : Method} {template : Template} {slots : List Term}
    (found : method.template? = some template) (fills : ∀ slot ∈ slots, FillsSlot slot) :
    template.Reads method.slotRoom slots := by
  intro index slot front back isSlot isPieces
  have ofSlot := fills slot (List.mem_of_getElem? isSlot)
  have nested : ∀ arg ∈ slots.map Term.text, WellNested arg :=
    List.forall_mem_map.mpr fun slot present => (fills slot present).nested
  rw [← ofSlot.held]
  exact Template.readsSlot_of_template? found nested index ofSlot.nested front back isPieces

/-- The slot of a property, filled with a compiled target. -/
theorem reads_of_propertyTemplate? {owner : Kind} {name : String} {template : Template}
    {slots : List Term} (found : propertyTemplate? owner name = some template)
    (fills : ∀ slot ∈ slots, FillsSlot slot) : template.Reads (fun _ => 6) slots := by
  intro index slot front back isSlot isPieces
  have ofSlot := fills slot (List.mem_of_getElem? isSlot)
  rw [← ofSlot.held]
  exact Template.readsSlot_of_propertyTemplate? found index ofSlot.nested front back isPieces

end Sql.Scope

/-- In the scopes of a node's clauses, the key of the groups is held together as its form says. -/
theorem Select.Steps.keyHeld {resolver : Resolver} {path : String} {node : Select}
    {first joined : Aliases} {key : Option Term} {body : Body}
    (steps : node.Steps resolver path first joined key body) (word : IsWord path)
    (names : ∀ mention ∈ node.mentions, mention.Permitted Unbracketed)
    (columns : ∀ identifier ∈ node.identifiers resolver, Unbracketed identifier) :
    Scope.KeyHeld ⟨resolver, path, joined, none⟩ ∧ Scope.KeyHeld ⟨resolver, path, joined, key⟩ := by
  obtain ⟨onRows, -⟩ := steps.nests word names columns
  have unkeyed : Scope.KeyHeld ⟨resolver, path, joined, none⟩ := nofun
  refine ⟨unkeyed, ?_⟩
  obtain ⟨_, _, ofGroupKey⟩ := steps.groupKey
  obtain ⟨source, modelType, filters, having, projection, groupKey, groupElement, joins, orderBy,
    skip, take, distinct, stage⟩ := node
  rw [Select.mentions] at names
  rw [Select.identifiers] at columns
  simp only [List.forall_mem_append] at names columns
  obtain ⟨⟨⟨⟨-, nKey⟩, -⟩, -⟩, -⟩ := names
  obtain ⟨⟨⟨-, cKey⟩, -⟩, -⟩ := columns
  obtain ⟨ungrouped, grouped⟩ := Lambda.compileGroupKey_cases ofGroupKey
  cases groupKey with
  | none =>
      obtain ⟨-, isScope⟩ := ungrouped rfl
      cases isScope
      exact unkeyed
  | some function =>
      obtain ⟨params, keyBody⟩ := function
      obtain ⟨terms, -, isScope, ofFields⟩ := grouped _ rfl
      rw [Lambda.mentionsOption, Lambda.mentions, List.forall_mem_append] at nKey
      rw [Lambda.identifiersOption, Lambda.identifiers] at cKey
      have free : keyBody.BracketFree resolver := ⟨nKey.2, cKey⟩
      obtain ⟨-, fills⟩ :=
        Scope.fillsSlots onRows unkeyed (free.groupFields keyBody) (Scope.GivesAs.all ofFields)
      cases isScope
      intro term isKey
      rw [Option.or_none] at isKey
      exact (fills term (Expr.mem_of_keyTerm? isKey)).held

/-- A property is neither a duration nor the key of a group. -/
theorem Sql.propertyTemplate?_cases {owner : Ty} {name : String} {template : Template}
    (found : propertyTemplate? owner.kind name = some template) :
    owner ≠ .timeSpan ∧ name ≠ "Key" := by
  have all : ∀ entry ∈ properties, entry.1 ≠ Ty.timeSpan.kind ∧ entry.2.1 ≠ "Key" := by
    decide +kernel
  obtain ⟨entry, present, isOwner, isName, -⟩ := propertyTemplate?_eq_some found
  have differs := all entry present
  rw [isOwner, isName] at differs
  exact ⟨fun isTimeSpan => differs.1 (congrArg Ty.kind isTimeSpan), differs.2⟩

/-- The arguments of calls, properties and durations in every scope of a command. An argument is
read as one operand of its template, unless its own operator is looser than the slot has room for.
Slots between brackets and commas have room for every value; the bound of a random number has room
for no operator, the beginning of a substring for arithmetic, the item of a test for membership for
comparisons too. -/
theorem Expr.compile_arguments {resolver : Resolver} {scope : Scope} (nests : scope.Nests resolver)
    (keyHeld : scope.KeyHeld) {expr : Expr} (hasTemplate : expr.HasTemplate)
    (free : expr.BracketFree resolver) {condition : Bool} {term : Term}
    (gives : scope.GivesAs condition expr term) : expr.ReadsArguments scope term := by
  have makes := gives.makes
  cases hasTemplate with
  | call target method args ty =>
      obtain ⟨freeTarget, freeArgs⟩ := free.call
      cases makes with
      | call found ofTarget ofArgs =>
          obtain ⟨targetTerm, fills⟩ := ofTarget.fillsSlot nests keyHeld freeTarget
          obtain ⟨argumentTerms, fillRest⟩ := Scope.fillsSlots nests keyHeld freeArgs ofArgs
          exact .call found targetTerm argumentTerms
            (Scope.reads_of_template? found (List.forall_mem_cons.mpr ⟨fills, fillRest⟩))
  | @property target name ty template found notClosure =>
      obtain ⟨notTimed, notKey⟩ := propertyTemplate?_cases found
      cases makes with
      | key isKey =>
          rw [Scope.groupKeyOf?, if_neg (fun isKey => notKey isKey.1)] at isKey
          cases isKey
      | duration timed => exact absurd timed notTimed
      | captured => exact absurd rfl (notClosure _ _)
      | property untimed _ isTemplate ofTarget =>
          obtain ⟨targetTerm, fills⟩ := ofTarget.fillsSlot nests keyHeld free.member
          exact .property isTemplate targetTerm
            (Scope.reads_of_propertyTemplate? isTemplate (List.forall_mem_singleton.mpr fills))
      | column _ _ _ noProperty =>
          rw [noProperty] at found
          cases found
      | keptColumn _ noProperty =>
          rw [noProperty] at found
          cases found
  | @duration target name ty timed =>
      cases makes with
      | key isKey =>
          rw [scope.groupKeyOf?_eq_none (by rw [timed]; rfl)] at isKey
          cases isKey
      | duration _ isUnit found ofCallee ofArgs =>
          obtain ⟨freeCallee, freeArgs⟩ := (free.member _ rfl).call
          obtain ⟨targetTerm, fills⟩ := ofCallee.fillsSlot nests keyHeld freeCallee
          obtain ⟨argumentTerms, fillRest⟩ := Scope.fillsSlots nests keyHeld freeArgs ofArgs
          refine .duration isUnit found targetTerm argumentTerms (Scope.reads_of_template? found ?_)
          rw [List.forall_mem_cons, List.forall_mem_cons]
          exact ⟨Scope.fillsSlot_unit isUnit, fills, fillRest⟩
      | captured untimed => exact absurd timed untimed
      | property untimed => exact absurd timed untimed
      | column _ _ untimed => exact absurd timed untimed
      | keptColumn untimed => exact absurd timed untimed

namespace Query

def userId : Expr := (Expr.parameter userRow).field "Id"

/-- The id that comes next. -/
def nextId : Expr := userId.add (.literal (.int 1))

/-- A part of the login from a place that depends on the id. -/
def loginFrom : Expr := userLogin.substring nextId (.literal (.int 2))

/-- In front of a sum, a sum is one operand. -/
theorem loginFrom_arguments :
    ∃ term, firstScope.Nests .identity ∧ firstScope.KeyHeld ∧ loginFrom.HasTemplate ∧
      loginFrom.BracketFree .identity ∧ firstScope.GivesAs false loginFrom term ∧
      term.text = "SUBSTRING([user].[Login], ([user].[Id]) + (@p0) + 1, @p1)" ∧
      loginFrom.ReadsArguments firstScope term := by
  obtain ⟨term, progress, done, isText⟩ : ∃ term progress,
      loginFrom.compile firstScope false ⟨0, .empty⟩ = .ok (term, progress) ∧
        term.text = "SUBSTRING([user].[Login], ([user].[Id]) + (@p0) + 1, @p1)" :=
    ⟨_, _, rfl, by decide +kernel⟩
  have keyHeld : firstScope.KeyHeld := nofun
  have hasTemplate : loginFrom.HasTemplate := .call _ _ _ _
  have free : loginFrom.BracketFree .identity := ⟨by decide, by decide⟩
  have gives : firstScope.GivesAs false loginFrom term := ⟨_, _, done⟩
  exact ⟨term, firstScope_nests, keyHeld, hasTemplate, free, gives, isText,
    Expr.compile_arguments firstScope_nests keyHeld hasTemplate free gives⟩

/-- Users for which a random number below the next id is above one. -/
def drawnUsers : List Call :=
  [.add (.filter ⟨[userRow], (Expr.newRandom.next nextId).greaterThan (.literal (.int 1))⟩)]

/-- Behind a product, a sum falls apart: only its first summand is multiplied. -/
theorem drawnUsers_bound_split :
    ∃ query bound progress command, run drawnUsers userTable = .ok query ∧ query.Reachable ∧
      nextId.compile firstScope false ⟨0, .empty⟩ = .ok (bound, progress) ∧
      bound.text = "([user].[Id]) + (@p0)" ∧ query.toCommand .identity = .ok command ∧
      command.text = "SELECT * FROM [User] [user] WHERE (FLOOR(" ++ "RAND()*" ++ bound.text ++
        ")) > (@p1)" ∧
      InFront "FLOOR(RAND()*" "RAND()*" ∧ Behind ")" "" ∧
      rightOperand (.sign '*') (lexemes bound.text) = [.enclosed .round "[user].[Id]"] ∧
      ¬ OneOperand "RAND()*" bound.text "" := by
  obtain ⟨query, bound, progress, command, ran, ofBound, isBound, done, isText⟩ :
      ∃ query bound progress command, run drawnUsers userTable = .ok query ∧
        nextId.compile firstScope false ⟨0, .empty⟩ = .ok (bound, progress) ∧
        bound.text = "([user].[Id]) + (@p0)" ∧ query.toCommand .identity = .ok command ∧
        command.text = "SELECT * FROM [User] [user] WHERE (FLOOR(RAND()*([user].[Id]) + (@p0)))" ++
          " > (@p1)" :=
    ⟨_, _, _, _, rfl, rfl, by decide +kernel, rfl, by decide +kernel⟩
  have operands : ∀ call ∈ drawnUsers, ∀ operand ∈ call.operands, Reachable operand := by
    simp [drawnUsers, Call.operands, Clause.inner?, Clause.functions, Lambda.captured,
      Expr.captured, Expr.capturedTarget, Expr.capturedAll, Expr.next, Expr.newRandom,
      Expr.greaterThan, Expr.literal, nextId, userId, Expr.add, Expr.arithmetic, Expr.field]
  refine ⟨query, bound, progress, command, ran, Reachable.run (.table _) operands ran, ofBound,
    isBound, done, ?_, ?_, ?_, ?_, ?_⟩
  · rw [isText, isBound]
    decide +kernel
  · have form : "FLOOR(RAND()*" = "FLOOR".push '(' ++ "RAND()*" := by decide
    rw [form]
    exact .behind "FLOOR" (.inl rfl) (by decide)
  · have form : ")" = "".push ')' ++ "" := by decide
    rw [form]
    exact .before (by decide) (.inl rfl) ""
  · rw [isBound]
    decide +kernel
  · rw [isBound]
    intro one
    have taken := one.ofLead (.sign '*') (by decide)
    exact absurd taken (by decide +kernel)

end Query

end TypedQuery
