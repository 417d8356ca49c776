/-
Module: TypedQuery.Proofs.RenderedParts
Purpose: Where the parts of an expression stand in the term that it is compiled to. A place
  in a term is the list of positions that leads to it; whatever part of an expression is
  rendered there was compiled in the same scope as the whole, as a condition where one is wanted
  and as a value elsewhere.
Main exports: Sql.Term.partAt?, Expr.Renders, Expr.IsCondition, Sql.Scope.GivesAs,
  Sql.Scope.GivesAs.rendered, Sql.Scope.Gives, Sql.Scope.Gives.rendered
-/
import Mathlib.Data.List.Forall2
import TypedQuery.Proofs.Compilation

namespace TypedQuery

namespace Sql

/-! ### Places in terms -/

/-- The immediate parts of a term, from left to right. -/
def Term.parts : Term → List Term
  | .enclosed term => [term]
  | .binary _ left right => [left, right]
  | .unary _ operand => [operand]
  | .convert _ operand => [operand]
  | .iif test ifTrue ifFalse => [test, ifTrue, ifFalse]
  | .apply _ slots => slots
  | .columns fields => fields.map (·.term)
  | .dateTime parts => parts
  | _ => []

/-- The part of a term at a place, which gives the position to take at every level. -/
def Term.partAt? : List Nat → Term → Option Term
  | [], term => some term
  | index :: rest, term => term.parts[index]?.bind (Term.partAt? rest)

theorem Term.partAt?_cons {term part : Term} {index : Nat} (isPart : term.parts[index]? = some part)
    (rest : List Nat) : term.partAt? (index :: rest) = part.partAt? rest := by
  rw [partAt?, isPart]
  rfl

theorem Term.partAt?_append (place rest : List Nat) (term : Term) :
    term.partAt? (place ++ rest) = (term.partAt? place).bind (Term.partAt? rest) := by
  induction place generalizing term with
  | nil => rfl
  | cons index place ih =>
      rw [List.cons_append, partAt?, partAt?]
      cases term.parts[index]? with
      | none => rfl
      | some part => exact ih part

theorem map_term_label (terms : List Term) (names : List String) :
    (label terms names).map (·.term) = terms.take names.length := by
  induction terms generalizing names with
  | nil => cases names <;> rfl
  | cons term rest ih =>
      cases names with
      | nil => rfl
      | cons name names => simp [label, ih]

/-- Levels that a duration puts around the call that it is read off. -/
def durationPlace (ty : Ty) : List Nat := if ty = .double then [0] else []

theorem partAt?_durationTerm (ty : Ty) (term : Term) (place : List Nat) :
    (durationTerm ty term).partAt? (durationPlace ty ++ place) = term.partAt? place := by
  unfold durationTerm durationPlace
  split <;> rfl

end Sql

open Sql Sql.Compile

/-! ### Places of expressions -/

/-- The part of an expression is rendered at the place of the term that the expression is compiled
to. The target of a column and what is captured are not rendered: the one turns into an alias, the
other into a placeholder or a command of its own. -/
inductive Expr.Renders : Expr → List Nat → Expr → Prop
  | whole (expr : Expr) : Renders expr [] expr
  | left {op : BinaryOp} {left right part : Expr} {ty : Ty} {place : List Nat}
      (below : Renders left place part) : Renders (.binary op left right ty) (0 :: place) part
  | right {op : BinaryOp} {left right part : Expr} {ty : Ty} {place : List Nat}
      (below : Renders right place part) : Renders (.binary op left right ty) (1 :: place) part
  | operand {op : UnaryOp} {operand part : Expr} {ty : Ty} {place : List Nat}
      (below : Renders operand place part) : Renders (.unary op operand ty) (0 :: place) part
  | test {test ifTrue ifFalse part : Expr} {ty : Ty} {place : List Nat}
      (below : Renders test place part) :
      Renders (.conditional test ifTrue ifFalse ty) (0 :: place) part
  | ifTrue {test ifTrue ifFalse part : Expr} {ty : Ty} {place : List Nat}
      (below : Renders ifTrue place part) :
      Renders (.conditional test ifTrue ifFalse ty) (1 :: place) part
  | ifFalse {test ifTrue ifFalse part : Expr} {ty : Ty} {place : List Nat}
      (below : Renders ifFalse place part) :
      Renders (.conditional test ifTrue ifFalse ty) (2 :: place) part
  | callee {callee part : Expr} {method : Method} {args : List Expr} {ty : Ty} {place : List Nat}
      (below : Renders callee place part) :
      Renders (.call (some callee) method args ty) (0 :: place) part
  | argument {target : Option Expr} {method : Method} {args : List Expr} {arg part : Expr}
      {ty : Ty} {index : Nat} {place : List Nat} (isArg : args[index]? = some arg)
      (below : Renders arg place part) :
      Renders (.call target method args ty) ((index + 1) :: place) part
  | property {target part : Expr} {name : Member} {ty : Ty} {place : List Nat}
      (notClosure : ∀ captures ty, target ≠ .closure captures ty)
      (untimed : name.owner ≠ .timeSpan)
      (isProperty : (propertyTemplate? name.owner.kind name.name).isSome)
      (below : Renders target place part) :
      Renders (.member (some target) name ty) (0 :: place) part
  | durationCallee {callee part : Expr} {method : Method} {args : List Expr} {name : Member}
      {ty callTy : Ty} {place : List Nat} (timed : name.owner = .timeSpan)
      (below : Renders callee place part) :
      Renders (.member (some (.call (some callee) method args callTy)) name ty)
        (durationPlace ty ++ 1 :: place) part
  | durationArgument {target : Option Expr} {method : Method} {args : List Expr} {arg part : Expr}
      {name : Member} {ty callTy : Ty} {index : Nat} {place : List Nat}
      (timed : name.owner = .timeSpan) (isArg : args[index]? = some arg)
      (below : Renders arg place part) :
      Renders (.member (some (.call target method args callTy)) name ty)
        (durationPlace ty ++ (index + 2) :: place) part
  | field {names : List String} {args : List Expr} {arg part : Expr} {ty : Ty} {index : Nat}
      {place : List Nat} (labelled : index < names.length) (isArg : args[index]? = some arg)
      (below : Renders arg place part) :
      Renders (.construct (.record names) args ty) (index :: place) part
  | datePart {args : List Expr} {arg part : Expr} {ty : Ty} {index : Nat} {place : List Nat}
      (isArg : args[index]? = some arg) (below : Renders arg place part) :
      Renders (.construct .dateTime args ty) (index :: place) part
  | body {params : List Param} {body part : Expr} {place : List Nat}
      (below : Renders body place part) : Renders (.lambda ⟨params, body⟩) place part

/-- A condition is wanted where the part is rendered: it is the whole, if one is wanted of that, an
operand of an operator with a boolean result, or a test. -/
inductive Expr.IsCondition (whole : Expr) (condition : Bool) : List Nat → Expr → Prop
  | whole (wanted : condition = true) : IsCondition whole condition [] whole
  | left {op : BinaryOp} {left right : Expr} {ty : Ty} {place : List Nat}
      (placed : whole.Renders place (.binary op left right ty)) (isBool : ty.isBool = true) :
      IsCondition whole condition (place ++ [0]) left
  | right {op : BinaryOp} {left right : Expr} {ty : Ty} {place : List Nat}
      (placed : whole.Renders place (.binary op left right ty)) (isBool : ty.isBool = true) :
      IsCondition whole condition (place ++ [1]) right
  | operand {op : UnaryOp} {operand : Expr} {ty : Ty} {place : List Nat}
      (placed : whole.Renders place (.unary op operand ty)) (isBool : ty.isBool = true) :
      IsCondition whole condition (place ++ [0]) operand
  | test {test ifTrue ifFalse : Expr} {ty : Ty} {place : List Nat}
      (placed : whole.Renders place (.conditional test ifTrue ifFalse ty)) :
      IsCondition whole condition (place ++ [0]) test

/-- The whole is a condition only where one is wanted of it. -/
theorem Expr.IsCondition.wanted_of_whole {whole part : Expr} {condition : Bool}
    (isCondition : whole.IsCondition condition [] part) : condition = true := by
  generalize isWhole : [] = place at isCondition
  cases isCondition with
  | whole wanted => exact wanted
  | _ => simp at isWhole

/-- What is rendered in a part is rendered in the whole, below the place of the part. -/
def Expr.RendersBelow (whole : Expr) (lead : List Nat) (part : Expr) : Prop :=
  ∀ place inner, part.Renders place inner → whole.Renders (lead ++ place) inner

/-- Conditions of a part are conditions of the whole, provided that the part itself is one if it is
taken for one. -/
theorem Expr.IsCondition.below {whole part inner : Expr} {condition within : Bool}
    {lead place : List Nat} (isCondition : part.IsCondition within place inner)
    (renders : whole.RendersBelow lead part)
    (root : within = true → whole.IsCondition condition lead part) :
    whole.IsCondition condition (lead ++ place) inner := by
  cases isCondition with
  | whole wanted =>
      rw [List.append_nil]
      exact root wanted
  | left placed isBool =>
      rw [← List.append_assoc]
      exact .left (renders _ _ placed) isBool
  | right placed isBool =>
      rw [← List.append_assoc]
      exact .right (renders _ _ placed) isBool
  | operand placed isBool =>
      rw [← List.append_assoc]
      exact .operand (renders _ _ placed) isBool
  | test placed =>
      rw [← List.append_assoc]
      exact .test (renders _ _ placed)

/-- What the callee of a call renders is rendered in a duration read off the call. -/
theorem Expr.rendersBelow_durationCallee {callee : Expr} {method : Method} {args : List Expr}
    {name : Member} {ty callTy : Ty} (timed : name.owner = .timeSpan) :
    (Expr.member (some (.call (some callee) method args callTy)) name ty).RendersBelow
      (durationPlace ty ++ [1]) callee := by
  intro place inner below
  rw [List.append_assoc]
  exact .durationCallee timed below

/-- What an argument of a call renders is rendered in a duration read off the call. -/
theorem Expr.rendersBelow_durationArgument {target : Option Expr} {method : Method}
    {args : List Expr} {arg : Expr} {name : Member} {ty callTy : Ty} {index : Nat}
    (timed : name.owner = .timeSpan) (isArg : args[index]? = some arg) :
    (Expr.member (some (.call target method args callTy)) name ty).RendersBelow
      (durationPlace ty ++ [index + 2]) arg := by
  intro place inner below
  rw [List.append_assoc]
  exact .durationArgument timed isArg below

/-! ### What compilation leaves of the parts -/

/-- What stands at a position of the first of two lists related member by member is related to what
stands there in the second. -/
theorem getElem?_of_forall₂ {α β : Type} {related : α → β → Prop} {items : List α}
    {images : List β} (all : List.Forall₂ related items images) {index : Nat} {item : α}
    (isItem : items[index]? = some item) :
    ∃ image, images[index]? = some image ∧ related item image := by
  induction all generalizing index with
  | nil => simp at isItem
  | cons first _ ih =>
      cases index with
      | zero =>
          cases isItem
          exact ⟨_, rfl, first⟩
      | succ index => exact ih isItem

/-- Groups have no properties. -/
theorem Sql.isGroup_of_propertyTemplate? {owner : Ty} {name : String}
    (isProperty : (propertyTemplate? owner.kind name).isSome) : owner.isGroup = false := by
  cases owner with
  | group key element => simp [propertyTemplate?, properties, Ty.kind] at isProperty
  | _ => rfl

namespace Sql.Scope

/-- The term is what the expression is compiled to in the scope, at some point of a command, as a
condition or as a value. -/
def GivesAs (scope : Scope) (condition : Bool) (expr : Expr) (term : Term) : Prop :=
  ∃ progress progress', expr.compile scope condition progress = .ok (term, progress')

/-- The term is what the expression is compiled to in the scope, at some point of a command. -/
def Gives (scope : Scope) (expr : Expr) (term : Term) : Prop :=
  ∃ condition progress progress', expr.compile scope condition progress = .ok (term, progress')

/-- At the place of the term stands what the part is compiled to, as a condition only where one is
wanted. -/
def GivesPart (scope : Scope) (condition : Bool) (whole : Expr) (term : Term) (place : List Nat)
    (part : Expr) : Prop :=
  ∃ found wanted, term.partAt? place = some found ∧ scope.GivesAs wanted part found ∧
    (wanted = true → whole.IsCondition condition place part)

/-- What stands in a part stands in the whole. -/
theorem GivesPart.below {scope : Scope} {whole part inner : Expr} {condition within : Bool}
    {term partTerm : Term} {place : List Nat} (lead : List Nat)
    (givesPart : scope.GivesPart within part partTerm place inner)
    (isPart : term.partAt? (lead ++ place) = partTerm.partAt? place)
    (renders : whole.RendersBelow lead part)
    (root : within = true → whole.IsCondition condition lead part) :
    scope.GivesPart condition whole term (lead ++ place) inner := by
  obtain ⟨found, wanted, foundAt, ofInner, isCondition⟩ := givesPart
  exact ⟨found, wanted, isPart.trans foundAt, ofInner, fun holds =>
    (isCondition holds).below renders root⟩

namespace GivesAs

variable {scope : Scope} {condition : Bool} {term : Term} {ty : Ty}

theorem gives {expr : Expr} (givesAs : scope.GivesAs condition expr term) :
    scope.Gives expr term :=
  ⟨condition, givesAs⟩

/-- The operands of an operator are conditions if its result is boolean. -/
theorem binary {op : BinaryOp} {left right : Expr}
    (gives : scope.GivesAs condition (.binary op left right ty) term) :
    ∃ operator leftTerm rightTerm, term = .binary operator leftTerm rightTerm ∧
      scope.GivesAs ty.isBool left leftTerm ∧ scope.GivesAs ty.isBool right rightTerm := by
  obtain ⟨progress, progress', done⟩ := gives
  rw [Expr.compile] at done
  obtain ⟨leftTerm, _, ofLeft, done⟩ := bind_eq_ok done
  obtain ⟨rightTerm, _, ofRight, done⟩ := bind_eq_ok done
  rcases binaryTerm_cases op leftTerm rightTerm with ⟨operator, form⟩ | ⟨fragment, form⟩
  · rw [form] at done
    cases done
    exact ⟨operator, leftTerm, rightTerm, rfl, ⟨_, _, ofLeft⟩, ⟨_, _, ofRight⟩⟩
  · rw [form] at done
    cases done

theorem unary {op : UnaryOp} {operand : Expr}
    (gives : scope.GivesAs condition (.unary op operand ty) term) :
    ∃ operandTerm, term.parts = [operandTerm] ∧
      scope.GivesAs ty.isBool operand operandTerm := by
  obtain ⟨progress, progress', done⟩ := gives
  rw [Expr.compile] at done
  obtain ⟨operandTerm, _, ofOperand, done⟩ := bind_eq_ok done
  rcases unaryTerm_cases op operandTerm ty with
    ⟨target, form⟩ | ⟨modifier, form⟩ | ⟨fragment, form⟩
  · rw [form] at done
    cases done
    exact ⟨operandTerm, rfl, _, _, ofOperand⟩
  · rw [form] at done
    cases done
    exact ⟨operandTerm, rfl, _, _, ofOperand⟩
  · rw [form] at done
    cases done

/-- The test alone is a condition. -/
theorem conditional {test ifTrue ifFalse : Expr}
    (gives : scope.GivesAs condition (.conditional test ifTrue ifFalse ty) term) :
    ∃ testTerm trueTerm falseTerm, term = .iif testTerm trueTerm falseTerm ∧
      scope.GivesAs true test testTerm ∧ scope.GivesAs false ifTrue trueTerm ∧
      scope.GivesAs false ifFalse falseTerm := by
  obtain ⟨progress, progress', done⟩ := gives
  rw [Expr.compile] at done
  obtain ⟨testTerm, _, ofTest, done⟩ := bind_eq_ok done
  obtain ⟨trueTerm, _, ofTrue, done⟩ := bind_eq_ok done
  obtain ⟨falseTerm, _, ofFalse, done⟩ := bind_eq_ok done
  cases done
  exact ⟨testTerm, trueTerm, falseTerm, rfl, ⟨_, _, ofTest⟩, ⟨_, _, ofTrue⟩, ⟨_, _, ofFalse⟩⟩

theorem lambda {params : List Param} {body : Expr}
    (gives : scope.GivesAs condition (.lambda ⟨params, body⟩) term) :
    scope.GivesAs false body term := by
  obtain ⟨progress, progress', done⟩ := gives
  rw [Expr.compile] at done
  exact ⟨_, _, done⟩

/-- Expressions compiled one after the other are compiled one by one, as values. -/
theorem all {exprs : List Expr} {terms : List Term} {progress progress' : Progress}
    (done : Expr.compileAll scope exprs progress = .ok (terms, progress')) :
    List.Forall₂ (scope.GivesAs false) exprs terms := by
  induction exprs generalizing terms progress with
  | nil =>
      rw [Expr.compileAll] at done
      cases done
      exact .nil
  | cons expr rest ih =>
      rw [Expr.compileAll] at done
      obtain ⟨term, _, ofExpr, done⟩ := bind_eq_ok done
      obtain ⟨terms, _, ofRest, done⟩ := bind_eq_ok done
      cases done
      exact .cons ⟨_, _, ofExpr⟩ (ih ofRest)

theorem target {target : Option Expr} {progress progress' : Progress}
    (done : Expr.compileTarget scope target progress = .ok (term, progress')) :
    ∀ expr ∈ target, scope.GivesAs false expr term := by
  rintro expr ⟨⟩
  rw [Expr.compileTarget] at done
  exact ⟨_, _, done⟩

theorem call {target : Option Expr} {method : Method} {args : List Expr}
    (gives : scope.GivesAs condition (.call target method args ty) term) :
    ∃ callee terms, term.parts = callee :: terms ∧
      (∀ expr ∈ target, scope.GivesAs false expr callee) ∧
      List.Forall₂ (scope.GivesAs false) args terms := by
  obtain ⟨progress, progress', done⟩ := gives
  rw [Expr.compile] at done
  obtain ⟨callee, _, ofTarget, done⟩ := bind_eq_ok done
  obtain ⟨terms, _, ofArgs, done⟩ := bind_eq_ok done
  rcases callTerm_cases method (callee :: terms) with ⟨template, -, form⟩ | ⟨fragment, form⟩
  · rw [form] at done
    cases done
    exact ⟨callee, terms, rfl, GivesAs.target ofTarget, all ofArgs⟩
  · rw [form] at done
    cases done

theorem record {names : List String} {args : List Expr}
    (gives : scope.GivesAs condition (.construct (.record names) args ty) term) :
    ∃ terms, term.parts = terms.take names.length ∧
      List.Forall₂ (scope.GivesAs false) args terms := by
  obtain ⟨progress, progress', done⟩ := gives
  rw [Expr.compile] at done
  obtain ⟨terms, _, ofArgs, done⟩ := bind_eq_ok done
  cases done
  exact ⟨terms, map_term_label terms names, all ofArgs⟩

theorem dateTime {args : List Expr}
    (gives : scope.GivesAs condition (.construct .dateTime args ty) term) :
    ∃ terms, term.parts = padParts terms ∧ List.Forall₂ (scope.GivesAs false) args terms := by
  obtain ⟨progress, progress', done⟩ := gives
  rw [Expr.compile] at done
  obtain ⟨terms, _, ofArgs, done⟩ := bind_eq_ok done
  cases done
  exact ⟨terms, rfl, all ofArgs⟩

theorem property {target : Expr} {name : Member}
    (notClosure : ∀ captures ty, target ≠ .closure captures ty) (untimed : name.owner ≠ .timeSpan)
    (isProperty : (propertyTemplate? name.owner.kind name.name).isSome)
    (gives : scope.GivesAs condition (.member (some target) name ty) term) :
    ∃ callee, term.parts = [callee] ∧ scope.GivesAs false target callee := by
  obtain ⟨progress, progress', done⟩ := gives
  obtain ⟨template, found⟩ := Option.isSome_iff_exists.mp isProperty
  have isNoGroup := isGroup_of_propertyTemplate? isProperty
  rw [Expr.compile_member, Expr.memberForm_of_value scope ty isNoGroup untimed notClosure,
    found] at done
  obtain ⟨callee, _, ofTarget, done⟩ := bind_eq_ok done
  cases done
  exact ⟨callee, rfl, GivesAs.target ofTarget target rfl⟩

theorem duration {callee : Option Expr} {method : Method} {args : List Expr} {name : Member}
    {callTy : Ty} (timed : name.owner = .timeSpan)
    (gives : scope.GivesAs condition (.member (some (.call callee method args callTy)) name ty)
      term) :
    ∃ apply unit calleeTerm terms, term = durationTerm ty apply ∧
      apply.parts = .word unit :: calleeTerm :: terms ∧
      (∀ expr ∈ callee, scope.GivesAs false expr calleeTerm) ∧
      List.Forall₂ (scope.GivesAs false) args terms := by
  obtain ⟨progress, progress', done⟩ := gives
  have unkeyed : scope.groupKeyOf? name = none := groupKeyOf?_eq_none scope (by rw [timed]; rfl)
  have arises := Expr.memberForm_arises scope (some (.call callee method args callTy)) name ty
  rw [Expr.compile_member] at done
  generalize Expr.memberForm scope (some (.call callee method args callTy)) name ty = form
    at done arises
  cases arises with
  | duration unkeyed timed isUnit isCall found =>
      cases isCall
      obtain ⟨calleeTerm, _, ofCallee, done⟩ := bind_eq_ok done
      obtain ⟨terms, _, ofArgs, done⟩ := bind_eq_ok done
      cases done
      exact ⟨_, _, calleeTerm, terms, rfl, rfl, target ofCallee, all ofArgs⟩
  | refused fragment => cases done
  | key keyed => simp [unkeyed] at keyed
  | captured _ untimed => exact absurd timed untimed
  | property _ untimed => exact absurd timed untimed
  | column _ untimed => exact absurd timed untimed

/-- What an expression renders at a place of its term was compiled in the same scope, as a condition
only where one is wanted. -/
theorem rendered {whole part : Expr} {place : List Nat} (placed : whole.Renders place part)
    (gives : scope.GivesAs condition whole term) :
    scope.GivesPart condition whole term place part := by
  -- In every case the term of the whole is taken apart, and the part is looked for below.
  induction placed generalizing term condition with
  | whole expr => exact ⟨term, condition, rfl, gives, .whole⟩
  | left below ih =>
      obtain ⟨operator, leftTerm, rightTerm, rfl, ofLeft, -⟩ := gives.binary
      exact (ih ofLeft).below [0] rfl (fun _ _ => .left) (.left (.whole _))
  | right below ih =>
      obtain ⟨operator, leftTerm, rightTerm, rfl, -, ofRight⟩ := gives.binary
      exact (ih ofRight).below [1] rfl (fun _ _ => .right) (.right (.whole _))
  | operand below ih =>
      obtain ⟨operandTerm, parts, ofOperand⟩ := gives.unary
      exact (ih ofOperand).below [0] (Term.partAt?_cons (by rw [parts]; rfl) _)
        (fun _ _ => .operand) (.operand (.whole _))
  | test below ih =>
      obtain ⟨testTerm, trueTerm, falseTerm, rfl, ofTest, -, -⟩ := gives.conditional
      exact (ih ofTest).below [0] rfl (fun _ _ => .test) fun _ => .test (.whole _)
  | ifTrue below ih =>
      obtain ⟨testTerm, trueTerm, falseTerm, rfl, -, ofTrue, -⟩ := gives.conditional
      exact (ih ofTrue).below [1] rfl (fun _ _ => .ifTrue) nofun
  | ifFalse below ih =>
      obtain ⟨testTerm, trueTerm, falseTerm, rfl, -, -, ofFalse⟩ := gives.conditional
      exact (ih ofFalse).below [2] rfl (fun _ _ => .ifFalse) nofun
  | callee below ih =>
      obtain ⟨callee, terms, parts, ofCallee, -⟩ := gives.call
      exact (ih (ofCallee _ rfl)).below [0] (Term.partAt?_cons (by rw [parts]; rfl) _)
        (fun _ _ => .callee) nofun
  | argument isArg below ih =>
      obtain ⟨callee, terms, parts, -, ofArgs⟩ := gives.call
      obtain ⟨argTerm, isTerm, ofArg⟩ := getElem?_of_forall₂ ofArgs isArg
      exact (ih ofArg).below [_] (Term.partAt?_cons (by rw [parts]; exact isTerm) _)
        (fun _ _ => .argument isArg) nofun
  | property notClosure untimed isProperty below ih =>
      obtain ⟨callee, parts, ofCallee⟩ := gives.property notClosure untimed isProperty
      exact (ih ofCallee).below [0] (Term.partAt?_cons (by rw [parts]; rfl) _)
        (fun _ _ => .property notClosure untimed isProperty) nofun
  | durationCallee timed below ih =>
      obtain ⟨apply, unit, callee, terms, rfl, parts, ofCallee, -⟩ := gives.duration timed
      rw [List.append_cons]
      refine (ih (ofCallee _ rfl)).below _ ?_ (Expr.rendersBelow_durationCallee timed) nofun
      rw [List.append_assoc, partAt?_durationTerm]
      exact Term.partAt?_cons (by rw [parts]; rfl) _
  | durationArgument timed isArg below ih =>
      obtain ⟨apply, unit, callee, terms, rfl, parts, -, ofArgs⟩ := gives.duration timed
      obtain ⟨argTerm, isTerm, ofArg⟩ := getElem?_of_forall₂ ofArgs isArg
      rw [List.append_cons]
      refine (ih ofArg).below _ ?_ (Expr.rendersBelow_durationArgument timed isArg) nofun
      rw [List.append_assoc, partAt?_durationTerm]
      exact Term.partAt?_cons (by rw [parts]; exact isTerm) _
  | field labelled isArg below ih =>
      obtain ⟨terms, parts, ofArgs⟩ := gives.record
      obtain ⟨argTerm, isTerm, ofArg⟩ := getElem?_of_forall₂ ofArgs isArg
      refine (ih ofArg).below [_] (Term.partAt?_cons ?_ _) (fun _ _ => .field labelled isArg) nofun
      rw [parts, List.getElem?_take_of_lt labelled, isTerm]
  | datePart isArg below ih =>
      obtain ⟨terms, parts, ofArgs⟩ := gives.dateTime
      obtain ⟨argTerm, isTerm, ofArg⟩ := getElem?_of_forall₂ ofArgs isArg
      have inside := (List.getElem?_eq_some_iff.mp isTerm).1
      refine (ih ofArg).below [_] (Term.partAt?_cons ?_ _) (fun _ _ => .datePart isArg) nofun
      rw [parts, padParts, List.getElem?_append_left inside, isTerm]
  | body below ih => exact (ih gives.lambda).below [] rfl (fun _ _ => .body) nofun

/-- What is rendered where no condition is wanted was compiled as a value. -/
theorem asValue {whole part : Expr} {place : List Nat} (placed : whole.Renders place part)
    (noCondition : ¬ whole.IsCondition condition place part)
    (gives : scope.GivesAs condition whole term) :
    ∃ found, term.partAt? place = some found ∧ scope.GivesAs false part found := by
  obtain ⟨found, wanted, foundAt, ofPart, isCondition⟩ := gives.rendered placed
  cases wanted with
  | true => exact absurd (isCondition rfl) noCondition
  | false => exact ⟨found, foundAt, ofPart⟩

/-- What is rendered where a condition is wanted was compiled as one. -/
theorem asCondition {whole part : Expr} {place : List Nat}
    (isCondition : whole.IsCondition condition place part)
    (gives : scope.GivesAs condition whole term) :
    ∃ found, term.partAt? place = some found ∧ scope.GivesAs true part found := by
  cases isCondition with
  | whole wanted =>
      rw [wanted] at gives
      exact ⟨term, rfl, gives⟩
  | left placed isBool =>
      obtain ⟨found, _, foundAt, ofPart, -⟩ := gives.rendered placed
      obtain ⟨operator, leftTerm, rightTerm, rfl, ofLeft, -⟩ := ofPart.binary
      rw [isBool] at ofLeft
      exact ⟨leftTerm, by rw [Term.partAt?_append, foundAt]; rfl, ofLeft⟩
  | right placed isBool =>
      obtain ⟨found, _, foundAt, ofPart, -⟩ := gives.rendered placed
      obtain ⟨operator, leftTerm, rightTerm, rfl, -, ofRight⟩ := ofPart.binary
      rw [isBool] at ofRight
      exact ⟨rightTerm, by rw [Term.partAt?_append, foundAt]; rfl, ofRight⟩
  | operand placed isBool =>
      obtain ⟨found, _, foundAt, ofPart, -⟩ := gives.rendered placed
      obtain ⟨operandTerm, parts, ofOperand⟩ := ofPart.unary
      rw [isBool] at ofOperand
      refine ⟨operandTerm, ?_, ofOperand⟩
      rw [Term.partAt?_append, foundAt, Option.bind_some, Term.partAt?_cons (by rw [parts]; rfl)]
      rfl
  | test placed =>
      obtain ⟨found, _, foundAt, ofPart, -⟩ := gives.rendered placed
      obtain ⟨testTerm, trueTerm, falseTerm, rfl, ofTest, -, -⟩ := ofPart.conditional
      exact ⟨testTerm, by rw [Term.partAt?_append, foundAt]; rfl, ofTest⟩

end GivesAs

namespace Gives

variable {scope : Scope} {term : Term} {ty : Ty}

theorem binary {op : BinaryOp} {left right : Expr}
    (gives : scope.Gives (.binary op left right ty) term) :
    ∃ operator leftTerm rightTerm, term = .binary operator leftTerm rightTerm ∧
      scope.Gives left leftTerm ∧ scope.Gives right rightTerm := by
  obtain ⟨condition, givesAs⟩ := gives
  obtain ⟨operator, leftTerm, rightTerm, isTerm, ofLeft, ofRight⟩ := GivesAs.binary givesAs
  exact ⟨operator, leftTerm, rightTerm, isTerm, ofLeft.gives, ofRight.gives⟩

theorem unary {op : UnaryOp} {operand : Expr} (gives : scope.Gives (.unary op operand ty) term) :
    ∃ operandTerm, term.parts = [operandTerm] ∧ scope.Gives operand operandTerm := by
  obtain ⟨condition, givesAs⟩ := gives
  obtain ⟨operandTerm, parts, ofOperand⟩ := GivesAs.unary givesAs
  exact ⟨operandTerm, parts, ofOperand.gives⟩

theorem conditional {test ifTrue ifFalse : Expr}
    (gives : scope.Gives (.conditional test ifTrue ifFalse ty) term) :
    ∃ testTerm trueTerm falseTerm, term = .iif testTerm trueTerm falseTerm ∧
      scope.Gives test testTerm ∧ scope.Gives ifTrue trueTerm ∧ scope.Gives ifFalse falseTerm := by
  obtain ⟨condition, givesAs⟩ := gives
  obtain ⟨testTerm, trueTerm, falseTerm, isTerm, ofTest, ofTrue, ofFalse⟩ :=
    GivesAs.conditional givesAs
  exact ⟨testTerm, trueTerm, falseTerm, isTerm, ofTest.gives, ofTrue.gives, ofFalse.gives⟩

theorem lambda {params : List Param} {body : Expr}
    (gives : scope.Gives (.lambda ⟨params, body⟩) term) : scope.Gives body term := by
  obtain ⟨condition, givesAs⟩ := gives
  exact (GivesAs.lambda givesAs).gives

/-- Expressions compiled one after the other are compiled one by one. -/
theorem all {exprs : List Expr} {terms : List Term} {progress progress' : Progress}
    (done : Expr.compileAll scope exprs progress = .ok (terms, progress')) :
    List.Forall₂ scope.Gives exprs terms :=
  (GivesAs.all done).imp fun _ _ => GivesAs.gives

theorem call {target : Option Expr} {method : Method} {args : List Expr}
    (gives : scope.Gives (.call target method args ty) term) :
    ∃ callee terms, term.parts = callee :: terms ∧ (∀ expr ∈ target, scope.Gives expr callee) ∧
      List.Forall₂ scope.Gives args terms := by
  obtain ⟨condition, givesAs⟩ := gives
  obtain ⟨callee, terms, parts, ofTarget, ofArgs⟩ := GivesAs.call givesAs
  exact ⟨callee, terms, parts, fun expr isTarget => (ofTarget expr isTarget).gives,
    ofArgs.imp fun _ _ => GivesAs.gives⟩

/-- What an expression renders at a place of its term was compiled in the same scope. -/
theorem rendered {whole part : Expr} {place : List Nat} (placed : whole.Renders place part)
    (gives : scope.Gives whole term) :
    ∃ found, term.partAt? place = some found ∧ scope.Gives part found := by
  obtain ⟨condition, givesAs⟩ := gives
  obtain ⟨found, wanted, foundAt, ofPart, -⟩ := GivesAs.rendered placed givesAs
  exact ⟨found, foundAt, ofPart.gives⟩

end Gives

end Sql.Scope

end TypedQuery
