/-
Module: TypedQuery.Proofs.PartOrigins
Purpose: Where the parts of a compiled term come from. Whatever stands at a place of the term was
  made there by an expression that is rendered at the place, or is the call that a duration is read
  off, or a part of the group key, or fills a place for which nothing was written.
Main exports: Expr.core, Expr.PartFrom, Sql.Scope.GivesAs.partFrom
-/
import TypedQuery.Proofs.CompiledForms
import TypedQuery.Proofs.TermLeaves

namespace TypedQuery

open Sql Sql.Compile

/-! ### Lambdas

A lambda is rendered as its body, so that several expressions can be rendered at one place. -/

/-- What stands under the lambdas of an expression. -/
def Expr.core : Expr → Expr
  | .lambda ⟨_, body⟩ => body.core
  | expr => expr
termination_by structural expr => expr

/-- The expression is no lambda. -/
def Expr.IsCore (expr : Expr) : Prop := ∀ function, expr ≠ .lambda function

/-- What stands under the lambdas of an expression is rendered in its place. -/
theorem Sql.Scope.GivesAs.core {scope : Scope} (expr : Expr) {condition : Bool} {term : Term}
    (gives : scope.GivesAs condition expr term) :
    expr.core.IsCore ∧ expr.RendersBelow [] expr.core ∧
      ∃ wanted, scope.Makes wanted expr.core term ∧
        (wanted = true → expr.IsCondition condition [] expr.core) := by
  cases expr with
  | lambda function =>
      obtain ⟨params, body⟩ := function
      obtain ⟨isCore, renders, wanted, makes, isCondition⟩ := core body gives.lambda
      have ofBody : (Expr.lambda ⟨params, body⟩).RendersBelow [] body := fun _ _ => .body
      exact ⟨isCore, fun place inner inside => .body (renders place inner inside), wanted, makes,
        fun holds => (isCondition holds).below ofBody nofun⟩
  | _ =>
      exact ⟨by rintro _ ⟨⟩, fun _ _ inside => inside, condition, gives.makes, .whole⟩
termination_by structural expr

/-! ### Origins -/

/-- What a place of a term holds where nothing was written: no target, a missing part of a point in
time, or the unit of a duration. -/
inductive Sql.Term.IsFiller : Term → Prop
  | nothing : IsFiller .nothing
  | zero : IsFiller .zero
  | word (text : String) : IsFiller (.word text)

/-- Where a part of a term comes from that an expression is compiled to. -/
inductive Expr.PartFrom (scope : Scope) (condition : Bool) (whole : Expr) (place : List Nat)
    (part : Term) : Prop
  /-- An expression that is rendered there makes it. -/
  | rendered {core : Expr} {wanted : Bool} (isCore : core.IsCore)
      (placed : whole.Renders place core) (makes : scope.Makes wanted core part)
      (isCondition : wanted = true → whole.IsCondition condition place core) :
      PartFrom scope condition whole place part
  /-- A duration that is rendered there is read off it. -/
  | durationCall {callee : Option Expr} {method : Method} {args : List Expr} {callTy ty : Ty}
      {name : Member} {outer : List Nat} {unit : String} {template : Template} {calleeTerm : Term}
      {terms : List Term}
      (placed : whole.Renders outer (.member (some (.call callee method args callTy)) name ty))
      (isPlace : outer ++ durationPlace ty = place) (timed : name.owner = .timeSpan)
      (isUnit : durationUnit? name.name = some unit) (found : method.template? = some template)
      (ofCallee : scope.TargetGives callee calleeTerm)
      (ofArgs : List.Forall₂ (scope.GivesAs false) args terms)
      (isPart : part = .apply template (.word unit :: calleeTerm :: terms)) :
      PartFrom scope condition whole place part
  /-- It is a part of the group key, which was compiled before. -/
  | key {target : Option Expr} {name : Member} {ty : Ty} {key : Term} {outer inner : List Nat}
      (isKey : scope.groupKeyOf? name = some key)
      (placed : whole.Renders outer (.member target name ty)) (isPlace : outer ++ inner = place)
      (isPart : key.partAt? inner = some part) :
      PartFrom scope condition whole place part
  | filler (isFiller : part.IsFiller) : PartFrom scope condition whole place part

/-- The parts of a part come from where those of the whole come from. -/
theorem Expr.PartFrom.below {scope : Scope} {whole part : Expr} {condition within : Bool}
    {place : List Nat} {found : Term} (lead : List Nat)
    (partFrom : part.PartFrom scope within place found) (renders : whole.RendersBelow lead part)
    (root : within = true → whole.IsCondition condition lead part) :
    whole.PartFrom scope condition (lead ++ place) found := by
  cases partFrom with
  | rendered isCore placed makes isCondition =>
      exact .rendered isCore (renders _ _ placed) makes fun holds =>
        (isCondition holds).below renders root
  | durationCall placed isPlace timed isUnit isTemplate ofCallee ofArgs isPart =>
      refine .durationCall (renders _ _ placed) ?_ timed isUnit isTemplate ofCallee ofArgs isPart
      rw [← isPlace, List.append_assoc]
  | key isKey placed isPlace isPart =>
      refine .key isKey (renders _ _ placed) ?_ isPart
      rw [← isPlace, List.append_assoc]
  | filler isFiller => exact .filler isFiller

namespace Sql.Term

variable {term found : Term} {place : List Nat}

/-- Without parts there is nothing below. -/
theorem partAt?_of_parts_nil (parts : term.parts = []) (foundAt : term.partAt? place = some found) :
    place = [] ∧ found = term := by
  cases place with
  | nil =>
      cases foundAt
      exact ⟨rfl, rfl⟩
  | cons index rest =>
      rw [partAt?, parts] at foundAt
      cases foundAt

/-- What stands below the first level stands in a part. -/
theorem partAt?_cons_eq_some {index : Nat} {rest : List Nat}
    (foundAt : term.partAt? (index :: rest) = some found) :
    ∃ part, term.parts[index]? = some part ∧ part.partAt? rest = some found :=
  Option.bind_eq_some_iff.mp foundAt

theorem IsFiller.parts (isFiller : term.IsFiller) : term.parts = [] := by
  cases isFiller <;> rfl

end Sql.Term

namespace Sql.Scope

variable {scope : Scope}

/-- What terms hold at the place comes from the expressions that they are compiled from. -/
def PartsFrom (scope : Scope) (place : List Nat) : Prop :=
  ∀ ⦃expr : Expr⦄ ⦃condition : Bool⦄ ⦃term part : Term⦄, scope.GivesAs condition expr term →
    term.partAt? place = some part → expr.PartFrom scope condition place part

/-- The step for targets: a missing one is nothing. -/
theorem TargetGives.partFrom {target : Option Expr} {term part : Term} {place : List Nat}
    (ofTarget : scope.TargetGives target term) (partsFrom : scope.PartsFrom place)
    (foundAt : term.partAt? place = some part) :
    part.IsFiller ∨ ∃ expr, target = some expr ∧ expr.PartFrom scope false place part := by
  cases ofTarget with
  | missing =>
      obtain ⟨-, rfl⟩ := Term.partAt?_of_parts_nil rfl foundAt
      exact .inl .nothing
  | given gives => exact .inr ⟨_, rfl, partsFrom gives foundAt⟩

/-- The step for arguments. -/
theorem partFrom_of_args {args : List Expr} {terms : List Term} {term part : Term} {index : Nat}
    {rest : List Nat} (ofArgs : List.Forall₂ (scope.GivesAs false) args terms)
    (partsFrom : scope.PartsFrom rest) (isPart : terms[index]? = some term)
    (foundAt : term.partAt? rest = some part) :
    ∃ arg, args[index]? = some arg ∧ arg.PartFrom scope false rest part := by
  obtain ⟨arg, isArg, ofArg⟩ := getElem?_of_forall₂ ofArgs.flip isPart
  exact ⟨arg, isArg, partsFrom ofArg foundAt⟩

/-- What stands below the first level of a duration stands in the call that it is read off. -/
theorem partAt?_of_durationTerm {ty : Ty} {term part : Term} {index : Nat} {rest : List Nat}
    (foundAt : (durationTerm ty term).partAt? (index :: rest) = some part) :
    ∃ inCall, index :: rest = durationPlace ty ++ inCall ∧ term.partAt? inCall = some part := by
  unfold durationTerm at foundAt
  unfold durationPlace
  split at foundAt
  · obtain ⟨call, isCall, foundAt⟩ := Term.partAt?_cons_eq_some foundAt
    match index with
    | 0 =>
        cases isCall
        exact ⟨rest, by simp [*], foundAt⟩
  · exact ⟨index :: rest, by simp [*], foundAt⟩

/-- The step for calls and for durations that are read off them: below the call stand the target and
the arguments, behind as many fillers as the lead says. -/
theorem partFrom_of_call {callee : Option Expr} {args : List Expr} {calleeTerm term part : Term}
    {terms : List Term} {index : Nat} {rest : List Nat}
    (ofCallee : scope.TargetGives callee calleeTerm)
    (ofArgs : List.Forall₂ (scope.GivesAs false) args terms) (partsFrom : scope.PartsFrom rest)
    (isPart : (calleeTerm :: terms)[index]? = some term) (foundAt : term.partAt? rest = some part) :
    part.IsFiller ∨
      (index = 0 ∧ ∃ expr, callee = some expr ∧ expr.PartFrom scope false rest part) ∨
      ∃ position arg, index = position + 1 ∧ args[position]? = some arg ∧
        arg.PartFrom scope false rest part := by
  cases index with
  | zero =>
      cases isPart
      rcases ofCallee.partFrom partsFrom foundAt with isFiller | ofTarget
      · exact .inl isFiller
      · exact .inr (.inl ⟨rfl, ofTarget⟩)
  | succ position =>
      obtain ⟨arg, isArg, partFrom⟩ := partFrom_of_args ofArgs partsFrom isPart foundAt
      exact .inr (.inr ⟨position, arg, rfl, isArg, partFrom⟩)

/-- The step for durations. -/
theorem partFrom_of_duration {callee : Option Expr} {method : Method} {args : List Expr}
    {callTy ty : Ty} {name : Member} {unit : String} {template : Template} {calleeTerm part : Term}
    {terms : List Term} {index : Nat} {rest : List Nat} (timed : name.owner = .timeSpan)
    (isUnit : durationUnit? name.name = some unit) (found : method.template? = some template)
    (ofCallee : scope.TargetGives callee calleeTerm)
    (ofArgs : List.Forall₂ (scope.GivesAs false) args terms)
    (partsFrom : ∀ place : List Nat, place.length ≤ rest.length → scope.PartsFrom place)
    (foundAt : (durationTerm ty (.apply template (.word unit :: calleeTerm :: terms))).partAt?
      (index :: rest) = some part) (condition : Bool) :
    (Expr.member (some (.call callee method args callTy)) name ty).PartFrom scope condition
      (index :: rest) part := by
  obtain ⟨inCall, isPlace, foundAt⟩ := partAt?_of_durationTerm foundAt
  rw [isPlace]
  have shorter := congrArg List.length isPlace
  rw [List.length_cons, List.length_append] at shorter
  match inCall with
  | [] =>
      cases foundAt
      rw [List.append_nil]
      exact .durationCall (.whole _) (List.nil_append _) timed isUnit found ofCallee ofArgs rfl
  | 0 :: inner =>
      obtain ⟨term, isTerm, foundAt⟩ := Term.partAt?_cons_eq_some foundAt
      cases isTerm
      obtain ⟨-, rfl⟩ := Term.partAt?_of_parts_nil rfl foundAt
      exact .filler (.word unit)
  | (position + 1) :: inner =>
      obtain ⟨term, isTerm, foundAt⟩ := Term.partAt?_cons_eq_some foundAt
      have ofInner := partsFrom inner (by rw [List.length_cons] at shorter; omega)
      rw [List.append_cons]
      rcases partFrom_of_call ofCallee ofArgs ofInner isTerm foundAt with
        isFiller | ⟨rfl, expr, rfl, partFrom⟩ | ⟨position, arg, rfl, isArg, partFrom⟩
      · exact .filler isFiller
      · exact partFrom.below _ (Expr.rendersBelow_durationCallee timed) nofun
      · exact partFrom.below _ (Expr.rendersBelow_durationArgument timed isArg) nofun

/-- The step: what stands below a node comes from its parts. -/
theorem Makes.partFrom {core : Expr} {condition : Bool} {term part : Term} {index : Nat}
    {rest : List Nat} (makes : scope.Makes condition core term) (isCore : core.IsCore)
    (partsFrom : ∀ place : List Nat, place.length ≤ rest.length → scope.PartsFrom place)
    (foundAt : term.partAt? (index :: rest) = some part) :
    core.PartFrom scope condition (index :: rest) part := by
  have ofRest := partsFrom rest (Nat.le_refl _)
  obtain ⟨below, isBelow, belowAt⟩ := Term.partAt?_cons_eq_some foundAt
  cases makes with
  | binary found ofLeft ofRight =>
      match index with
      | 0 =>
          cases isBelow
          exact (ofRest ofLeft belowAt).below [0] (fun _ _ => .left) (.left (.whole _))
      | 1 =>
          cases isBelow
          exact (ofRest ofRight belowAt).below [1] (fun _ _ => .right) (.right (.whole _))
  | convert found ofOperand =>
      match index with
      | 0 =>
          cases isBelow
          exact (ofRest ofOperand belowAt).below [0] (fun _ _ => .operand) (.operand (.whole _))
  | unary found ofOperand =>
      match index with
      | 0 =>
          cases isBelow
          exact (ofRest ofOperand belowAt).below [0] (fun _ _ => .operand) (.operand (.whole _))
  | conditional ofTest ofTrue ofFalse =>
      match index with
      | 0 =>
          cases isBelow
          exact (ofRest ofTest belowAt).below [0] (fun _ _ => .test) fun _ => .test (.whole _)
      | 1 =>
          cases isBelow
          exact (ofRest ofTrue belowAt).below [1] (fun _ _ => .ifTrue) nofun
      | 2 =>
          cases isBelow
          exact (ofRest ofFalse belowAt).below [2] (fun _ _ => .ifFalse) nofun
  | key isKey => exact .key isKey (.whole _) rfl foundAt
  | duration timed isUnit found ofCallee ofArgs =>
      exact partFrom_of_duration timed isUnit found ofCallee ofArgs partsFrom foundAt condition
  | captured untimed done =>
      rcases Capture.compile_cases done with ⟨placeholder, rfl⟩ | ⟨query, -, statement, rfl, -⟩
      · cases isBelow
      · cases isBelow
  | property untimed notClosure found ofTarget =>
      match index with
      | 0 =>
          cases isBelow
          rcases ofTarget.partFrom ofRest belowAt with isFiller | ⟨expr, rfl, partFrom⟩
          · exact .filler isFiller
          · have notClosure captures ty : expr ≠ .closure captures ty :=
              fun isClosure => notClosure captures ty (congrArg some isClosure)
            exact partFrom.below [0]
              (fun _ _ => .property notClosure untimed (by rw [found]; rfl)) nofun
  | @column param name ty untimed =>
      rw [(parts_paramColumn scope condition param name ty).1] at isBelow
      cases isBelow
  | call found ofTarget ofArgs =>
      rcases partFrom_of_call ofTarget ofArgs ofRest isBelow belowAt with
        isFiller | ⟨rfl, expr, rfl, partFrom⟩ | ⟨position, arg, rfl, isArg, partFrom⟩
      · exact .filler isFiller
      · exact partFrom.below [0] (fun _ _ => .callee) nofun
      · exact partFrom.below [position + 1] (fun _ _ => .argument isArg) nofun
  | record ofArgs =>
      rw [Term.parts, map_term_label, List.getElem?_take] at isBelow
      split at isBelow
      · rename_i labelled
        obtain ⟨arg, isArg, partFrom⟩ := partFrom_of_args ofArgs ofRest isBelow belowAt
        exact partFrom.below [index] (fun _ _ => .field labelled isArg) nofun
      · cases isBelow
  | dateTime ofArgs =>
      rw [Term.parts, padParts, List.getElem?_append] at isBelow
      split at isBelow
      · obtain ⟨arg, isArg, partFrom⟩ := partFrom_of_args ofArgs ofRest isBelow belowAt
        exact partFrom.below [index] (fun _ _ => .datePart isArg) nofun
      · obtain rfl := List.eq_of_mem_replicate (List.mem_of_getElem? isBelow)
        obtain ⟨-, rfl⟩ := Term.partAt?_of_parts_nil rfl belowAt
        exact .filler .zero
  | lambda ofBody => exact absurd rfl (isCore _)
  | _ => cases isBelow

/-- The run: all parts of a compiled term come from the expression. -/
theorem GivesAs.partFrom {expr : Expr} {condition : Bool} {term part : Term} {place : List Nat}
    (gives : scope.GivesAs condition expr term) (foundAt : term.partAt? place = some part) :
    expr.PartFrom scope condition place part := by
  -- On the length of the place: a duration as a double stands two levels above its call.
  obtain ⟨isCore, renders, wanted, makes, isCondition⟩ := GivesAs.core expr gives
  match place with
  | [] =>
      cases foundAt
      exact .rendered isCore (renders _ _ (.whole _)) makes isCondition
  | index :: rest =>
      have partsFrom (shorter : List Nat) (within : shorter.length ≤ rest.length) :
          scope.PartsFrom shorter :=
        fun _ _ _ _ gives foundAt => GivesAs.partFrom gives foundAt
      exact (makes.partFrom isCore partsFrom foundAt).below [] renders isCondition
termination_by place.length
decreasing_by
  rw [List.length_cons]
  omega

end Sql.Scope

end TypedQuery
