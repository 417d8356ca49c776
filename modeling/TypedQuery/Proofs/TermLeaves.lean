/-
Module: TypedQuery.Proofs.TermLeaves
Purpose: What compiled terms hold at their ends: the sources that columns and rows are read
  from, and the commands nested in them. Every end of the term of an expression comes from a
  parameter that the expression refers to, from a field that keeps the rows of a source, from a
  query that it captures, or from the group key.
Main exports: Sql.Term.HasLeaf, Expr.references, Expr.LeafIn, Expr.leavesIn,
  Sql.Body.terms, Select.CompiledTo.leaf_cases
-/
import TypedQuery.Proofs.ClauseScopes
import TypedQuery.Proofs.Operands

namespace TypedQuery

/-- What stands in the second of two lists related member by member is related to a member of the
first. -/
theorem exists_of_forall₂ {α β : Type} {related : α → β → Prop} {items : List α} {images : List β}
    (all : List.Forall₂ related items images) {image : β} (present : image ∈ images) :
    ∃ item ∈ items, related item image := by
  induction all with
  | nil => cases present
  | cons first _ ih =>
      rcases List.mem_cons.mp present with rfl | inRest
      · exact ⟨_, .head _, first⟩
      · obtain ⟨item, isItem, holds⟩ := ih inRest
        exact ⟨item, .tail _ isItem, holds⟩

/-! ### Leaves -/

namespace Sql.Term

/-- The leaf is an end of the term. A nested command is one: its own terms are not entered. -/
inductive HasLeaf : Term → Term → Prop
  | whole {term : Term} (isLeaf : term.parts = []) : HasLeaf term term
  | part {term part leaf : Term} (isPart : part ∈ term.parts) (below : HasLeaf part leaf) :
      HasLeaf term leaf

/-- The alias that a row or a column is read from. -/
def table? : Term → Option String
  | .row table | .column table _ | .flag table _ => some table
  | _ => none

/-- The nested command. -/
def command? : Term → Option Statement
  | .subquery statement => some statement
  | _ => none

variable {term leaf : Term}

/-- The ends of a term with parts are those of its parts. -/
theorem HasLeaf.of_parts {first : Term} {others : List Term} (parts : term.parts = first :: others)
    (hasLeaf : term.HasLeaf leaf) : ∃ part ∈ first :: others, part.HasLeaf leaf := by
  cases hasLeaf with
  | whole isLeaf =>
      rw [isLeaf] at parts
      cases parts
  | part isPart below =>
      rw [parts] at isPart
      exact ⟨_, isPart, below⟩

/-- A term without parts is its only end. -/
theorem HasLeaf.eq_of_parts (parts : term.parts = []) (hasLeaf : term.HasLeaf leaf) :
    leaf = term := by
  cases hasLeaf with
  | whole isLeaf => rfl
  | part isPart below =>
      rw [parts] at isPart
      cases isPart

/-- Parentheses around a term change nothing at its ends. -/
theorem HasLeaf.of_encloseDisjunction {predicate : Expr}
    (hasLeaf : (encloseDisjunction predicate term).HasLeaf leaf) : term.HasLeaf leaf := by
  unfold encloseDisjunction at hasLeaf
  split at hasLeaf
  · split at hasLeaf
    · obtain ⟨part, isPart, below⟩ := hasLeaf.of_parts rfl
      rw [List.mem_singleton.mp isPart] at below
      exact below
    · exact hasLeaf
  · exact hasLeaf

end Sql.Term

open Sql Sql.Compile

/-! ### Parameters that an expression refers to -/

mutual

/-- Parameters that an expression refers to, those of the lambdas in it included. What captured
queries refer to is theirs. -/
def Expr.references : Expr → List Param
  | .member target _ _ => Expr.referencesTarget target
  | .constant _ _ => []
  | .closure _ _ => []
  | .parameter param => [param]
  | .unary _ operand _ => operand.references
  | .binary _ left right _ => left.references ++ right.references
  | .conditional test ifTrue ifFalse _ =>
    test.references ++ ifTrue.references ++ ifFalse.references
  | .call target _ args _ => Expr.referencesTarget target ++ Expr.referencesAll args
  | .construct _ args _ => Expr.referencesAll args
  | .lambda ⟨_, body⟩ => body.references
termination_by structural expr => expr

/-- Parameters that the target of a call or member refers to. -/
def Expr.referencesTarget : Option Expr → List Param
  | none => []
  | some target => target.references
termination_by structural target => target

/-- Parameters that several expressions refer to. -/
def Expr.referencesAll : List Expr → List Param
  | [] => []
  | expr :: rest => expr.references ++ Expr.referencesAll rest
termination_by structural exprs => exprs

end

theorem Expr.references_subset_all {expr : Expr} {exprs : List Expr} (present : expr ∈ exprs) :
    expr.references ⊆ Expr.referencesAll exprs := by
  induction exprs with
  | nil => cases present
  | cons first rest ih =>
      rw [Expr.referencesAll]
      rcases List.mem_cons.mp present with rfl | inRest
      · exact List.subset_append_left _ _
      · exact List.subset_append_of_subset_right _ (ih inRest)

theorem Expr.captured_subset_all {expr : Expr} {exprs : List Expr} (present : expr ∈ exprs) :
    expr.captured ⊆ Expr.capturedAll exprs := by
  induction exprs with
  | nil => cases present
  | cons first rest ih =>
      rw [Expr.capturedAll]
      rcases List.mem_cons.mp present with rfl | inRest
      · exact List.subset_append_left _ _
      · exact List.subset_append_of_subset_right _ (ih inRest)

/-! ### Where leaves come from -/

/-- The command is what the query is compiled to, under some prefix. -/
def Query.GivesCommand (resolver : Resolver) (query : Query) (statement : Statement) : Prop :=
  ∃ path nested parameters nested',
    query.compile resolver path nested = .ok ((statement, parameters), nested')

/-- What an end of a term has to do with the expression that is compiled to it. -/
inductive Expr.LeafIn (scope : Scope) (expr : Expr) : Term → Prop
  /-- An end of the group key, which was compiled before. -/
  | key {key leaf : Term} (isKey : scope.groupKey = some key) (isLeaf : key.HasLeaf leaf) :
      LeafIn scope expr leaf
  | plain {leaf : Term} (noTable : leaf.table? = none) (noCommand : leaf.command? = none) :
      LeafIn scope expr leaf
  | param {param : Param} {leaf : Term} (referred : param ∈ expr.references)
      (isTable : leaf.table? = some (scope.aliases.ofParam param))
      (noCommand : leaf.command? = none) : LeafIn scope expr leaf
  | kept {member : Member} {table column : String}
      (found : scope.aliases.ofMember? member = some table) :
      LeafIn scope expr (.column table column)
  | captured {query : Query} {statement : Statement} (isCaptured : query ∈ expr.captured)
      (gives : query.GivesCommand scope.resolver statement) :
      LeafIn scope expr (.subquery statement)

/-- A part of an expression refers to and captures no more than the whole. -/
theorem Expr.LeafIn.mono {scope : Scope} {part whole : Expr} {leaf : Term}
    (leafIn : part.LeafIn scope leaf) (references : part.references ⊆ whole.references)
    (captured : part.captured ⊆ whole.captured) : whole.LeafIn scope leaf := by
  cases leafIn with
  | key isKey isLeaf => exact .key isKey isLeaf
  | plain noTable noCommand => exact .plain noTable noCommand
  | param referred isTable noCommand => exact .param (references referred) isTable noCommand
  | kept found => exact .kept found
  | captured isCaptured gives => exact .captured (captured isCaptured) gives

theorem Sql.table?_paramColumn (scope : Scope) (condition : Bool) (param : Param) (name : Member)
    (ty : Ty) :
    (paramColumn scope condition param name ty).table? = some (scope.aliases.ofParam param) := by
  unfold paramColumn
  dsimp only
  split <;> rfl

theorem Sql.parts_paramColumn (scope : Scope) (condition : Bool) (param : Param) (name : Member)
    (ty : Ty) : (paramColumn scope condition param name ty).parts = [] ∧
      (paramColumn scope condition param name ty).command? = none := by
  unfold paramColumn
  dsimp only
  split <;> exact ⟨rfl, rfl⟩

/-- A captured variable is a placeholder, or the command of a captured query. -/
theorem Capture.compile_cases {scope : Scope} {name : String} {captures : List Capture}
    {progress progress' : Progress} {term : Term}
    (done : Capture.compile scope name captures progress = .ok (term, progress')) :
    (∃ placeholder, term = .placeholder placeholder) ∨
      ∃ query ∈ captures.filterMap Capture.query?, ∃ statement, term = .subquery statement ∧
        query.GivesCommand scope.resolver statement := by
  induction captures with
  | nil =>
      rw [Capture.compile] at done
      cases done
  | cons capture rest ih =>
      cases capture with
      | value held value =>
          rw [Capture.compile] at done
          split at done
          · cases done
            exact .inl ⟨_, rfl⟩
          · exact ih done
      | query held query =>
          rw [Capture.compile] at done
          split at done
          · obtain ⟨path, _, -, done⟩ := bind_eq_ok done
            obtain ⟨statement, _, ofQuery, done⟩ := bind_eq_ok done
            cases done
            obtain ⟨parameters, nested, ofQuery⟩ := embed_eq_ok ofQuery
            exact .inr ⟨query, by simp [Capture.query?], statement, rfl, path, _, parameters,
              nested, ofQuery⟩
          · rcases ih done with isValue | ⟨found, present, statement, isTerm, gives⟩
            · exact .inl isValue
            · refine .inr ⟨found, ?_, statement, isTerm, gives⟩
              simp only [List.filterMap_cons, Capture.query?, List.mem_cons]
              exact .inr present

/-- Every end of what the expression is compiled to has to do with the expression. -/
def Expr.LeavesIn (scope : Scope) (expr : Expr) : Prop :=
  ∀ term leaf, scope.Gives expr term → term.HasLeaf leaf → expr.LeafIn scope leaf

/-- The step for arguments: their ends have to do with what holds the arguments. -/
theorem Expr.leafIn_of_args {scope : Scope} {whole : Expr} {args : List Expr} {terms : List Term}
    {part leaf : Term} (leavesIn : ∀ arg ∈ args, arg.LeavesIn scope)
    (gives : List.Forall₂ scope.Gives args terms) (isPart : part ∈ terms)
    (hasLeaf : part.HasLeaf leaf) (references : Expr.referencesAll args ⊆ whole.references)
    (captured : Expr.capturedAll args ⊆ whole.captured) : whole.LeafIn scope leaf := by
  obtain ⟨arg, present, ofArg⟩ := exists_of_forall₂ gives isPart
  exact (leavesIn arg present _ _ ofArg hasLeaf).mono
    (List.Subset.trans (Expr.references_subset_all present) references)
    (List.Subset.trans (Expr.captured_subset_all present) captured)

/-- The step for targets: a target that is missing is a plain end. -/
theorem Expr.leafIn_of_target {scope : Scope} {whole : Expr} {target : Option Expr}
    {progress progress' : Progress} {term leaf : Term}
    (leavesIn : ∀ expr ∈ target, expr.LeavesIn scope)
    (done : Expr.compileTarget scope target progress = .ok (term, progress'))
    (hasLeaf : term.HasLeaf leaf) (references : Expr.referencesTarget target ⊆ whole.references)
    (captured : Expr.capturedTarget target ⊆ whole.captured) : whole.LeafIn scope leaf := by
  cases target with
  | none =>
      rw [Expr.compileTarget] at done
      cases done
      rw [hasLeaf.eq_of_parts rfl]
      exact .plain rfl rfl
  | some expr =>
      rw [Expr.compileTarget] at done
      exact (leavesIn expr rfl _ _ ⟨_, _, _, done⟩ hasLeaf).mono references captured

/-- A duration is read off a call: its ends are the unit and those of the call. -/
theorem Sql.Term.HasLeaf.of_durationTerm {ty : Ty} {template : Template} {slots : List Term}
    {leaf : Term} (hasLeaf : (durationTerm ty (.apply template slots)).HasLeaf leaf) :
    (Term.apply template slots).HasLeaf leaf := by
  unfold durationTerm at hasLeaf
  split at hasLeaf
  · obtain ⟨part, isPart, below⟩ := hasLeaf.of_parts rfl
    rw [List.mem_singleton.mp isPart] at below
    exact below
  · exact hasLeaf

/-- The step for members, from the target and from the parts of a call that is the target. -/
theorem Expr.leavesIn_member {scope : Scope} {target : Option Expr} (name : Member) (ty : Ty)
    (whole : ∀ expr ∈ target, expr.LeavesIn scope)
    (parts : Expr.TargetParts
      (fun callee args => (∀ expr ∈ callee, expr.LeavesIn scope) ∧
        ∀ arg ∈ args, arg.LeavesIn scope) (fun _ => True) target) :
    (Expr.member target name ty).LeavesIn scope := by
  rintro term leaf ⟨condition, progress, progress', done⟩ hasLeaf
  have arises := Expr.memberForm_arises scope target name ty
  rw [Expr.compile_member] at done
  cases form : Expr.memberForm scope target name ty with
  | key key =>
      rw [form] at done arises
      cases done
      cases arises with
      | key keyed => exact .key (scope.groupKeyOf?_mem keyed) hasLeaf
  | refused fragment =>
      rw [form] at done
      cases done
  | duration unit template callee args =>
      obtain ⟨ofCallee, ofArgs⟩ := parts.duration form
      rw [form] at done arises
      obtain ⟨calleeTerm, _, calleeDone, done⟩ := bind_eq_ok done
      obtain ⟨terms, _, argsDone, done⟩ := bind_eq_ok done
      cases done
      cases arises with
      | duration unkeyed timed isUnit isCall found =>
          subst isCall
          obtain ⟨part, isPart, below⟩ := hasLeaf.of_durationTerm.of_parts rfl
          rcases List.mem_cons.mp isPart with rfl | isPart
          · rw [below.eq_of_parts rfl]
            exact .plain rfl rfl
          · rcases List.mem_cons.mp isPart with rfl | isPart
            · exact Expr.leafIn_of_target ofCallee calleeDone below
                (List.subset_append_left _ _) (List.subset_append_left _ _)
            · exact Expr.leafIn_of_args ofArgs (Scope.Gives.all argsDone) isPart below
                (List.subset_append_right _ _) (List.subset_append_right _ _)
  | captured captures =>
      rw [form] at done arises
      cases arises with
      | captured unkeyed untimed isClosure =>
          subst isClosure
          rcases Capture.compile_cases done with
            ⟨placeholder, rfl⟩ | ⟨query, present, statement, rfl, gives⟩
          · rw [hasLeaf.eq_of_parts rfl]
            exact .plain rfl rfl
          · rw [hasLeaf.eq_of_parts rfl]
            exact .captured present gives
  | property template =>
      rw [form] at done
      obtain ⟨callee, _, calleeDone, done⟩ := bind_eq_ok done
      cases done
      obtain ⟨part, isPart, below⟩ := hasLeaf.of_parts rfl
      rw [List.mem_singleton.mp isPart] at below
      exact Expr.leafIn_of_target whole calleeDone below (List.Subset.refl _)
        (List.Subset.refl _)
  | column =>
      rw [form, Expr.compileMember] at done
      rcases memberColumn_cases scope condition target name ty with
        ⟨param, rfl, isForm⟩ | ⟨outer, inner, innerTy, table, rfl, found, isForm⟩ |
          ⟨fragment, isForm⟩
      · rw [isForm] at done
        cases done
        obtain ⟨noParts, noCommand⟩ := Sql.parts_paramColumn scope condition param name ty
        rw [hasLeaf.eq_of_parts noParts]
        exact .param (.head _) (Sql.table?_paramColumn ..) noCommand
      · rw [isForm] at done
        cases done
        rw [hasLeaf.eq_of_parts rfl]
        exact .kept found
      · rw [isForm] at done
        cases done

mutual

/-- Every end of the term of an expression has to do with the expression. -/
theorem Expr.leavesIn (scope : Scope) : ∀ expr : Expr, expr.LeavesIn scope
  | .binary op left right ty => by
      intro term leaf gives hasLeaf
      obtain ⟨operator, leftTerm, rightTerm, rfl, ofLeft, ofRight⟩ := gives.binary
      obtain ⟨part, isPart, below⟩ := hasLeaf.of_parts rfl
      rcases List.mem_pair.mp isPart with rfl | rfl
      · exact (Expr.leavesIn scope left _ _ ofLeft below).mono
          (List.subset_append_left _ _) (List.subset_append_left _ _)
      · exact (Expr.leavesIn scope right _ _ ofRight below).mono
          (List.subset_append_right _ _) (List.subset_append_right _ _)
  | .unary op operand ty => by
      intro term leaf gives hasLeaf
      obtain ⟨operandTerm, parts, ofOperand⟩ := gives.unary
      obtain ⟨part, isPart, below⟩ := hasLeaf.of_parts parts
      rw [List.mem_singleton.mp isPart] at below
      exact (Expr.leavesIn scope operand _ _ ofOperand below).mono (List.Subset.refl _)
        (List.Subset.refl _)
  | .conditional test ifTrue ifFalse ty => by
      intro term leaf gives hasLeaf
      obtain ⟨testTerm, trueTerm, falseTerm, rfl, ofTest, ofTrue, ofFalse⟩ := gives.conditional
      obtain ⟨part, isPart, below⟩ := hasLeaf.of_parts rfl
      simp only [List.mem_cons, List.not_mem_nil, or_false] at isPart
      rcases isPart with rfl | rfl | rfl
      · refine (Expr.leavesIn scope test _ _ ofTest below).mono ?_ ?_ <;>
          intro item present <;> simp [Expr.references, Expr.captured, present]
      · refine (Expr.leavesIn scope ifTrue _ _ ofTrue below).mono ?_ ?_ <;>
          intro item present <;> simp [Expr.references, Expr.captured, present]
      · refine (Expr.leavesIn scope ifFalse _ _ ofFalse below).mono ?_ ?_ <;>
          intro item present <;> simp [Expr.references, Expr.captured, present]
  | .member target name ty => by
      refine Expr.leavesIn_member name ty (Expr.leavesIn_target scope target) ?_
      cases target with
      | none => trivial
      | some expr =>
          cases expr with
          | call callee method args ty =>
              exact ⟨Expr.leavesIn_target scope callee, Expr.leavesIn_all scope args⟩
          | _ => trivial
  | .call target method args ty => by
      rintro term leaf ⟨condition, progress, progress', done⟩ hasLeaf
      rw [Expr.compile] at done
      obtain ⟨callee, _, calleeDone, done⟩ := bind_eq_ok done
      obtain ⟨terms, _, argsDone, done⟩ := bind_eq_ok done
      rcases callTerm_cases method (callee :: terms) with ⟨template, -, form⟩ | ⟨fragment, form⟩
      · rw [form] at done
        cases done
        obtain ⟨part, isPart, below⟩ := hasLeaf.of_parts rfl
        rcases List.mem_cons.mp isPart with rfl | isPart
        · exact Expr.leafIn_of_target (Expr.leavesIn_target scope target) calleeDone below
            (List.subset_append_left _ _) (List.subset_append_left _ _)
        · exact Expr.leafIn_of_args (Expr.leavesIn_all scope args) (Scope.Gives.all argsDone)
            isPart below (List.subset_append_right _ _) (List.subset_append_right _ _)
      · rw [form] at done
        cases done
  | .construct ctor args ty => by
      rintro term leaf ⟨condition, progress, progress', done⟩ hasLeaf
      rw [Expr.compile] at done
      obtain ⟨terms, _, argsDone, done⟩ := bind_eq_ok done
      -- A part of the construction is an argument, or one of the zeros of a point in time.
      have ofArg {part : Term} (isPart : part ∈ terms) (below : part.HasLeaf leaf) :
          (Expr.construct ctor args ty).LeafIn scope leaf :=
        Expr.leafIn_of_args (Expr.leavesIn_all scope args) (Scope.Gives.all argsDone) isPart below
          (List.Subset.refl _) (List.Subset.refl _)
      cases ctor with
      | record names =>
          cases done
          cases hasLeaf with
          | whole isLeaf => exact .plain rfl rfl
          | part isPart below =>
              rw [Term.parts, map_term_label] at isPart
              exact ofArg (List.mem_of_mem_take isPart) below
      | dateTime =>
          cases done
          cases hasLeaf with
          | whole isLeaf => exact .plain rfl rfl
          | part isPart below =>
              rcases List.mem_append.mp isPart with isPart | isZero
              · exact ofArg isPart below
              · rw [List.eq_of_mem_replicate isZero] at below
                rw [below.eq_of_parts rfl]
                exact .plain rfl rfl
      | random =>
          cases done
          rw [hasLeaf.eq_of_parts rfl]
          exact .plain rfl rfl
      | named name => cases done
  | .constant value ty => by
      rintro term leaf ⟨condition, progress, progress', done⟩ hasLeaf
      have isPlain : term.parts = [] ∧ term.table? = none ∧ term.command? = none := by
        cases value <;> cases done <;> exact ⟨rfl, rfl, rfl⟩
      rw [hasLeaf.eq_of_parts isPlain.1]
      exact .plain isPlain.2.1 isPlain.2.2
  | .closure captures ty => by
      rintro term leaf ⟨condition, progress, progress', done⟩ hasLeaf
      cases done
  | .parameter param => by
      rintro term leaf ⟨condition, progress, progress', done⟩ hasLeaf
      cases done
      rw [hasLeaf.eq_of_parts rfl]
      exact .param (.head _) rfl rfl
  | .lambda ⟨params, body⟩ => by
      intro term leaf gives hasLeaf
      exact (Expr.leavesIn scope body _ _ gives.lambda hasLeaf).mono (List.Subset.refl _)
        (List.Subset.refl _)
termination_by structural expr => expr

theorem Expr.leavesIn_target (scope : Scope) : ∀ target : Option Expr,
    ∀ expr ∈ target, expr.LeavesIn scope
  | none => by simp
  | some target => by
      rintro _ ⟨⟩
      exact Expr.leavesIn scope target
termination_by structural target => target

theorem Expr.leavesIn_all (scope : Scope) : ∀ exprs : List Expr,
    ∀ expr ∈ exprs, expr.LeavesIn scope
  | [] => by simp
  | first :: rest =>
      List.forall_mem_cons.mpr ⟨Expr.leavesIn scope first, Expr.leavesIn_all scope rest⟩
termination_by structural exprs => exprs

end

/-! ### Whole commands -/

/-- The terms of a selection. -/
def Sql.Selection.parts : Selection → List Term
  | .all => []
  | .allOf row => [row]
  | .terms term => [term]

/-- The terms of a command's own clauses. -/
def Sql.Body.terms (body : Body) : List Term :=
  body.joins.flatMap (fun clause => [clause.outer, clause.inner]) ++ body.filters ++
    body.groupBy.getD [] ++ body.having ++ body.orderBy.map (·.term) ++ body.selection.parts

theorem Sql.eq_of_mem_selectionOf {projection : Expr} {term part : Term}
    (present : part ∈ (selectionOf projection term).parts) : part = term := by
  cases projection <;> exact List.mem_singleton.mp present

/-- The expressions that a key groups by are parts of the key. -/
theorem Expr.subset_of_mem_groupFields {key expr : Expr} (present : expr ∈ key.groupFields) :
    expr.references ⊆ key.references ∧ expr.captured ⊆ key.captured := by
  have single (isKey : key.groupFields = [key]) :
      expr.references ⊆ key.references ∧ expr.captured ⊆ key.captured := by
    rw [isKey] at present
    rw [List.mem_singleton.mp present]
    exact ⟨List.Subset.refl _, List.Subset.refl _⟩
  cases key with
  | construct ctor args ty =>
      cases ctor with
      | record names =>
          exact ⟨Expr.references_subset_all present, Expr.captured_subset_all present⟩
      | _ => exact single rfl
  | _ => exact single rfl

theorem Select.mem_functions_of_selected {node : Select} {function : Lambda}
    (selected : node.projection.or (node.joins.getLast?.map (·.result)) = some function) :
    function ∈ node.functions := by
  simp only [functions, unaryFunctions, List.mem_append, List.mem_map, Option.mem_toList]
  rcases Option.or_eq_some_iff.mp selected with isProjection | ⟨-, isLast⟩
  · simp [isProjection]
  · obtain ⟨join, isJoin, rfl⟩ := Option.map_eq_some_iff.mp isLast
    exact .inr ⟨join, List.mem_of_getLast? isJoin, rfl⟩

/-- The end has to do with a lambda of the node, by the aliases of some place in it. -/
def Select.HasLeaf (resolver : Resolver) (path : String) (node : Select) (leaf : Term) : Prop :=
  ∃ function ∈ node.functions, ∃ count aliases, node.aliasesAt path count = .ok aliases ∧
    function.body.LeafIn ⟨resolver, path, aliases, none⟩ leaf

namespace Select.CompiledTo

variable {resolver : Resolver} {path : String} {node : Select} {first joined : Aliases}
  {key : Option Term} {body : Body} {term leaf : Term}

/-- A lambda compiled before the grouping. -/
theorem hasLeaf_of_gives (compiled : node.CompiledTo resolver path first joined key body)
    {function : Lambda} (present : function ∈ node.functions)
    (gives : Scope.Gives ⟨resolver, path, joined, none⟩ function.body term)
    (hasLeaf : term.HasLeaf leaf) : node.HasLeaf resolver path leaf :=
  ⟨function, present, _, joined, compiled.aliasesAt_length,
    Expr.leavesIn _ _ _ _ gives hasLeaf⟩

/-- The grouping itself. -/
theorem hasLeaf_of_groupBy (compiled : node.CompiledTo resolver path first joined key body)
    {terms : List Term} (isGroupBy : body.groupBy = some terms) (isTerm : term ∈ terms)
    (hasLeaf : term.HasLeaf leaf) : node.HasLeaf resolver path leaf := by
  cases isKey : node.groupKey with
  | none =>
      rw [(compiled.ungrouped isKey).1] at isGroupBy
      cases isGroupBy
  | some function =>
      obtain ⟨found, _, _, isFound, -, ofFields⟩ := compiled.grouped function isKey
      obtain rfl : found = terms := Option.some.inj (isFound.symm.trans isGroupBy)
      obtain ⟨expr, isField, ofField⟩ := exists_of_forall₂ (Scope.Gives.all ofFields) isTerm
      obtain ⟨references, captured⟩ := Expr.subset_of_mem_groupFields isField
      refine ⟨function, ?_, _, joined, compiled.aliasesAt_length,
        (Expr.leavesIn _ _ _ _ ofField hasLeaf).mono references captured⟩
      simp [Select.functions, Select.unaryFunctions, isKey]

/-- A lambda compiled after the grouping, which may read the key. -/
theorem hasLeaf_of_gives_key (compiled : node.CompiledTo resolver path first joined key body)
    {function : Lambda} (present : function ∈ node.functions)
    (gives : Scope.Gives ⟨resolver, path, joined, key⟩ function.body term)
    (hasLeaf : term.HasLeaf leaf) : node.HasLeaf resolver path leaf := by
  have own (leafIn : function.body.LeafIn ⟨resolver, path, joined, none⟩ leaf) :
      node.HasLeaf resolver path leaf :=
    ⟨function, present, _, joined, compiled.aliasesAt_length, leafIn⟩
  cases Expr.leavesIn _ _ _ _ gives hasLeaf with
  | plain noTable noCommand => exact own (.plain noTable noCommand)
  | param referred isTable noCommand => exact own (.param referred isTable noCommand)
  | kept found => exact own (.kept found)
  | captured isCaptured gives => exact own (.captured isCaptured gives)
  | key isKey isLeaf =>
      obtain ⟨terms, isGroupBy, isTerm⟩ := compiled.key_mem _ isKey
      exact compiled.hasLeaf_of_groupBy isGroupBy isTerm isLeaf

/-- The keys of a join: the inner one is a column of the joined source. -/
theorem leaf_of_join (compiled : node.CompiledTo resolver path first joined key body)
    {clause : JoinClause} (isClause : clause ∈ body.joins)
    (isTerm : term ∈ [clause.outer, clause.inner]) (hasLeaf : term.HasLeaf leaf) :
    (∃ column, leaf = .column clause.table column) ∨ node.HasLeaf resolver path leaf := by
  obtain ⟨join, isJoin, index, before, bound, isAt, joinCompiled⟩ :=
    compiled.join_of_clause isClause
  rcases List.mem_pair.mp isTerm with rfl | rfl
  · refine .inr ⟨join.outerKey, ?_, index, bound, isAt,
      Expr.leavesIn _ _ _ _ joinCompiled.outer.gives hasLeaf⟩
    simp only [Select.functions, Select.unaryFunctions, List.mem_append, List.mem_flatMap]
    exact .inl (.inr ⟨join, isJoin, by simp⟩)
  · obtain ⟨member, -, isInner⟩ := joinCompiled.inner
    rw [isInner] at hasLeaf
    exact .inl ⟨_, hasLeaf.eq_of_parts rfl⟩

/-- The columns of the command: those of a lambda of the node, unless all are taken. -/
theorem hasLeaf_of_selection (compiled : node.CompiledTo resolver path first joined key body)
    (isTerm : term ∈ body.selection.parts) (hasLeaf : term.HasLeaf leaf) :
    node.HasLeaf resolver path leaf := by
  cases selected : node.projection.or (node.joins.getLast?.map (·.result)) with
  | none =>
      rw [compiled.allColumns selected] at isTerm
      cases isTerm
  | some function =>
      obtain ⟨inner, isSelection, gives⟩ := compiled.onGroups.columns function selected
      rw [isSelection] at isTerm
      rw [eq_of_mem_selectionOf isTerm] at hasLeaf
      exact compiled.hasLeaf_of_gives_key (mem_functions_of_selected selected) gives hasLeaf

/-- Every end in a clause of a command is the inner key of a join, or has to do with a lambda of
the node. -/
theorem leaf_cases (compiled : node.CompiledTo resolver path first joined key body)
    (isTerm : term ∈ body.terms) (hasLeaf : term.HasLeaf leaf) :
    (∃ clause ∈ body.joins, ∃ column, leaf = .column clause.table column) ∨
      node.HasLeaf resolver path leaf := by
  simp only [Body.terms, List.mem_append, List.mem_flatMap, List.mem_map] at isTerm
  rcases isTerm with ((((⟨clause, isClause, isTerm⟩ | isTerm) | isTerm) | isTerm) |
    ⟨sortKey, isSortKey, rfl⟩) | isTerm
  · rcases compiled.leaf_of_join isClause isTerm hasLeaf with isInner | ofLambda
    · exact .inl ⟨clause, isClause, isInner⟩
    · exact .inr ofLambda
  · obtain ⟨predicate, present, inner, rfl, gives⟩ := exists_of_forall₂ compiled.filters isTerm
    refine .inr (compiled.hasLeaf_of_gives ?_ gives hasLeaf.of_encloseDisjunction)
    simp [Select.functions, Select.unaryFunctions, present]
  · cases isGroupBy : body.groupBy with
    | none =>
        rw [isGroupBy] at isTerm
        cases isTerm
    | some terms =>
        rw [isGroupBy] at isTerm
        exact .inr (compiled.hasLeaf_of_groupBy isGroupBy isTerm hasLeaf)
  · obtain ⟨predicate, present, inner, rfl, gives⟩ :=
      exists_of_forall₂ compiled.onGroups.having isTerm
    refine .inr (compiled.hasLeaf_of_gives_key ?_ gives hasLeaf.of_encloseDisjunction)
    simp [Select.functions, Select.unaryFunctions, present]
  · obtain ⟨order, present, gives⟩ := exists_of_forall₂ compiled.onGroups.orderBy isSortKey
    refine .inr (compiled.hasLeaf_of_gives_key ?_ gives hasLeaf)
    simp only [Select.functions, Select.unaryFunctions, List.mem_append, List.mem_map]
    exact .inl (.inl (.inr ⟨order, present, rfl⟩))
  · exact .inr (compiled.hasLeaf_of_selection isTerm hasLeaf)

end Select.CompiledTo

end TypedQuery
