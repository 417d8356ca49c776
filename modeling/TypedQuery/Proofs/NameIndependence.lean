/-
Module: TypedQuery.Proofs.NameIndependence
Purpose: The path of a command and the names of tables and columns reach identifiers only. A query
  compiled further down, or with other names, fails in the same way or binds the same values in the
  same order, and a path moves the placeholders below itself and does nothing else.
Main exports: Parameters.under, Parameters.Moved, Sql.Scope.Moved, Sql.Compile.Moves,
  Sql.Nested.Moves, Query.compile_moved, Query.compileSource_moved, Query.compile_paired_below,
  Query.toCommand_paired_of_resolvers
-/
import TypedQuery.Proofs.Compilation
import TypedQuery.Proofs.Coupling
import TypedQuery.Proofs.ParameterMap

namespace TypedQuery

open Sql Sql.Compile

/-! ### Parameters below a path -/

namespace Parameters

/-- Name of a placeholder below a path. -/
def nameUnder (path name : String) : String := "@" ++ path ++ name

/-- The values of bare names, under the names that their placeholders have below a path. -/
def under (path : String) (bare : Parameters) : Parameters :=
  ⟨bare.entries.map fun (name, value) => (nameUnder path name, value)⟩

theorem nameUnder_inj {path name other : String} :
    nameUnder path name = nameUnder path other ↔ name = other :=
  String.append_right_inj _

theorem size_under (path : String) (bare : Parameters) : (bare.under path).size = bare.size := by
  simp [under, size]

theorem under_insert (path : String) (bare : Parameters) (name : String) (value : Value) :
    (bare.insert name value).under path =
      (bare.under path).insert (nameUnder path name) value := by
  obtain ⟨entries⟩ := bare
  simp only [under, insert_eq, mk.injEq]
  induction entries with
  | nil => rfl
  | cons entry rest ih =>
      simp only [insertEntry, List.map_cons, nameUnder_inj]
      split
      · rfl
      · rw [List.map_cons, ih]

theorem under_merge (path : String) (bare other : Parameters) :
    (bare.merge other).under path = (bare.under path).merge (other.under path) := by
  simp only [merge, insertAll]
  rw [under.eq_def path other, List.foldl_map]
  refine (List.foldl_hom (under path) ?_).symm
  intro held pair
  exact (under_insert path held pair.1 pair.2).symm

/-- The same values in the same order, under the same names; the second's names have a path more
behind the mark of a placeholder. -/
def Moved (lead : String) (first second : Parameters) : Prop :=
  ∃ bare : Parameters, first = bare.under "" ∧ second = bare.under lead

namespace Moved

variable {lead : String} {first second other other' : Parameters}

theorem empty : Moved lead .empty .empty := ⟨.empty, rfl, rfl⟩

theorem insert (moved : Moved lead first second) (name : String) (value : Value) :
    Moved lead (first.insert (nameUnder "" name) value)
      (second.insert (nameUnder lead name) value) := by
  obtain ⟨bare, rfl, rfl⟩ := moved
  exact ⟨bare.insert name value, (under_insert ..).symm, (under_insert ..).symm⟩

theorem merge (moved : Moved lead first second) (movedOther : Moved lead other other') :
    Moved lead (first.merge other) (second.merge other') := by
  obtain ⟨bare, rfl, rfl⟩ := moved
  obtain ⟨bareOther, rfl, rfl⟩ := movedOther
  exact ⟨bare.merge bareOther, (under_merge ..).symm, (under_merge ..).symm⟩

theorem size_eq (moved : Moved lead first second) : first.size = second.size := by
  obtain ⟨bare, rfl, rfl⟩ := moved
  rw [size_under, size_under]

theorem eq_of_empty (moved : Moved "" first second) : first = second := by
  obtain ⟨bare, rfl, rfl⟩ := moved
  rfl

end Moved

end Parameters

namespace Sql

/-! ### Scopes that differ in names only -/

/-- Both are null, or neither is. -/
def Term.SameNull (first second : Term) : Prop := first.isNull = second.isNull

namespace Aliases

/-- The same fields hold rows of sources, and rows of the first source can be told apart in both or
in neither. What the sources are called is left open. -/
def SameRows (first second : Aliases) : Prop :=
  first.registered.map Prod.fst = second.registered.map Prod.fst ∧
    first.last.isSome = second.last.isSome

variable {first second : Aliases}

theorem isSome_ofMember? (aliases : Aliases) (member : Member) :
    (aliases.ofMember? member).isSome =
      ((aliases.registered.map Prod.fst).any (· == member) || aliases.last.isSome) := by
  have isFound : (aliases.registered.find? (·.1 == member)).isSome =
      (aliases.registered.map Prod.fst).any (· == member) := by
    rw [List.any_map, Bool.eq_iff_iff, List.find?_isSome, List.any_eq_true]
    rfl
  rw [ofMember?, ← isFound]
  cases aliases.registered.find? (·.1 == member) with
  | some entry => rfl
  | none => rfl

namespace SameRows

theorem ofMember? (same : SameRows first second) (member : Member) :
    (first.ofMember? member).isSome = (second.ofMember? member).isSome := by
  rw [isSome_ofMember?, isSome_ofMember?, same.1, same.2]

theorem register (same : SameRows first second) (member : Option Member) (table table' : String) :
    SameRows (first.register member table) (second.register member table') := by
  cases member with
  | none => exact same
  | some member => exact ⟨congrArg (member :: ·) same.1, same.2⟩

theorem advance (same : SameRows first second) (table table' : String) :
    SameRows (first.advance table) (second.advance table') := by
  refine ⟨same.1, ?_⟩
  simp only [Aliases.advance, Option.isSome_map]
  exact same.2

end SameRows

theorem bindSource_sameRows (path path' : String) (node : Select) :
    Paired (fun one two => SameRows one.2 two.2) (· = ·) (bindSource path node)
      (bindSource path' node) := by
  unfold bindSource
  cases node.joins with
  | nil =>
      dsimp only
      cases search node.modelType (expansionLevels + ([] : List Join).length)
          (firstOfEachType ((lambdas node).flatMap (·.params))) with
      | some name => exact .ok ⟨rfl, rfl⟩
      | none => exact .ok ⟨rfl, rfl⟩
  | cons join rest =>
      dsimp only
      cases resultParam join 0 with
      | error error => exact .error rfl
      | ok param =>
          cases rowField? join.result 0 with
          | some member => exact .ok ⟨rfl, rfl⟩
          | none => exact .ok ⟨rfl, rfl⟩

theorem bindJoin_sameRows (same : SameRows first second) (join : Join) :
    Paired (fun one two => SameRows one.2 two.2) (· = ·) (first.bindJoin join)
      (second.bindJoin join) := by
  unfold bindJoin
  cases resultParam join 1 with
  | error error => exact .error rfl
  | ok param => exact .ok (same.register _ _ _)

end Aliases

/-- The second scope is that of a command further down: its path has the lead in front. Names of
tables, columns and aliases may differ at will. -/
structure Scope.Moved (lead : String) (first second : Scope) : Prop where
  path : second.path = lead ++ first.path
  rows : first.aliases.SameRows second.aliases
  key : Option.Rel Term.SameNull first.groupKey second.groupKey

/-! ### Compilations that differ in names only -/

/-- Parts of commands: related results, and the same failures. -/
abbrev Compile.Moves {α β : Type} (lead : String) (result : α → β → Prop) (first : Compile α)
    (second : Compile β) : Prop :=
  Coupled (Progress.Related (Parameters.Moved lead)) result (· = ·) first second

/-- Whole commands: the same values bound, and the same failures. -/
abbrev Nested.Moves {α β : Type} (lead : String) (first : Nested (α × Parameters))
    (second : Nested (β × Parameters)) : Prop :=
  Coupled (· = ·) (fun one two => one.2.Moved lead two.2) (· = ·) first second

/-- Any two results. -/
def Unrelated {α β : Type} (_ : α) (_ : β) : Prop := True

namespace Compile.Moves

variable {α β γ δ : Type} {lead : String} {scope scope' : Scope} {result : α → β → Prop}

theorem lift {first : Except Error α} {second : Except Error β}
    (outcomes : Paired result (· = ·) first second) :
    Compile.Moves lead result (liftM first : Compile α) (liftM second : Compile β) := by
  cases outcomes with
  | ok related => exact .pure related
  | error same => exact .throw same

/-- What the results are does not matter. -/
theorem forget {first : Compile α} {second : Compile β}
    (moves : Compile.Moves lead result first second) :
    Compile.Moves lead Unrelated first second :=
  fun s t states => (moves s t states).imp fun _ _ related => ⟨trivial, related.2⟩

theorem unsupported (fragment : Fragment) :
    Compile.Moves lead result (Compile.unsupported fragment) (Compile.unsupported fragment) :=
  .throw rfl

/-- A placeholder is numbered by how many there are, which a path does not change. -/
theorem bindValue (scopes : scope.Moved lead scope') (value : Value) :
    Compile.Moves lead Term.SameNull (Compile.bindValue scope value)
      (Compile.bindValue scope' value) := by
  intro s t states
  have moved := states.2.insert (scope.path ++ "p" ++ toString s.parameters.size) value
  refine .ok ⟨rfl, states.1, ?_⟩
  simpa [Parameters.nameUnder, String.append_assoc, scopes.path, ← states.2.size_eq] using moved

theorem nextPath (scopes : scope.Moved lead scope') :
    Compile.Moves lead (fun path path' => path' = lead ++ path) (Compile.nextPath scope)
      (Compile.nextPath scope') := by
  intro s t states
  refine .ok ⟨?_, ?_, states.2⟩
  · simp only [scopes.path, states.1, String.append_assoc]
  · simp only [states.1]

theorem embed {first : Nested (α × Parameters)} {second : Nested (β × Parameters)}
    (commands : Nested.Moves lead first second) :
    Compile.Moves lead Unrelated (Compile.embed first) (Compile.embed second) :=
  Coupled.embed _ commands (fun _ _ _ => trivial) fun _ _ moved _ _ held => held.merge moved

/-- A nested command, and what comes after it. -/
theorem nest_bind {compiled : String → Nested (α × Parameters)}
    {compiled' : String → Nested (β × Parameters)} {next : α → Compile γ} {next' : β → Compile δ}
    {results : γ → δ → Prop} (scopes : scope.Moved lead scope')
    (commands : ∀ path, Nested.Moves lead (compiled path) (compiled' (lead ++ path)))
    (tail : ∀ one two, Compile.Moves lead results (next one) (next' two)) :
    Compile.Moves lead results
      (do let path ← Compile.nextPath scope
          let one ← Compile.embed (compiled path)
          next one)
      (do let path ← Compile.nextPath scope'
          let two ← Compile.embed (compiled' path)
          next' two) := by
  apply Coupled.bind (nextPath scopes)
  rintro path _ rfl
  exact Coupled.bind (embed (commands path)) fun one two _ => tail one two

end Compile.Moves

namespace Nested.Moves

variable {α β γ α' β' γ' : Type} {lead : String}

theorem toNested {first : Compile α} {second : Compile β}
    (parts : Compile.Moves lead Unrelated first second) :
    Nested.Moves lead (Compile.toNested first) (Compile.toNested second) :=
  Coupled.toNested _ .empty parts fun _ _ _ _ _ held => held

/-- The results are put into larger ones. -/
theorem map {first : Nested (α × Parameters)} {second : Nested (β × Parameters)}
    (commands : Nested.Moves lead first second) (whole : α → γ) (whole' : β → γ') :
    Nested.Moves lead
      (do let (one, parameters) ← first
          return (whole one, parameters))
      (do let (two, parameters) ← second
          return (whole' two, parameters)) := by
  apply Coupled.bind commands
  intro one two related
  exact .pure related

/-- Two commands are put together, and their values. -/
theorem combine {first : Nested (α × Parameters)} {first' : Nested (α' × Parameters)}
    {second : Nested (β × Parameters)} {second' : Nested (β' × Parameters)}
    (firsts : Nested.Moves lead first first') (seconds : Nested.Moves lead second second')
    (both : α → β → γ) (both' : α' → β' → γ') :
    Nested.Moves lead
      (do let (left, parameters) ← first
          let (right, others) ← second
          return (both left right, parameters.merge others))
      (do let (left, parameters) ← first'
          let (right, others) ← second'
          return (both' left right, parameters.merge others)) := by
  apply Coupled.bind firsts
  intro one one' related
  apply Coupled.bind seconds
  intro two two' related'
  exact .pure (related.merge related')

end Nested.Moves

/-! ### Forms of single nodes -/

variable {lead : String} {scope scope' : Scope}

/-- An operator asks its operands only whether they are null. -/
theorem binaryTerm_moves (op : BinaryOp) {left left' right right' : Term}
    (lefts : left.SameNull left') (rights : right.SameNull right') :
    Compile.Moves lead Term.SameNull (binaryTerm op left right) (binaryTerm op left' right') := by
  have sameNull : (left.isNull || right.isNull) = (left'.isNull || right'.isNull) := by
    rw [lefts, rights]
  simp only [binaryTerm, sameNull]
  cases op.sqlOperator? (left'.isNull || right'.isNull) with
  | some operator => exact .pure rfl
  | none => exact .unsupported _

theorem unaryTerm_moves (op : UnaryOp) (operand operand' : Term) (ty : Ty) :
    Compile.Moves lead Term.SameNull (unaryTerm op operand ty) (unaryTerm op operand' ty) := by
  unfold unaryTerm
  split
  · cases ty.sqlType? with
    | some target => exact .pure rfl
    | none => exact .unsupported _
  · cases op.sqlModifier? with
    | some modifier => exact .pure rfl
    | none => exact .unsupported _

theorem callTerm_moves (method : Method) (slots slots' : List Term) :
    Compile.Moves lead Term.SameNull (callTerm method slots) (callTerm method slots') := by
  unfold callTerm
  cases method.template? with
  | some template => exact .pure rfl
  | none => exact .unsupported _

theorem constructTerm_moves (ctor : Constructor) (args args' : List Term) :
    Compile.Moves lead Term.SameNull (constructTerm ctor args) (constructTerm ctor args') := by
  cases ctor with
  | named name => exact .unsupported _
  | _ => exact .pure rfl

/-- A member is a column in both scopes or refused in both. -/
theorem memberColumn_moves (scopes : scope.Moved lead scope') (condition : Bool)
    (target : Option Expr) (name : Member) (ty : Ty) :
    Compile.Moves lead Term.SameNull (memberColumn scope condition target name ty)
      (memberColumn scope' condition target name ty) := by
  unfold memberColumn
  split
  case h_1 param =>
    unfold paramColumn
    split
    · exact .pure rfl
    · exact .pure rfl
  case h_2 outer inner innerTy =>
    have sameRows := scopes.rows.ofMember? inner
    cases found : scope.aliases.ofMember? inner with
    | some table =>
        rw [found] at sameRows
        obtain ⟨table', found'⟩ := Option.isSome_iff_exists.1 sameRows.symm
        simp only [found']
        exact .pure rfl
    | none =>
        rw [found] at sameRows
        have found' : scope'.aliases.ofMember? inner = none :=
          Option.isSome_eq_false_iff.1 sameRows.symm |> Option.isNone_iff_eq_none.1
        simp only [found']
        exact .unsupported _
  case h_3 => exact .unsupported _

/-! ### Members -/

theorem Scope.Moved.groupKeyOf? (scopes : scope.Moved lead scope') (name : Member) :
    Option.Rel Term.SameNull (scope.groupKeyOf? name) (scope'.groupKeyOf? name) := by
  unfold Scope.groupKeyOf?
  split
  · exact scopes.key
  · exact .none

/-- Both scopes know the key that a member stands for, or they see the member in one way. -/
theorem memberForm_moved (scopes : scope.Moved lead scope') (target : Option Expr) (name : Member)
    (ty : Ty) :
    (∃ key key', Expr.memberForm scope target name ty = .key key ∧
        Expr.memberForm scope' target name ty = .key key' ∧ key.SameNull key') ∨
      Expr.memberForm scope target name ty = Expr.memberForm scope' target name ty := by
  have keys := scopes.groupKeyOf? name
  unfold Expr.memberForm
  generalize scope.groupKeyOf? name = key at keys ⊢
  generalize scope'.groupKeyOf? name = key' at keys ⊢
  cases keys with
  | some sameNull => exact .inl ⟨_, _, rfl, rfl, sameNull⟩
  | none => exact .inr rfl

end Sql

/-- The step for members: the target and its parts keep step, so the member does. -/
theorem Expr.compile_member_moved {lead : String} {scope scope' : Scope}
    (scopes : scope.Moved lead scope') {target : Option Expr} (condition : Bool) (name : Member)
    (ty : Ty)
    (whole : Compile.Moves lead Unrelated (Expr.compileTarget scope target)
      (Expr.compileTarget scope' target))
    (parts : Expr.TargetParts
      (fun callee args =>
        Compile.Moves lead Unrelated (Expr.compileTarget scope callee)
            (Expr.compileTarget scope' callee) ∧
          Compile.Moves lead Unrelated (Expr.compileAll scope args)
            (Expr.compileAll scope' args))
      (fun captures => ∀ name, Compile.Moves lead Term.SameNull
        (Capture.compile scope name captures) (Capture.compile scope' name captures)) target) :
    Compile.Moves lead Term.SameNull ((Expr.member target name ty).compile scope condition)
      ((Expr.member target name ty).compile scope' condition) := by
  rw [Expr.compile_member, Expr.compile_member]
  rcases memberForm_moved scopes target name ty with ⟨key, key', form, form', sameNull⟩ | same
  · rw [form, form']
    exact .pure sameNull
  rw [← same]
  cases form : Expr.memberForm scope target name ty with
  | key term => exact .pure rfl
  | refused fragment => exact .unsupported fragment
  | duration unit template callee args =>
      obtain ⟨callees, argLists⟩ := parts.duration form
      apply Coupled.bind callees
      intro callee callee' _
      apply Coupled.bind argLists
      intro args args' _
      unfold durationTerm
      split
      · exact .pure rfl
      · exact .pure rfl
  | captured captures => exact parts.captures form _
  | property template =>
      apply Coupled.bind whole
      intro callee callee' _
      exact .pure rfl
  | column => exact memberColumn_moves scopes condition target name ty

/-! ### Moving keeps step

The induction follows compilation, one case for each recursive function. Every case is the coupling
of the steps that the function takes. -/

mutual

theorem Expr.compile_moved {lead : String} {scope scope' : Scope}
    (scopes : scope.Moved lead scope') (condition : Bool) : ∀ expr : Expr,
    Compile.Moves lead Term.SameNull (expr.compile scope condition) (expr.compile scope' condition)
  | .binary op left right ty => by
      rw [Expr.compile, Expr.compile]
      apply Coupled.bind (Expr.compile_moved scopes ty.isBool left)
      intro left left' lefts
      apply Coupled.bind (Expr.compile_moved scopes ty.isBool right)
      intro right right' rights
      exact binaryTerm_moves op lefts rights
  | .unary op operand ty => by
      rw [Expr.compile, Expr.compile]
      apply Coupled.bind (Expr.compile_moved scopes ty.isBool operand)
      intro operand operand' _
      exact unaryTerm_moves op operand operand' ty
  | .conditional test ifTrue ifFalse ty => by
      rw [Expr.compile, Expr.compile]
      apply Coupled.bind (Expr.compile_moved scopes true test)
      intro test test' _
      apply Coupled.bind (Expr.compile_moved scopes false ifTrue)
      intro ifTrue ifTrue' _
      apply Coupled.bind (Expr.compile_moved scopes false ifFalse)
      intro ifFalse ifFalse' _
      exact .pure rfl
  | .member target name ty => by
      refine Expr.compile_member_moved scopes condition name ty
        (Expr.compileTarget_moved scopes target) ?_
      cases target with
      | none => trivial
      | some expr =>
          cases expr with
          | call callee method args ty =>
              exact ⟨Expr.compileTarget_moved scopes callee, Expr.compileAll_moved scopes args⟩
          | closure captures ty => exact fun name => Capture.compile_moved scopes name captures
          | _ => trivial
  | .call target method args ty => by
      rw [Expr.compile, Expr.compile]
      apply Coupled.bind (Expr.compileTarget_moved scopes target)
      intro callee callee' _
      apply Coupled.bind (Expr.compileAll_moved scopes args)
      intro args args' _
      exact callTerm_moves method (callee :: args) (callee' :: args')
  | .construct ctor args ty => by
      rw [Expr.compile, Expr.compile]
      apply Coupled.bind (Expr.compileAll_moved scopes args)
      intro args args' _
      exact constructTerm_moves ctor args args'
  | .constant value ty => by
      cases value with
      | null => exact .pure rfl
      | _ => exact .bindValue scopes _
  | .closure captures ty => .unsupported _
  | .parameter param => .pure rfl
  | .lambda ⟨params, body⟩ => by
      rw [Expr.compile, Expr.compile]
      exact Expr.compile_moved scopes false body
termination_by structural expr => expr

theorem Expr.compileTarget_moved {lead : String} {scope scope' : Scope}
    (scopes : scope.Moved lead scope') : ∀ target : Option Expr,
    Compile.Moves lead Unrelated (Expr.compileTarget scope target)
      (Expr.compileTarget scope' target)
  | none => .pure trivial
  | some target => by
      rw [Expr.compileTarget, Expr.compileTarget]
      exact (Expr.compile_moved scopes false target).forget
termination_by structural target => target

theorem Expr.compileAll_moved {lead : String} {scope scope' : Scope}
    (scopes : scope.Moved lead scope') : ∀ exprs : List Expr,
    Compile.Moves lead Unrelated (Expr.compileAll scope exprs) (Expr.compileAll scope' exprs)
  | [] => .pure trivial
  | expr :: rest => by
      rw [Expr.compileAll, Expr.compileAll]
      apply Coupled.bind (Expr.compile_moved scopes false expr)
      intro term term' _
      apply Coupled.bind (Expr.compileAll_moved scopes rest)
      intro terms terms' _
      exact .pure trivial
termination_by structural exprs => exprs

theorem Capture.compile_moved {lead : String} {scope scope' : Scope}
    (scopes : scope.Moved lead scope') (name : String) : ∀ captures : List Capture,
    Compile.Moves lead Term.SameNull (Capture.compile scope name captures)
      (Capture.compile scope' name captures)
  | [] => .unsupported _
  | .value held value :: rest => by
      rw [Capture.compile, Capture.compile]
      split
      · exact .bindValue scopes value
      · exact Capture.compile_moved scopes name rest
  | .query held query :: rest => by
      rw [Capture.compile, Capture.compile]
      split
      · apply Compile.Moves.nest_bind scopes fun path =>
          Query.compile_moved lead scope.resolver scope'.resolver path query
        intro statement statement'
        exact .pure rfl
      · exact Capture.compile_moved scopes name rest
termination_by structural captures => captures

theorem Lambda.compileAll_moved {lead : String} {scope scope' : Scope}
    (scopes : scope.Moved lead scope') : ∀ predicates : List Lambda,
    Compile.Moves lead Unrelated (Lambda.compileAll scope predicates)
      (Lambda.compileAll scope' predicates)
  | [] => .pure trivial
  | ⟨params, body⟩ :: rest => by
      rw [Lambda.compileAll, Lambda.compileAll]
      apply Coupled.bind (Expr.compile_moved scopes true body)
      intro term term' _
      apply Coupled.bind (Lambda.compileAll_moved scopes rest)
      intro terms terms' _
      exact .pure trivial
termination_by structural predicates => predicates

theorem Join.compileAll_moved {lead : String} {scope scope' : Scope}
    (scopes : scope.Moved lead scope') : ∀ joins : List Join,
    Compile.Moves lead (fun one two => one.2.Moved lead two.2) (Join.compileAll scope joins)
      (Join.compileAll scope' joins)
  | [] => .pure scopes
  | ⟨kind, source, outerKey, innerKey, result⟩ :: rest => by
      rw [Join.compileAll, Join.compileAll]
      apply Coupled.bind (Compile.Moves.lift (Aliases.bindJoin_sameRows scopes.rows _))
      rintro ⟨table, aliases⟩ ⟨table', aliases'⟩ sameRows
      -- The sources have other aliases now, but the same fields hold their rows.
      have bound : Scope.Moved lead { scope with aliases := aliases }
          { scope' with aliases := aliases' } := ⟨scopes.path, sameRows, scopes.key⟩
      apply Compile.Moves.nest_bind bound fun path =>
        Query.compileSource_moved lead scope.resolver scope'.resolver path source
      intro source source'
      apply Coupled.bind (Lambda.compileBody_moved bound outerKey)
      intro outer outer' _
      cases keyMember? innerKey with
      | none => exact Compile.Moves.unsupported _
      | some member =>
          have advanced : Scope.Moved lead { scope with aliases := aliases.advance table }
              { scope' with aliases := aliases'.advance table' } :=
            ⟨scopes.path, sameRows.advance table table', scopes.key⟩
          apply Coupled.bind (Join.compileAll_moved advanced rest)
          rintro ⟨clauses, scope⟩ ⟨clauses', scope'⟩ moved
          exact .pure moved
termination_by structural joins => joins

theorem Lambda.compileBody_moved {lead : String} {scope scope' : Scope}
    (scopes : scope.Moved lead scope') : ∀ function : Lambda,
    Compile.Moves lead Term.SameNull (Lambda.compileBody scope function)
      (Lambda.compileBody scope' function)
  | ⟨params, body⟩ => by
      rw [Lambda.compileBody, Lambda.compileBody]
      exact Expr.compile_moved scopes false body
termination_by structural function => function

theorem Lambda.compileGroupKey_moved {lead : String} {scope scope' : Scope}
    (scopes : scope.Moved lead scope') : ∀ key : Option Lambda,
    Compile.Moves lead (fun one two => one.2.Moved lead two.2) (Lambda.compileGroupKey scope key)
      (Lambda.compileGroupKey scope' key)
  | none => .pure scopes
  | some ⟨params, body⟩ => by
      have single : Compile.Moves lead
          (fun one two : Option (List Term) × Scope => one.2.Moved lead two.2)
          (do let key ← body.compile scope false
              return (some [key], { scope with groupKey := some key }))
          (do let key ← body.compile scope' false
              return (some [key], { scope' with groupKey := some key })) := by
        apply Coupled.bind (Expr.compile_moved scopes false body)
        intro key key' sameNull
        -- The key is remembered, so comparisons with it later on ask whether it is null.
        exact .pure ⟨scopes.path, scopes.rows, .some sameNull⟩
      cases body with
      | construct ctor args ty =>
          cases ctor with
          | record names =>
              simp only [Lambda.compileGroupKey]
              apply Coupled.bind (Expr.compileAll_moved scopes args)
              intro keys keys' _
              exact .pure scopes
          | _ => exact single
      | _ => exact single
termination_by structural key => key

theorem Order.compileAll_moved {lead : String} {scope scope' : Scope}
    (scopes : scope.Moved lead scope') : ∀ orders : List Order,
    Compile.Moves lead Unrelated (Order.compileAll scope orders) (Order.compileAll scope' orders)
  | [] => .pure trivial
  | ⟨key, ascending⟩ :: rest => by
      rw [Order.compileAll, Order.compileAll]
      apply Coupled.bind (Lambda.compileBody_moved scopes key)
      intro term term' _
      apply Coupled.bind (Order.compileAll_moved scopes rest)
      intro keys keys' _
      exact .pure trivial
termination_by structural orders => orders

theorem Lambda.compileSelection_moved {lead : String} {scope scope' : Scope}
    (scopes : scope.Moved lead scope') : ∀ function : Lambda,
    Compile.Moves lead Unrelated (Lambda.compileSelection scope function)
      (Lambda.compileSelection scope' function)
  | ⟨params, body⟩ => by
      rw [Lambda.compileSelection, Lambda.compileSelection]
      apply Coupled.bind (Expr.compile_moved scopes false body)
      intro term term' _
      exact .pure trivial
termination_by structural function => function

theorem Join.compileLast_moved {lead : String} {scope scope' : Scope}
    (scopes : scope.Moved lead scope') : ∀ joins : List Join,
    Compile.Moves lead Unrelated (Join.compileLast scope joins) (Join.compileLast scope' joins)
  | [] => .pure trivial
  | [⟨kind, source, outerKey, innerKey, result⟩] => by
      rw [Join.compileLast, Join.compileLast]
      exact Lambda.compileSelection_moved scopes result
  | _ :: join :: rest => by
      rw [Join.compileLast, Join.compileLast]
      exact Join.compileLast_moved scopes (join :: rest)
termination_by structural joins => joins

theorem Select.compile_moved (lead : String) (resolver resolver' : Resolver) (path : String) :
    ∀ node : Select,
    Nested.Moves lead (node.compile resolver path) (node.compile resolver' (lead ++ path))
  | ⟨source, modelType, filters, having, projection, groupKey, groupElement, joins, orderBy,
      skip, take, distinct, stage⟩ => by
      rw [Select.compile_eq, Select.compile_eq]
      apply Nested.Moves.toNested
      apply Coupled.bind (Compile.Moves.lift (Aliases.bindSource_sameRows path (lead ++ path) _))
      rintro ⟨table, aliases⟩ ⟨table', aliases'⟩ sameRows
      have started : Scope.Moved lead ⟨resolver, path, aliases, none⟩
          ⟨resolver', lead ++ path, aliases', none⟩ := ⟨rfl, sameRows, .none⟩
      apply Compile.Moves.nest_bind started fun path =>
        Query.compileSource_moved lead resolver resolver' path source
      intro source source'
      apply Coupled.bind (Join.compileAll_moved started joins)
      rintro ⟨joinClauses, scope⟩ ⟨joinClauses', scope'⟩ joined
      apply Coupled.bind (Lambda.compileAll_moved joined filters)
      intro filters filters' _
      apply Coupled.bind (Lambda.compileGroupKey_moved joined groupKey)
      rintro ⟨groupBy, scope⟩ ⟨groupBy', scope'⟩ grouped
      apply Coupled.bind (Lambda.compileAll_moved grouped having)
      intro having having' _
      apply Coupled.bind (Order.compileAll_moved grouped orderBy)
      intro sortKeys sortKeys' _
      have columns : Compile.Moves lead Unrelated (Select.compileColumns scope projection joins)
          (Select.compileColumns scope' projection joins) := by
        cases projection with
        | some function => exact Lambda.compileSelection_moved grouped function
        | none => exact Join.compileLast_moved grouped joins
      apply Coupled.bind columns
      intro selection selection' _
      exact .pure trivial
termination_by structural node => node

theorem Query.compile_moved (lead : String) (resolver resolver' : Resolver) (path : String) :
    ∀ query : Query,
    Nested.Moves lead (query.compile resolver path) (query.compile resolver' (lead ++ path))
  | .table model => .pure .empty
  | .select node => by
      rw [Query.compile, Query.compile]
      exact (Select.compile_moved lead resolver resolver' path node).map _ _
  | .combine op first second => by
      rw [Query.compile, Query.compile, String.append_assoc, String.append_assoc]
      exact (Query.compile_moved lead resolver resolver' (path ++ "so0_") first).combine
        (Query.compile_moved lead resolver resolver' (path ++ "so1_") second) _ _
termination_by structural query => query

theorem Query.compileSource_moved (lead : String) (resolver resolver' : Resolver)
    (path : String) : ∀ query : Query,
    Nested.Moves lead (query.compileSource resolver path)
      (query.compileSource resolver' (lead ++ path))
  | .table model => .pure .empty
  | .select ⟨source, modelType, filters, having, projection, groupKey, groupElement, joins,
      orderBy, skip, take, distinct, stage⟩ => by
      have whole := Select.compile_moved lead resolver resolver' path ⟨source, modelType, filters,
        having, projection, groupKey, groupElement, joins, orderBy, skip, take, distinct, stage⟩
      rw [Query.compileSource_select, Query.compileSource_select]
      split
      · exact Query.compileSource_moved lead resolver resolver' path source
      · exact whole.map (fun body => Source.derived (.select body)) fun body =>
          Source.derived (.select body)
  | .combine op first second => by
      rw [Query.compileSource, Query.compileSource, String.append_assoc, String.append_assoc]
      exact (Query.compile_moved lead resolver resolver' (path ++ "so0_") first).combine
        (Query.compile_moved lead resolver resolver' (path ++ "so1_") second)
        (fun left right => Source.derived (.combine op left right))
        fun left right => Source.derived (.combine op left right)
termination_by structural query => query

end

/-! ### Commands -/

/-- Compilation is equivariant in the path: below a path a query fails as it does at the top, or
binds the same values in the same order and counts as many nested commands, and the names of its
placeholders are those at the top with the path behind the mark. The same holds of sources. -/
theorem Query.compile_paired_below (resolver : Resolver) (query : Query) (path : String)
    (nested : Nat) :
    Paired (fun top below => top.1.2.Moved path below.1.2 ∧ top.2 = below.2) (· = ·)
        (query.compile resolver "" nested) (query.compile resolver path nested) ∧
      Paired (fun top below => top.1.2.Moved path below.1.2 ∧ top.2 = below.2) (· = ·)
        (query.compileSource resolver "" nested) (query.compileSource resolver path nested) := by
  have commands := Query.compile_moved path resolver resolver "" query nested nested rfl
  have sources := Query.compileSource_moved path resolver resolver "" query nested nested rfl
  rw [String.append_empty] at commands sources
  exact ⟨commands, sources⟩

/-- Names of tables and columns affect identifiers only: under any two resolvers a query binds the
same values to the same placeholders in the same order, or fails in the same way. -/
theorem Query.toCommand_paired_of_resolvers (first second : Resolver) (query : Query) :
    Paired (fun one two => one.parameters = two.parameters) (· = ·) (query.toCommand first)
      (query.toCommand second) := by
  have outcomes := Query.compile_moved "" first second "" query 0 0 rfl
  rw [String.append_empty] at outcomes
  unfold Query.toCommand
  generalize query.compile first "" 0 = outcome at outcomes ⊢
  generalize query.compile second "" 0 = outcome' at outcomes ⊢
  cases outcomes with
  | ok related => exact .ok related.1.eq_of_empty
  | error same => exact .error same

end TypedQuery
