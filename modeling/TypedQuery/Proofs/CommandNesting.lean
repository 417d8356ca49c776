/-
Module: TypedQuery.Proofs.CommandNesting
Purpose: Commands are well nested. As long as no name of a query and no identifier of its tables
  and columns has a bracket, the text of its command closes every bracket that it opens,
  innermost first, whatever operators, methods, constructions and nested commands it is made of.
Main exports: Ensures, Sql.Scope.Nests, Expr.compile_nests, Query.compile_nests,
  Query.toCommand_wellNested
-/
import TypedQuery.Proofs.AliasNames
import TypedQuery.Proofs.Compilation
import TypedQuery.Proofs.Identifiers
import TypedQuery.Proofs.Literals
import TypedQuery.Proofs.TermNesting

namespace TypedQuery

open Sql Sql.Compile

/-! ### Results of steps -/

/-- Whatever the state, a step that succeeds has a result of the kind. -/
def Sql.Ensures {σ α : Type} (kind : α → Prop) (step : StateT σ (Except Error) α) : Prop :=
  ∀ state result state', step state = .ok (result, state') → kind result

namespace Sql.Ensures

variable {σ α β : Type} {kind : α → Prop} {kind' : β → Prop}

theorem pure {result : α} (isKind : kind result) :
    Ensures kind (pure result : StateT σ (Except Error) α) := by
  intro state _ _ done
  cases done
  exact isKind

theorem unsupported (fragment : Fragment) : Ensures kind (Compile.unsupported fragment) := by
  intro state _ _ done
  cases done

theorem bind {step : StateT σ (Except Error) α} {next : α → StateT σ (Except Error) β}
    (head : Ensures kind step) (tail : ∀ result, kind result → Ensures kind' (next result)) :
    Ensures kind' (step >>= next) := by
  intro state result state' done
  obtain ⟨middle, reached, first, rest⟩ := bind_eq_ok done
  exact tail middle (head _ _ _ first) _ _ _ rest

/-- A step outside the state. -/
theorem lift {action : Except Error α} (ofResult : ∀ result, action = .ok result → kind result) :
    Ensures kind (liftM action : Compile α) := by
  intro progress result progress' done
  exact ofResult result (liftM_eq_ok done)

/-- A nested command, whose result is taken over. -/
theorem embed {command : Nested (α × Parameters)}
    (ensures : Ensures (fun pair => kind pair.1) command) :
    Ensures kind (Compile.embed command) := by
  intro progress result progress' done
  obtain ⟨parameters, nested, done⟩ := embed_eq_ok done
  exact ensures _ _ _ done

/-- The parts of a command. -/
theorem toNested {parts : Compile α} (ensures : Ensures kind parts) :
    Ensures (fun pair : α × Parameters => kind pair.1) (Compile.toNested parts) := by
  rintro nested ⟨result, parameters⟩ nested' done
  obtain ⟨progress, done⟩ := toNested_eq_ok done
  exact ensures _ _ _ done

end Sql.Ensures

namespace Sql

/-! ### Scopes -/

/-- What is known of a scope: its prefix and its aliases have no brackets, and the key of the
groups is well nested. -/
structure Scope.Nests (resolver : Resolver) (scope : Scope) : Prop where
  resolver_eq : scope.resolver = resolver
  word : IsWord scope.path
  named : Aliases.Named Unbracketed scope.path scope.aliases
  key : ∀ term ∈ scope.groupKey, WellNested term.text

/-- Nothing but the aliases changes when a source is bound. -/
theorem Scope.Nests.withAliases {resolver : Resolver} {scope : Scope} {aliases : Aliases}
    (nests : scope.Nests resolver) (named : Aliases.Named Unbracketed scope.path aliases) :
    ({ scope with aliases := aliases } : Scope).Nests resolver where
  resolver_eq := nests.resolver_eq
  word := nests.word
  named := named
  key := nests.key

theorem Aliases.IsNamed.unbracketed {path table : String} (named : IsNamed Unbracketed path table)
    (word : IsWord path) : Unbracketed table := by
  obtain ⟨name, free, rfl⟩ := named
  exact word.unbracketed.append free

section Forms

variable {resolver : Resolver} {scope : Scope}

/-- A placeholder is an at sign and a word. -/
theorem bindValue_nests (word : IsWord scope.path) (value : Value) :
    Ensures (fun term => WellNested term.text) (bindValue scope value) := by
  intro progress term progress' done
  cases done
  have number := isWord_numeral progress.parameters.size
  have name := (word.append (by decide : IsWord "p")).append number
  have whole := (by decide : WellNested "@").append name.unbracketed.wellNested
  change WellNested ("@" ++ scope.path ++ "p" ++ toString progress.parameters.size)
  simpa only [String.append_assoc] using whole

theorem nextPath_isWord (word : IsWord scope.path) : Ensures IsWord (nextPath scope) := by
  intro progress path progress' done
  cases done
  exact ((word.append (by decide)).append (isWord_numeral progress.nested)).append (by decide)

/-- A command nested in the scope, compiled under a prefix of its own. -/
theorem nested_nests {α β : Type} {kind' : β → Prop} (word : IsWord scope.path) (kind : α → Prop)
    {command : String → Nested (α × Parameters)} {next : α → Compile β}
    (ofCommand : ∀ path, IsWord path → Ensures (fun pair => kind pair.1) (command path))
    (tail : ∀ result, kind result → Ensures kind' (next result)) :
    Ensures kind' (do
      let path ← nextPath scope
      let result ← embed (command path)
      next result) := by
  refine (nextPath_isWord word).bind ?_
  intro path isWord
  exact (ofCommand path isWord).embed.bind tail

theorem wellNested_encloseDisjunction (predicate : Expr) {term : Term}
    (nested : WellNested term.text) : WellNested (encloseDisjunction predicate term).text := by
  unfold encloseDisjunction
  split
  · split
    · exact Term.wellNested_enclosed nested
    · exact nested
  · exact nested

theorem wellNested_selectionOf (projection : Expr) {term : Term} (nested : WellNested term.text) :
    WellNested (selectionOf projection term).text := by
  unfold selectionOf
  split
  · exact nested.append (by decide : WellNested ".*")
  · exact nested

theorem wellNested_durationTerm (ty : Ty) {term : Term} (nested : WellNested term.text) :
    WellNested (durationTerm ty term).text := by
  unfold durationTerm
  split
  · exact Term.wellNested_convert .float nested
  · exact nested

theorem binaryTerm_nests (op : BinaryOp) {left right : Term} (ofLeft : WellNested left.text)
    (ofRight : WellNested right.text) :
    Ensures (fun term => WellNested term.text) (binaryTerm op left right) := by
  rcases binaryTerm_cases op left right with ⟨operator, form⟩ | ⟨fragment, form⟩
  · rw [form]
    exact .pure (Term.wellNested_binary operator ofLeft ofRight)
  · rw [form]
    exact .unsupported fragment

theorem unaryTerm_nests (op : UnaryOp) {operand : Term} (ty : Ty)
    (nested : WellNested operand.text) :
    Ensures (fun term => WellNested term.text) (unaryTerm op operand ty) := by
  rcases unaryTerm_cases op operand ty with ⟨target, form⟩ | ⟨modifier, form⟩ | ⟨fragment, form⟩
  · rw [form]
    exact .pure (Term.wellNested_convert target nested)
  · rw [form]
    exact .pure (Term.wellNested_unary modifier nested)
  · rw [form]
    exact .unsupported fragment

theorem callTerm_nests (method : Method) {slots : List Term}
    (nested : ∀ slot ∈ slots, WellNested slot.text) :
    Ensures (fun term => WellNested term.text) (callTerm method slots) := by
  rcases callTerm_cases method slots with ⟨template, found, form⟩ | ⟨fragment, form⟩
  · rw [form]
    exact .pure (Term.wellNested_apply (Template.wellNested_of_template? found) nested)
  · rw [form]
    exact .unsupported fragment

/-- Surplus arguments or labels of a record are left out. -/
theorem label_nests {terms : List Term} {names : List String}
    (nested : ∀ term ∈ terms, WellNested term.text) (free : ∀ name ∈ names, Unbracketed name) :
    ∀ field ∈ label terms names, WellNested field.term.text ∧ Unbracketed field.label := by
  induction terms generalizing names with
  | nil => simp [label]
  | cons term rest ih =>
      cases names with
      | nil => simp [label]
      | cons name names =>
          rw [List.forall_mem_cons] at nested free
          rw [label, List.forall_mem_cons]
          exact ⟨⟨nested.1, free.1⟩, ih nested.2 free.2⟩

theorem wellNested_padParts {parts : List Term} (nested : ∀ part ∈ parts, WellNested part.text) :
    ∀ part ∈ padParts parts, WellNested part.text := by
  refine List.forall_mem_append.mpr ⟨nested, ?_⟩
  intro part isZero
  rw [List.eq_of_mem_replicate isZero]
  decide

theorem constructTerm_nests {ctor : Constructor} {args : List Term}
    (names : ∀ mention ∈ ctor.mentions, mention.Permitted Unbracketed)
    (nested : ∀ arg ∈ args, WellNested arg.text) :
    Ensures (fun term => WellNested term.text) (constructTerm ctor args) := by
  cases ctor with
  | record labels =>
      refine .pure (Term.wellNested_columns (label_nests nested ?_))
      intro label present
      exact names (.field label) (List.mem_map.mpr ⟨label, present, rfl⟩)
  | dateTime =>
      exact .pure (Term.wellNested_dateTime (wellNested_padParts nested))
  | random => exact .pure (by decide)
  | named name => exact .unsupported _

theorem ofParam_unbracketed (nests : scope.Nests resolver) {param : Param}
    (free : Unbracketed param.name) : Unbracketed (scope.aliases.ofParam param) :=
  (Aliases.ofParam_named nests.named free).unbracketed nests.word

theorem memberColumn_nests (nests : scope.Nests resolver) (condition : Bool)
    {target : Option Expr} {name : Member} (ty : Ty)
    (names : ∀ mention ∈ Expr.mentionsTarget target, mention.Permitted Unbracketed)
    (column : Unbracketed (resolver.columnName name)) :
    Ensures (fun term => WellNested term.text) (memberColumn scope condition target name ty) := by
  rw [← nests.resolver_eq] at column
  rcases memberColumn_cases scope condition target name ty with
    ⟨param, rfl, form⟩ | ⟨outer, inner, innerTy, table, rfl, found, form⟩ | ⟨fragment, form⟩
  · have table := ofParam_unbracketed nests (names (.param param.name) (.head _))
    rw [form, paramColumn]
    apply Ensures.pure
    split
    · exact Term.wellNested_flag table column
    · exact Term.wellNested_column table column
  · have free := (Aliases.ofMember?_named nests.named found).unbracketed nests.word
    rw [form]
    exact .pure (Term.wellNested_column free column)
  · rw [form]
    exact .unsupported fragment

end Forms

end Sql

/-! ### Members -/

/-- The step for members, from the target and from the parts of a target that is a call or an
environment. -/
theorem Expr.compile_member_nests {resolver : Resolver} {scope : Scope}
    (nests : scope.Nests resolver) (condition : Bool) {target : Option Expr} {name : Member}
    (ty : Ty) (names : ∀ mention ∈ Expr.mentionsTarget target, mention.Permitted Unbracketed)
    (columns : ∀ identifier ∈ (Expr.member target name ty).identifiers resolver,
      Unbracketed identifier)
    (whole : Ensures (fun term => WellNested term.text) (Expr.compileTarget scope target))
    (parts : Expr.TargetParts
      (fun callee args =>
        Ensures (fun term => WellNested term.text) (Expr.compileTarget scope callee) ∧
        Ensures (fun terms => ∀ term ∈ terms, WellNested term.text) (Expr.compileAll scope args))
      (fun captures => ∀ name,
        Ensures (fun term => WellNested term.text) (Capture.compile scope name captures)) target) :
    Ensures (fun term => WellNested term.text)
      ((Expr.member target name ty).compile scope condition) := by
  rw [Expr.compile_member]
  have arises := Expr.memberForm_arises scope target name ty
  cases form : Expr.memberForm scope target name ty with
  | key term =>
      rw [form] at arises
      cases arises with
      | key keyed => exact .pure (nests.key term (scope.groupKeyOf?_mem keyed))
  | refused fragment => exact .unsupported fragment
  | duration unit template callee args =>
      obtain ⟨ofCallee, ofArgs⟩ := parts.duration form
      rw [form] at arises
      cases arises with
      | duration unkeyed timed isUnit isCall found =>
          refine ofCallee.bind ?_
          intro callee ofCallee
          refine ofArgs.bind ?_
          intro args ofArgs
          refine .pure (wellNested_durationTerm ty ?_)
          apply Term.wellNested_apply (Template.wellNested_of_template? found)
          rw [List.forall_mem_cons, List.forall_mem_cons]
          exact ⟨wellNested_of_durationUnit? isUnit, ofCallee, ofArgs⟩
  | captured captures => exact parts.captures form name.name
  | property template =>
      rw [form] at arises
      cases arises with
      | property unkeyed untimed notClosure found =>
          refine whole.bind ?_
          intro callee ofCallee
          exact .pure (Term.wellNested_apply (Template.wellNested_of_propertyTemplate? found)
            (List.forall_mem_singleton.mpr ofCallee))
  | column =>
      rw [form] at arises
      cases arises with
      | column unkeyed untimed notClosure none =>
          have present := Expr.columnName_mem_identifiers resolver ty untimed notClosure none
          exact memberColumn_nests nests condition ty names (columns _ present)

/-! ### Every part is well nested

The induction follows compilation, one case for each recursive function. -/

mutual

theorem Expr.compile_nests {resolver : Resolver} {scope : Scope} (nests : scope.Nests resolver)
    (condition : Bool) :
    ∀ expr : Expr, (∀ mention ∈ expr.mentions, mention.Permitted Unbracketed) →
      (∀ identifier ∈ expr.identifiers resolver, Unbracketed identifier) →
      Ensures (fun term => WellNested term.text) (expr.compile scope condition)
  | .binary op left right ty, names, columns => by
      rw [Expr.mentions, List.forall_mem_append] at names
      rw [Expr.identifiers, List.forall_mem_append] at columns
      rw [Expr.compile]
      refine (Expr.compile_nests nests ty.isBool left names.1 columns.1).bind ?_
      intro left ofLeft
      refine (Expr.compile_nests nests ty.isBool right names.2 columns.2).bind ?_
      intro right ofRight
      exact binaryTerm_nests op ofLeft ofRight
  | .unary op operand ty, names, columns => by
      rw [Expr.mentions] at names
      rw [Expr.identifiers] at columns
      rw [Expr.compile]
      refine (Expr.compile_nests nests ty.isBool operand names columns).bind ?_
      intro operand ofOperand
      exact unaryTerm_nests op ty ofOperand
  | .conditional test ifTrue ifFalse ty, names, columns => by
      rw [Expr.mentions, List.forall_mem_append, List.forall_mem_append] at names
      rw [Expr.identifiers, List.forall_mem_append, List.forall_mem_append] at columns
      rw [Expr.compile]
      refine (Expr.compile_nests nests true test names.1.1 columns.1.1).bind ?_
      intro test ofTest
      refine (Expr.compile_nests nests false ifTrue names.1.2 columns.1.2).bind ?_
      intro ifTrue ofTrue
      refine (Expr.compile_nests nests false ifFalse names.2 columns.2).bind ?_
      intro ifFalse ofFalse
      exact .pure (Term.wellNested_iif ofTest ofTrue ofFalse)
  | .member target name ty, names, columns => by
      rw [Expr.mentions] at names
      have ofTarget : ∀ identifier ∈ Expr.identifiersTarget resolver target,
          Unbracketed identifier := fun identifier present =>
        columns identifier (Expr.identifiersTarget_subset resolver target name ty present)
      refine Expr.compile_member_nests nests condition ty names columns
        (Expr.compileTarget_nests nests target names ofTarget) ?_
      cases target with
      | none => trivial
      | some expr =>
          rw [Expr.mentionsTarget] at names
          rw [Expr.identifiersTarget] at ofTarget
          cases expr with
          | call callee method args ty =>
              rw [Expr.mentions, List.forall_mem_append] at names
              rw [Expr.identifiers, List.forall_mem_append] at ofTarget
              exact ⟨Expr.compileTarget_nests nests callee names.1 ofTarget.1,
                Expr.compileAll_nests nests args names.2 ofTarget.2⟩
          | closure captures ty =>
              rw [Expr.mentions] at names
              rw [Expr.identifiers] at ofTarget
              exact fun name => Capture.compile_nests nests name captures names ofTarget
          | _ => trivial
  | .call target method args ty, names, columns => by
      rw [Expr.mentions, List.forall_mem_append] at names
      rw [Expr.identifiers, List.forall_mem_append] at columns
      rw [Expr.compile]
      refine (Expr.compileTarget_nests nests target names.1 columns.1).bind ?_
      intro callee ofCallee
      refine (Expr.compileAll_nests nests args names.2 columns.2).bind ?_
      intro args ofArgs
      exact callTerm_nests method (List.forall_mem_cons.mpr ⟨ofCallee, ofArgs⟩)
  | .construct ctor args ty, names, columns => by
      rw [Expr.mentions, List.forall_mem_append] at names
      rw [Expr.identifiers] at columns
      rw [Expr.compile]
      refine (Expr.compileAll_nests nests args names.2 columns).bind ?_
      intro args ofArgs
      exact constructTerm_nests names.1 ofArgs
  | .constant value ty, _, _ => by
      cases value with
      | null =>
          rw [Expr.compile]
          exact .pure (by decide)
      | _ =>
          simp only [Expr.compile]
          exact bindValue_nests nests.word _
  | .closure captures ty, _, _ => by
      rw [Expr.compile]
      exact .unsupported _
  | .parameter param, names, _ => by
      rw [Expr.compile]
      have free : Unbracketed param.name := names (.param param.name) (.head _)
      exact .pure (Term.wellNested_row (ofParam_unbracketed nests free))
  | .lambda ⟨params, body⟩, names, columns => by
      rw [Expr.mentions, Lambda.mentions, List.forall_mem_append] at names
      rw [Expr.identifiers, Lambda.identifiers] at columns
      rw [Expr.compile]
      exact Expr.compile_nests nests false body names.2 columns
termination_by structural expr => expr

theorem Expr.compileTarget_nests {resolver : Resolver} {scope : Scope}
    (nests : scope.Nests resolver) :
    ∀ target : Option Expr,
      (∀ mention ∈ Expr.mentionsTarget target, mention.Permitted Unbracketed) →
      (∀ identifier ∈ Expr.identifiersTarget resolver target, Unbracketed identifier) →
      Ensures (fun term => WellNested term.text) (Expr.compileTarget scope target)
  | none, _, _ => by
      rw [Expr.compileTarget]
      exact .pure (by decide)
  | some target, names, columns => by
      rw [Expr.mentionsTarget] at names
      rw [Expr.identifiersTarget] at columns
      rw [Expr.compileTarget]
      exact Expr.compile_nests nests false target names columns
termination_by structural target => target

theorem Expr.compileAll_nests {resolver : Resolver} {scope : Scope}
    (nests : scope.Nests resolver) :
    ∀ exprs : List Expr,
      (∀ mention ∈ Expr.mentionsAll exprs, mention.Permitted Unbracketed) →
      (∀ identifier ∈ Expr.identifiersAll resolver exprs, Unbracketed identifier) →
      Ensures (fun terms => ∀ term ∈ terms, WellNested term.text) (Expr.compileAll scope exprs)
  | [], _, _ => by
      rw [Expr.compileAll]
      exact .pure (by simp)
  | expr :: rest, names, columns => by
      rw [Expr.mentionsAll, List.forall_mem_append] at names
      rw [Expr.identifiersAll, List.forall_mem_append] at columns
      rw [Expr.compileAll]
      refine (Expr.compile_nests nests false expr names.1 columns.1).bind ?_
      intro term ofTerm
      refine (Expr.compileAll_nests nests rest names.2 columns.2).bind ?_
      intro terms ofTerms
      exact .pure (List.forall_mem_cons.mpr ⟨ofTerm, ofTerms⟩)
termination_by structural exprs => exprs

theorem Capture.compile_nests {resolver : Resolver} {scope : Scope}
    (nests : scope.Nests resolver) (name : String) :
    ∀ captures : List Capture,
      (∀ mention ∈ Capture.mentionsAll captures, mention.Permitted Unbracketed) →
      (∀ identifier ∈ Capture.identifiersAll resolver captures, Unbracketed identifier) →
      Ensures (fun term => WellNested term.text) (Capture.compile scope name captures)
  | [], _, _ => by
      rw [Capture.compile]
      exact .unsupported _
  | .value held value :: rest, names, columns => by
      rw [Capture.mentionsAll] at names
      rw [Capture.identifiersAll] at columns
      rw [Capture.compile]
      split
      · exact bindValue_nests nests.word value
      · exact Capture.compile_nests nests name rest names columns
  | .query held query :: rest, names, columns => by
      rw [Capture.mentionsAll, List.forall_mem_append] at names
      rw [Capture.identifiersAll, List.forall_mem_append] at columns
      rw [Capture.compile]
      split
      · rw [nests.resolver_eq]
        refine nested_nests nests.word (fun statement : Statement => WellNested statement.text)
          (fun path word => Query.compile_nests resolver word query names.1 columns.1) ?_
        intro statement nested
        exact .pure nested
      · exact Capture.compile_nests nests name rest names.2 columns.2
termination_by structural captures => captures

theorem Lambda.compileAll_nests {resolver : Resolver} {scope : Scope}
    (nests : scope.Nests resolver) :
    ∀ predicates : List Lambda,
      (∀ mention ∈ Lambda.mentionsAll predicates, mention.Permitted Unbracketed) →
      (∀ identifier ∈ Lambda.identifiersAll resolver predicates, Unbracketed identifier) →
      Ensures (fun terms => ∀ term ∈ terms, WellNested term.text)
        (Lambda.compileAll scope predicates)
  | [], _, _ => by
      rw [Lambda.compileAll]
      exact .pure (by simp)
  | ⟨params, body⟩ :: rest, names, columns => by
      rw [Lambda.mentionsAll, Lambda.mentions, List.forall_mem_append,
        List.forall_mem_append] at names
      rw [Lambda.identifiersAll, Lambda.identifiers, List.forall_mem_append] at columns
      rw [Lambda.compileAll]
      refine (Expr.compile_nests nests true body names.1.2 columns.1).bind ?_
      intro term ofTerm
      refine (Lambda.compileAll_nests nests rest names.2 columns.2).bind ?_
      intro terms ofTerms
      exact .pure
        (List.forall_mem_cons.mpr ⟨wellNested_encloseDisjunction body ofTerm, ofTerms⟩)
termination_by structural predicates => predicates

theorem Join.compileAll_nests {resolver : Resolver} {scope : Scope}
    (nests : scope.Nests resolver) :
    ∀ joins : List Join,
      (∀ mention ∈ Join.mentionsAll joins, mention.Permitted Unbracketed) →
      (∀ identifier ∈ Join.identifiersAll resolver joins, Unbracketed identifier) →
      Ensures (fun done => (∀ clause ∈ done.1, clause.Nests) ∧ done.2.Nests resolver)
        (Join.compileAll scope joins)
  | [], _, _ => by
      rw [Join.compileAll]
      exact .pure ⟨by simp, nests⟩
  | ⟨kind, source, outerKey, innerKey, result⟩ :: rest, names, columns => by
      rw [Join.mentionsAll] at names
      rw [Join.identifiersAll] at columns
      simp only [List.forall_mem_append] at names columns
      obtain ⟨⟨⟨⟨nSource, nOuter⟩, -⟩, nResult⟩, nRest⟩ := names
      obtain ⟨⟨⟨⟨cSource, cOuter⟩, cInner⟩, -⟩, cRest⟩ := columns
      rw [Join.compileAll]
      have bound : Ensures
          (fun bound => Aliases.Named Unbracketed scope.path bound.2 ∧
            Aliases.IsNamed Unbracketed scope.path bound.1)
          (liftM (scope.aliases.bindJoin ⟨kind, source, outerKey, innerKey, result⟩) : Compile _) :=
        Ensures.lift fun bound found => Aliases.bindJoin_named nests.named nResult found
      refine bound.bind ?_
      rintro ⟨table, aliases⟩ ⟨registered, named⟩
      have inner := nests.withAliases registered
      have free := named.unbracketed nests.word
      refine nested_nests inner.word (fun source : Source => WellNested source.text)
        (fun path word => inner.resolver_eq ▸
          Query.compileSource_nests resolver word source nSource cSource) ?_
      intro source ofSource
      refine (Lambda.compileBody_nests inner outerKey nOuter cOuter).bind ?_
      intro outer ofOuter
      cases found : keyMember? innerKey with
      | none => exact .unsupported _
      | some member =>
          have column : Unbracketed (scope.resolver.columnName member) := by
            rw [nests.resolver_eq]
            exact cInner _ (by simp [found])
          refine (Join.compileAll_nests
            (nests.withAliases (Aliases.advance_named registered named)) rest nRest cRest).bind ?_
          rintro ⟨clauses, final⟩ ⟨ofClauses, ofFinal⟩
          refine .pure ⟨List.forall_mem_cons.mpr ⟨?_, ofClauses⟩, ofFinal⟩
          exact ⟨ofSource, free, ofOuter, Term.wellNested_column free column⟩
termination_by structural joins => joins

theorem Lambda.compileBody_nests {resolver : Resolver} {scope : Scope}
    (nests : scope.Nests resolver) :
    ∀ function : Lambda, (∀ mention ∈ function.mentions, mention.Permitted Unbracketed) →
      (∀ identifier ∈ function.identifiers resolver, Unbracketed identifier) →
      Ensures (fun term => WellNested term.text) (Lambda.compileBody scope function)
  | ⟨params, body⟩, names, columns => by
      rw [Lambda.mentions, List.forall_mem_append] at names
      rw [Lambda.identifiers] at columns
      rw [Lambda.compileBody]
      exact Expr.compile_nests nests false body names.2 columns
termination_by structural function => function

theorem Lambda.compileGroupKey_nests {resolver : Resolver} {scope : Scope}
    (nests : scope.Nests resolver) :
    ∀ key : Option Lambda,
      (∀ mention ∈ Lambda.mentionsOption key, mention.Permitted Unbracketed) →
      (∀ identifier ∈ Lambda.identifiersOption resolver key, Unbracketed identifier) →
      Ensures (fun done => (∀ keys ∈ done.1, ∀ key ∈ keys, WellNested key.text) ∧
        done.2.Nests resolver) (Lambda.compileGroupKey scope key)
  | none, _, _ => by
      rw [Lambda.compileGroupKey]
      exact .pure ⟨by simp, nests⟩
  | some ⟨params, body⟩, names, columns => by
      rw [Lambda.mentionsOption, Lambda.mentions, List.forall_mem_append] at names
      rw [Lambda.identifiersOption, Lambda.identifiers] at columns
      have single : Ensures (fun done : Option (List Term) × Scope =>
            (∀ keys ∈ done.1, ∀ key ∈ keys, WellNested key.text) ∧ done.2.Nests resolver)
          (do let key ← body.compile scope false
              return (some [key], { scope with groupKey := some key })) := by
        refine (Expr.compile_nests nests false body names.2 columns).bind ?_
        intro key ofKey
        refine .pure ⟨by simpa using ofKey, nests.resolver_eq, nests.word, nests.named, ?_⟩
        simpa using ofKey
      cases body with
      | construct ctor args ty =>
          cases ctor with
          | record labels =>
              rw [Expr.mentions, List.forall_mem_append] at names
              rw [Expr.identifiers] at columns
              rw [Lambda.compileGroupKey]
              refine (Expr.compileAll_nests nests args names.2.2 columns).bind ?_
              intro keys ofKeys
              exact .pure ⟨by simpa using ofKeys, nests⟩
          | _ =>
              simp only [Lambda.compileGroupKey]
              exact single
      | _ =>
          simp only [Lambda.compileGroupKey]
          exact single
termination_by structural key => key

theorem Order.compileAll_nests {resolver : Resolver} {scope : Scope}
    (nests : scope.Nests resolver) :
    ∀ orders : List Order,
      (∀ mention ∈ Order.mentionsAll orders, mention.Permitted Unbracketed) →
      (∀ identifier ∈ Order.identifiersAll resolver orders, Unbracketed identifier) →
      Ensures (fun keys => ∀ key ∈ keys, WellNested key.term.text)
        (Order.compileAll scope orders)
  | [], _, _ => by
      rw [Order.compileAll]
      exact .pure (by simp)
  | ⟨key, ascending⟩ :: rest, names, columns => by
      rw [Order.mentionsAll, List.forall_mem_append] at names
      rw [Order.identifiersAll, List.forall_mem_append] at columns
      rw [Order.compileAll]
      refine (Lambda.compileBody_nests nests key names.1 columns.1).bind ?_
      intro term ofTerm
      refine (Order.compileAll_nests nests rest names.2 columns.2).bind ?_
      intro keys ofKeys
      exact .pure (List.forall_mem_cons.mpr ⟨ofTerm, ofKeys⟩)
termination_by structural orders => orders

theorem Lambda.compileSelection_nests {resolver : Resolver} {scope : Scope}
    (nests : scope.Nests resolver) :
    ∀ function : Lambda, (∀ mention ∈ function.mentions, mention.Permitted Unbracketed) →
      (∀ identifier ∈ function.identifiers resolver, Unbracketed identifier) →
      Ensures (fun selection => WellNested selection.text)
        (Lambda.compileSelection scope function)
  | ⟨params, body⟩, names, columns => by
      rw [Lambda.mentions, List.forall_mem_append] at names
      rw [Lambda.identifiers] at columns
      rw [Lambda.compileSelection]
      refine (Expr.compile_nests nests false body names.2 columns).bind ?_
      intro term ofTerm
      exact .pure (wellNested_selectionOf body ofTerm)
termination_by structural function => function

theorem Join.compileLast_nests {resolver : Resolver} {scope : Scope}
    (nests : scope.Nests resolver) :
    ∀ joins : List Join,
      (∀ mention ∈ Join.mentionsAll joins, mention.Permitted Unbracketed) →
      (∀ identifier ∈ Join.identifiersAll resolver joins, Unbracketed identifier) →
      Ensures (fun selection => WellNested selection.text) (Join.compileLast scope joins)
  | [], _, _ => by
      rw [Join.compileLast]
      exact .pure (by decide)
  | [⟨kind, source, outerKey, innerKey, result⟩], names, columns => by
      rw [Join.mentionsAll] at names
      rw [Join.identifiersAll] at columns
      simp only [List.forall_mem_append] at names columns
      rw [Join.compileLast]
      exact Lambda.compileSelection_nests nests result names.1.2 columns.1.2
  | ⟨kind, source, outerKey, innerKey, result⟩ :: join :: rest, names, columns => by
      rw [Join.mentionsAll, List.forall_mem_append] at names
      rw [Join.identifiersAll, List.forall_mem_append] at columns
      rw [Join.compileLast]
      exact Join.compileLast_nests nests (join :: rest) names.2 columns.2
termination_by structural joins => joins

theorem Select.compile_nests (resolver : Resolver) {path : String} (word : IsWord path) :
    ∀ node : Select, (∀ mention ∈ node.mentions, mention.Permitted Unbracketed) →
      (∀ identifier ∈ node.identifiers resolver, Unbracketed identifier) →
      Ensures (fun pair => WellNested pair.1.text) (node.compile resolver path)
  | ⟨source, modelType, filters, having, projection, groupKey, groupElement, joins, orderBy,
      skip, take, distinct, stage⟩, names, columns => by
      have bound : Ensures
          (fun bound => Aliases.Named Unbracketed path bound.2 ∧
            ∀ name ∈ bound.1, Aliases.IsNamed Unbracketed path name)
          (liftM (Aliases.bindSource path ⟨source, modelType, filters, having, projection,
            groupKey, groupElement, joins, orderBy, skip, take, distinct, stage⟩) : Compile _) :=
        Ensures.lift fun bound found => Aliases.bindSource_named names found
      rw [Select.mentions] at names
      rw [Select.identifiers] at columns
      simp only [List.forall_mem_append] at names columns
      obtain ⟨⟨⟨⟨⟨⟨⟨nSource, nFilters⟩, nHaving⟩, nProjection⟩, nKey⟩, -⟩, nJoins⟩, nOrder⟩ :=
        names
      obtain ⟨⟨⟨⟨⟨⟨cSource, cFilters⟩, cHaving⟩, cProjection⟩, cKey⟩, cJoins⟩, cOrder⟩ := columns
      rw [Select.compile_eq]
      refine Ensures.toNested (?_ : Ensures (fun body : Body => WellNested body.text) _)
      refine bound.bind ?_
      rintro ⟨table, aliases⟩ ⟨registered, named⟩
      have nests : (⟨resolver, path, aliases, none⟩ : Scope).Nests resolver :=
        ⟨rfl, word, registered, by simp⟩
      refine nested_nests nests.word (fun source : Source => WellNested source.text)
        (fun path word => Query.compileSource_nests resolver word source nSource cSource) ?_
      intro source ofSource
      refine (Join.compileAll_nests nests joins nJoins cJoins).bind ?_
      rintro ⟨clauses, scope⟩ ⟨ofJoins, nests⟩
      refine (Lambda.compileAll_nests nests filters nFilters cFilters).bind ?_
      intro filters ofFilters
      refine (Lambda.compileGroupKey_nests nests groupKey nKey cKey).bind ?_
      rintro ⟨groupBy, scope⟩ ⟨ofGroups, nests⟩
      refine (Lambda.compileAll_nests nests having nHaving cHaving).bind ?_
      intro having ofHaving
      refine (Order.compileAll_nests nests orderBy nOrder cOrder).bind ?_
      intro sortKeys ofOrder
      have selected : Ensures (fun selection => WellNested selection.text)
          (Select.compileColumns scope projection joins) := by
        cases projection with
        | some function =>
            rw [Lambda.mentionsOption] at nProjection
            rw [Lambda.identifiersOption] at cProjection
            exact Lambda.compileSelection_nests nests function nProjection cProjection
        | none => exact Join.compileLast_nests nests joins nJoins cJoins
      refine selected.bind ?_
      intro selection ofSelection
      refine .pure (Body.Nests.wellNested ?_)
      exact {
        selection := ofSelection
        source := ofSource
        table := fun name present => (named name present).unbracketed word
        joins := ofJoins
        filters := ofFilters
        groupBy := ofGroups
        having := ofHaving
        orderBy := ofOrder }
termination_by structural node => node

theorem Query.compile_nests (resolver : Resolver) {path : String} (word : IsWord path) :
    ∀ query : Query, (∀ mention ∈ query.mentions, mention.Permitted Unbracketed) →
      (∀ identifier ∈ query.identifiers resolver, Unbracketed identifier) →
      Ensures (fun pair => WellNested pair.1.text) (query.compile resolver path)
  | .table model, _, columns => by
      rw [Query.compile]
      exact .pure (Statement.wellNested_table (columns _ (.head _)))
  | .select node, names, columns => by
      rw [Query.mentions] at names
      rw [Query.identifiers] at columns
      rw [Query.compile]
      refine (Select.compile_nests resolver word node names columns).bind ?_
      rintro ⟨body, parameters⟩ ofBody
      exact .pure ofBody
  | .combine op first second, names, columns => by
      rw [Query.mentions, List.forall_mem_append] at names
      rw [Query.identifiers, List.forall_mem_append] at columns
      rw [Query.compile]
      refine (Query.compile_nests resolver (word.append (by decide : IsWord "so0_")) first
        names.1 columns.1).bind ?_
      rintro ⟨first, parameters⟩ ofFirst
      refine (Query.compile_nests resolver (word.append (by decide : IsWord "so1_")) second
        names.2 columns.2).bind ?_
      rintro ⟨second, others⟩ ofSecond
      exact .pure (Statement.wellNested_combine op ofFirst ofSecond)
termination_by structural query => query

theorem Query.compileSource_nests (resolver : Resolver) {path : String} (word : IsWord path) :
    ∀ query : Query, (∀ mention ∈ query.mentions, mention.Permitted Unbracketed) →
      (∀ identifier ∈ query.identifiers resolver, Unbracketed identifier) →
      Ensures (fun pair => WellNested pair.1.text) (query.compileSource resolver path)
  | .table model, _, columns => by
      rw [Query.compileSource]
      exact .pure (columns _ (.head _)).bracketed
  | .select ⟨source, modelType, filters, having, projection, groupKey, groupElement, joins,
      orderBy, skip, take, distinct, stage⟩, names, columns => by
      rw [Query.mentions] at names
      rw [Query.identifiers] at columns
      have ofNode := Select.compile_nests resolver word ⟨source, modelType, filters, having,
        projection, groupKey, groupElement, joins, orderBy, skip, take, distinct, stage⟩
        names columns
      rw [Select.mentions] at names
      rw [Select.identifiers] at columns
      simp only [List.forall_mem_append] at names columns
      rw [Query.compileSource_select]
      split
      · exact Query.compileSource_nests resolver word source names.1.1.1.1.1.1.1
          columns.1.1.1.1.1.1
      · refine ofNode.bind ?_
        rintro ⟨body, parameters⟩ ofBody
        exact .pure (Source.wellNested_derived (ofBody : WellNested (Statement.select body).text))
  | .combine op first second, names, columns => by
      rw [Query.mentions, List.forall_mem_append] at names
      rw [Query.identifiers, List.forall_mem_append] at columns
      rw [Query.compileSource]
      refine (Query.compile_nests resolver (word.append (by decide : IsWord "so0_")) first
        names.1 columns.1).bind ?_
      rintro ⟨first, parameters⟩ ofFirst
      refine (Query.compile_nests resolver (word.append (by decide : IsWord "so1_")) second
        names.2 columns.2).bind ?_
      rintro ⟨second, others⟩ ofSecond
      exact .pure (Source.wellNested_derived (Statement.wellNested_combine op ofFirst ofSecond))
termination_by structural query => query

end

/-- If no name of a lambda parameter, a label or a field, and no identifier of a table or column
has a parenthesis or a square bracket, then every bracket that the command's text opens is closed
by its own kind, innermost first. In particular no beginning of the text closes more brackets of
a kind than it opens, and in the end all are closed. -/
theorem Query.toCommand_wellNested (resolver : Resolver) {query : Query} {command : Command}
    (names : ∀ mention ∈ query.mentions, mention.Permitted Unbracketed)
    (columns : ∀ identifier ∈ query.identifiers resolver, Unbracketed identifier)
    (compiled : query.toCommand resolver = .ok command) :
    WellNested command.text ∧ ∀ kind, Balanced kind command.text := by
  unfold Query.toCommand at compiled
  cases outcome : query.compile resolver "" 0 with
  | error error =>
      rw [outcome] at compiled
      cases compiled
  | ok reached =>
      obtain ⟨⟨statement, parameters⟩, nested⟩ := reached
      rw [outcome] at compiled
      cases compiled
      have wellNested :=
        Query.compile_nests resolver (by decide : IsWord "") query names columns _ _ _ outcome
      exact ⟨wellNested, wellNested.balanced⟩

/-- A set membership in a command of its own, with a disjunction in the outer predicate. -/
theorem usersByLogin_wellNested :
    ∃ command, (usersByLogin (.int 7) (.string "x")).toCommand .identity = .ok command ∧
      (∀ mention ∈ (usersByLogin (.int 7) (.string "x")).mentions,
        mention.Permitted Unbracketed) ∧
      (∀ identifier ∈ (usersByLogin (.int 7) (.string "x")).identifiers .identity,
        Unbracketed identifier) ∧
      WellNested command.text ∧ ∀ kind, Balanced kind command.text := by
  have names : ∀ mention ∈ (usersByLogin (.int 7) (.string "x")).mentions,
      mention.Permitted Unbracketed := by decide
  have columns : ∀ identifier ∈ (usersByLogin (.int 7) (.string "x")).identifiers .identity,
      Unbracketed identifier := by decide
  exact ⟨_, rfl, names, columns, Query.toCommand_wellNested .identity names columns rfl⟩

end TypedQuery
