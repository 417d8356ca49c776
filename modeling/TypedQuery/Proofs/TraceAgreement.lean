/-
Module: TypedQuery.Proofs.TraceAgreement
Purpose: Keeping a record changes nothing: every compilation with a record ends as the
  compilation does. What it leaves is what the grammar of records allows, and the
  values bound are the literals of the query in their order.
Main exports: Query.traced_follows
-/
import TypedQuery.Proofs.Literals
import TypedQuery.Proofs.TraceGrammar

namespace TypedQuery

open Sql Sql.Compile

/-! ### Members and select nodes, by form -/

/-- Compile a member with a record, in the way that its form says. -/
def Expr.tracedMember (scope : Scope) (condition : Bool) (target : Option Expr) (name : Member)
    (ty : Ty) : MemberForm → Traced Progress Term
  | .key term => return term
  | .refused fragment => .silent (unsupported fragment)
  | .duration unit template callee args => do
    let callee ← Expr.tracedTarget scope callee
    let args ← Expr.tracedAll scope args
    return durationTerm ty (.apply template (.word unit :: callee :: args))
  | .captured captures => Capture.traced scope name.name captures
  | .property template => do
    let callee ← Expr.tracedTarget scope target
    return .apply template [callee]
  | .column => .silent (memberColumn scope condition target name ty)

/-- With a record too, a member is compiled as its form says. -/
theorem Expr.traced_member (scope : Scope) (condition : Bool) (target : Option Expr)
    (name : Member) (ty : Ty) :
    (Expr.member target name ty).traced scope condition =
      Expr.tracedMember scope condition target name ty (Expr.memberForm scope target name ty) := by
  rw [Expr.traced.eq_def]
  unfold Expr.memberForm
  dsimp only
  cases scope.groupKeyOf? name with
  | some key => rfl
  | none =>
      by_cases timed : name.owner = .timeSpan
      · simp only [if_pos timed]
        cases durationUnit? name.name with
        | none => rfl
        | some unit =>
            cases target with
            | none => rfl
            | some expr =>
                cases expr with
                | call callee method args ty =>
                    dsimp only
                    cases method.template? <;> rfl
                | _ => rfl
      · simp only [if_neg timed]
        cases target with
        | none =>
            dsimp only
            cases propertyTemplate? name.owner.kind name.name <;> rfl
        | some expr =>
            cases expr with
            | closure captures ty => rfl
            | _ =>
                dsimp only
                cases propertyTemplate? name.owner.kind name.name <;> rfl

/-- Compile the columns of a node with a record. -/
def Select.tracedColumns (scope : Scope) (projection : Option Lambda) (joins : List Join) :
    Traced Progress Selection :=
  match projection with
  | some function => Lambda.tracedSelection scope function
  | none => Join.tracedLast scope joins

/-- With a record too, a select node is compiled clause by clause. -/
theorem Select.traced_eq (resolver : Resolver) (path : String) (node : Select) :
    node.traced resolver path = Traced.openNode path (do
      let (table, aliases) ← Traced.bindSource path node
      let scope : Scope := ⟨resolver, path, aliases, none⟩
      let source ← Traced.nest scope fun sourcePath =>
        node.source.tracedSource resolver sourcePath
      let (joinClauses, scope) ← Join.tracedAll scope node.joins
      let filterTerms ← Lambda.tracedAll scope node.filters
      let (groupBy, scope) ← Lambda.tracedGroupKey scope node.groupKey
      let havingTerms ← Lambda.tracedAll scope node.having
      let sortKeys ← Order.tracedAll scope node.orderBy
      let selection ← Select.tracedColumns scope node.projection node.joins
      return {
        distinct := node.distinct
        selection := selection
        source := source
        table := table
        joins := joinClauses
        filters := filterTerms
        groupBy := groupBy
        having := havingTerms
        orderBy := sortKeys
        skip := node.skip
        take := node.take }) := by
  obtain ⟨source, modelType, filters, having, projection, groupKey, groupElement, joins, orderBy,
    skip, take, distinct, stage⟩ := node
  cases projection with
  | none => rfl
  | some function => rfl

theorem Query.tracedSource_select (resolver : Resolver) (path : String) (node : Select) :
    (Query.select node).tracedSource resolver path =
      if node.isTrivial then node.source.tracedSource resolver path
      else do
        let (body, parameters) ← node.traced resolver path
        return (.derived (.select body), parameters) := by
  cases node
  rw [Query.tracedSource]

variable {allowed : String → Prop}

/-- What is known of a scope while an expression is compiled: the prefix, and whether
there is a key that the rows are grouped by. -/
structure Sql.Scope.At (path : String) (grouped : Bool) (scope : Scope) : Prop where
  path_eq : scope.path = path
  grouped_eq : scope.groupKey.isSome = grouped

/-- What is known of a scope while joins are compiled: also where its aliases come
from. There is no key yet. -/
structure Sql.Scope.Within (allowed : String → Prop) (path : String) (scope : Scope) : Prop
    extends scope.At path false where
  named : Aliases.Named allowed path scope.aliases

/-- The values of a member, by its form. -/
def Expr.memberLiterals (grouped : Bool) (target : Option Expr) (name : Member) :
    MemberForm → List Value
  | .key _ | .refused _ | .column => []
  | .duration _ _ callee args =>
    Expr.literalsTarget grouped callee ++ Expr.literalsAll grouped args
  | .captured captures => Capture.literals name.name captures
  | .property _ => Expr.literalsTarget grouped target

theorem Sql.Scope.At.groupKeyOf?_isSome {path : String} {grouped : Bool} {scope : Scope}
    (known : scope.At path grouped) (name : Member) :
    (scope.groupKeyOf? name).isSome = true ↔
      grouped = true ∧ name.name = "Key" ∧ name.owner.isGroup = true := by
  rw [← known.grouped_eq, Scope.groupKeyOf?]
  split
  · simp [*]
  · simp [*]

/-- Unless it is refused, a member has the values that its form says. -/
theorem Expr.literals_member {path : String} {grouped : Bool} {scope : Scope}
    (known : scope.At path grouped) (target : Option Expr) (name : Member) (ty : Ty) :
    (∃ fragment, Expr.memberForm scope target name ty = .refused fragment) ∨
      (Expr.member target name ty).literals grouped =
        Expr.memberLiterals grouped target name (Expr.memberForm scope target name ty) := by
  rw [Expr.literals.eq_def]
  simp only [← known.groupKeyOf?_isSome name]
  have arises := Expr.memberForm_arises scope target name ty
  generalize Expr.memberForm scope target name ty = form at arises
  cases arises with
  | key keyed => simp [keyed, Expr.memberLiterals]
  | refused fragment => exact .inl ⟨fragment, rfl⟩
  | duration unkeyed timed isUnit isCall found =>
      simp [unkeyed, timed, isCall, Expr.memberLiterals]
  | captured unkeyed untimed isClosure =>
      simp [unkeyed, untimed, isClosure, Expr.memberLiterals]
  | property unkeyed untimed notClosure found =>
      simp [unkeyed, untimed, found, Expr.memberLiterals]
  | column unkeyed untimed notClosure none =>
      simp [unkeyed, untimed, none, Expr.memberLiterals]

/-- The step for members: the target and its parts follow, so the member does. -/
theorem Expr.traced_member_follows {path : String} {grouped : Bool} {scope : Scope}
    (known : scope.At path grouped) {target : Option Expr} (condition : Bool) (name : Member)
    (ty : Ty)
    (whole : Follows allowed path (Expr.literalsTarget grouped target) (fun _ => True)
      (Expr.tracedTarget scope target) (Expr.compileTarget scope target))
    (parts : Expr.TargetParts
      (fun callee args =>
        Follows allowed path (Expr.literalsTarget grouped callee) (fun _ => True)
            (Expr.tracedTarget scope callee) (Expr.compileTarget scope callee) ∧
          Follows allowed path (Expr.literalsAll grouped args) (fun _ => True)
            (Expr.tracedAll scope args) (Expr.compileAll scope args))
      (fun captures => ∀ name, Follows allowed path (Capture.literals name captures)
        (fun _ => True) (Capture.traced scope name captures)
        (Capture.compile scope name captures)) target) :
    Follows allowed path ((Expr.member target name ty).literals grouped) (fun _ => True)
      ((Expr.member target name ty).traced scope condition)
      ((Expr.member target name ty).compile scope condition) := by
  rw [Expr.traced_member, Expr.compile_member]
  rcases Expr.literals_member known target name ty with ⟨fragment, form⟩ | values
  · rw [form]
    exact .throw _
  rw [values]
  cases form : Expr.memberForm scope target name ty with
  | key term => exact .pure trivial
  | refused fragment => exact .throw _
  | duration unit template callee args =>
      obtain ⟨calleeFollows, argsFollow⟩ := parts.duration form
      apply calleeFollows.bind
      intro callee _
      exact argsFollow.bind_still fun args _ => .pure trivial
  | captured captures => exact parts.captures form _
  | property template => exact whole.bind_still fun callee _ => .pure trivial
  | column => exact .still (memberColumn_still scope condition target name ty)

/-! ### Every part follows

The induction follows compilation, one case for each recursive function. Expressions
need the prefix and the group key alone; joins hand on what is known of the aliases. -/

mutual

theorem Expr.traced_follows {path : String} {grouped : Bool} {scope : Scope}
    (known : scope.At path grouped) (condition : Bool) :
    ∀ expr : Expr, (∀ mention ∈ expr.mentions, mention.Permitted allowed) →
      Follows allowed path (expr.literals grouped) (fun _ => True)
        (expr.traced scope condition) (expr.compile scope condition)
  | .binary op left right ty, mentions => by
      rw [Expr.mentions, List.forall_mem_append] at mentions
      rw [Expr.traced, Expr.compile, Expr.literals]
      apply (Expr.traced_follows known ty.isBool left mentions.1).bind
      intro left _
      apply (Expr.traced_follows known ty.isBool right mentions.2).bind_still
      intro right _
      exact .still (binaryTerm_still op left right)
  | .unary op operand ty, mentions => by
      rw [Expr.mentions] at mentions
      rw [Expr.traced, Expr.compile, Expr.literals]
      apply (Expr.traced_follows known ty.isBool operand mentions).bind_still
      intro operand _
      exact .still (unaryTerm_still op operand ty)
  | .conditional test ifTrue ifFalse ty, mentions => by
      rw [Expr.mentions, List.forall_mem_append, List.forall_mem_append] at mentions
      rw [Expr.traced, Expr.compile, Expr.literals, List.append_assoc]
      apply (Expr.traced_follows known true test mentions.1.1).bind
      intro test _
      apply (Expr.traced_follows known false ifTrue mentions.1.2).bind
      intro ifTrue _
      apply (Expr.traced_follows known false ifFalse mentions.2).bind_still
      intro ifFalse _
      exact .pure trivial
  | .member target name ty, mentions => by
      rw [Expr.mentions] at mentions
      refine Expr.traced_member_follows known condition name ty
        (Expr.tracedTarget_follows known target mentions) ?_
      cases target with
      | none => trivial
      | some expr =>
          rw [Expr.mentionsTarget] at mentions
          cases expr with
          | call callee method args ty =>
              rw [Expr.mentions, List.forall_mem_append] at mentions
              exact ⟨Expr.tracedTarget_follows known callee mentions.1,
                Expr.tracedAll_follows known args mentions.2⟩
          | closure captures ty =>
              rw [Expr.mentions] at mentions
              exact fun name => Capture.traced_follows known name captures mentions
          | _ => trivial
  | .call target method args ty, mentions => by
      rw [Expr.mentions, List.forall_mem_append] at mentions
      rw [Expr.traced, Expr.compile, Expr.literals]
      apply (Expr.tracedTarget_follows known target mentions.1).bind
      intro callee _
      apply (Expr.tracedAll_follows known args mentions.2).bind_still
      intro args _
      exact .still (callTerm_still method (callee :: args))
  | .construct ctor args ty, mentions => by
      rw [Expr.mentions, List.forall_mem_append] at mentions
      rw [Expr.traced, Expr.compile, Expr.literals]
      apply (Expr.tracedAll_follows known args mentions.2).bind_still
      intro args _
      exact .still (constructTerm_still ctor args)
  | .constant value ty, _ => by
      cases value with
      | null =>
          rw [Expr.traced, Expr.compile, Expr.literals]
          exact .pure trivial
      | _ =>
          simp only [Expr.traced, Expr.compile, Expr.literals]
          exact .bindValue known.path_eq _
  | .closure captures ty, _ => by
      rw [Expr.traced, Expr.compile]
      exact .throw _
  | .parameter param, _ => by
      rw [Expr.traced, Expr.compile, Expr.literals]
      exact .pure trivial
  | .lambda ⟨params, body⟩, mentions => by
      rw [Expr.mentions, Lambda.mentions, List.forall_mem_append] at mentions
      rw [Expr.traced, Expr.compile, Expr.literals]
      exact Expr.traced_follows known false body mentions.2
termination_by structural expr => expr

theorem Expr.tracedTarget_follows {path : String} {grouped : Bool} {scope : Scope}
    (known : scope.At path grouped) :
    ∀ target : Option Expr, (∀ mention ∈ Expr.mentionsTarget target, mention.Permitted allowed) →
      Follows allowed path (Expr.literalsTarget grouped target) (fun _ => True)
        (Expr.tracedTarget scope target) (Expr.compileTarget scope target)
  | none, _ => by
      rw [Expr.tracedTarget, Expr.compileTarget, Expr.literalsTarget]
      exact .pure trivial
  | some target, mentions => by
      rw [Expr.mentionsTarget] at mentions
      rw [Expr.tracedTarget, Expr.compileTarget, Expr.literalsTarget]
      exact Expr.traced_follows known false target mentions
termination_by structural target => target

theorem Expr.tracedAll_follows {path : String} {grouped : Bool} {scope : Scope}
    (known : scope.At path grouped) :
    ∀ exprs : List Expr, (∀ mention ∈ Expr.mentionsAll exprs, mention.Permitted allowed) →
      Follows allowed path (Expr.literalsAll grouped exprs) (fun _ => True)
        (Expr.tracedAll scope exprs) (Expr.compileAll scope exprs)
  | [], _ => by
      rw [Expr.tracedAll, Expr.compileAll, Expr.literalsAll]
      exact .pure trivial
  | expr :: rest, mentions => by
      rw [Expr.mentionsAll, List.forall_mem_append] at mentions
      rw [Expr.tracedAll, Expr.compileAll, Expr.literalsAll]
      apply (Expr.traced_follows known false expr mentions.1).bind
      intro term _
      apply (Expr.tracedAll_follows known rest mentions.2).bind_still
      intro terms _
      exact .pure trivial
termination_by structural exprs => exprs

theorem Capture.traced_follows {path : String} {grouped : Bool} {scope : Scope}
    (known : scope.At path grouped) (name : String) :
    ∀ captures : List Capture,
      (∀ mention ∈ Capture.mentionsAll captures, mention.Permitted allowed) →
      Follows allowed path (Capture.literals name captures) (fun _ => True)
        (Capture.traced scope name captures) (Capture.compile scope name captures)
  | [], _ => by
      rw [Capture.traced, Capture.compile]
      exact .throw _
  | .value held value :: rest, mentions => by
      rw [Capture.mentionsAll] at mentions
      rw [Capture.traced, Capture.compile, Capture.literals]
      by_cases same : held = name
      · rw [if_pos same, if_pos same, if_pos same]
        exact .bindValue known.path_eq value
      · rw [if_neg same, if_neg same, if_neg same]
        exact Capture.traced_follows known name rest mentions
  | .query held query :: rest, mentions => by
      rw [Capture.mentionsAll, List.forall_mem_append] at mentions
      rw [Capture.traced, Capture.compile, Capture.literals]
      by_cases same : held = name
      · rw [if_pos same, if_pos same, if_pos same, ← List.append_nil query.literals]
        refine .nest_bind known.path_eq (fun path => ?_) (fun statement => .pure trivial)
        exact Query.traced_follows scope.resolver path query mentions.1
      · rw [if_neg same, if_neg same, if_neg same]
        exact Capture.traced_follows known name rest mentions.2
termination_by structural captures => captures

theorem Lambda.tracedAll_follows {path : String} {grouped : Bool} {scope : Scope}
    (known : scope.At path grouped) :
    ∀ predicates : List Lambda,
      (∀ mention ∈ Lambda.mentionsAll predicates, mention.Permitted allowed) →
      Follows allowed path (Lambda.literalsAll grouped predicates) (fun _ => True)
        (Lambda.tracedAll scope predicates) (Lambda.compileAll scope predicates)
  | [], _ => by
      rw [Lambda.tracedAll, Lambda.compileAll, Lambda.literalsAll]
      exact .pure trivial
  | ⟨params, body⟩ :: rest, mentions => by
      rw [Lambda.mentionsAll, Lambda.mentions, List.forall_mem_append,
        List.forall_mem_append] at mentions
      rw [Lambda.tracedAll, Lambda.compileAll, Lambda.literalsAll, Lambda.literals]
      apply (Expr.traced_follows known true body mentions.1.2).bind
      intro term _
      apply (Lambda.tracedAll_follows known rest mentions.2).bind_still
      intro terms _
      exact .pure trivial
termination_by structural predicates => predicates

theorem Join.tracedAll_follows {path : String} {scope : Scope}
    (within : scope.Within allowed path) :
    ∀ joins : List Join, (∀ mention ∈ Join.mentionsAll joins, mention.Permitted allowed) →
      Follows allowed path (Join.literalsAll joins) (fun done => done.2.Within allowed path)
        (Join.tracedAll scope joins) (Join.compileAll scope joins)
  | [], _ => by
      rw [Join.tracedAll, Join.compileAll, Join.literalsAll]
      exact .pure within
  | ⟨kind, source, outerKey, innerKey, result⟩ :: rest, mentions => by
      rw [Join.mentionsAll] at mentions
      simp only [List.forall_mem_append] at mentions
      obtain ⟨⟨⟨⟨ofSource, ofOuter⟩, -⟩, ofResult⟩, ofRest⟩ := mentions
      rw [Join.tracedAll, Join.compileAll, Join.literalsAll, List.append_assoc,
        ← List.nil_append (source.literals ++ _)]
      apply (Follows.bindJoin within.path_eq within.named ofResult).bind
      rintro ⟨table, aliases⟩ ⟨registered, named⟩
      have known : ({ scope with aliases := aliases } : Scope).At path false :=
        ⟨within.path_eq, within.grouped_eq⟩
      refine .nest_bind known.path_eq
        (fun path => Query.tracedSource_follows scope.resolver path source ofSource)
        fun source => ?_
      apply (Lambda.tracedBody_follows known outerKey ofOuter).bind
      intro outer _
      cases keyMember? innerKey with
      | none => exact .throw _
      | some member =>
          have advanced : ({ scope with aliases := aliases.advance table } : Scope).Within
              allowed path :=
            ⟨⟨within.path_eq, within.grouped_eq⟩, Aliases.advance_named registered named⟩
          apply (Join.tracedAll_follows advanced rest ofRest).bind_still
          rintro ⟨clauses, scope⟩ within
          exact .pure within
termination_by structural joins => joins

theorem Lambda.tracedBody_follows {path : String} {grouped : Bool} {scope : Scope}
    (known : scope.At path grouped) :
    ∀ function : Lambda, (∀ mention ∈ function.mentions, mention.Permitted allowed) →
      Follows allowed path (function.literals grouped) (fun _ => True)
        (Lambda.tracedBody scope function) (Lambda.compileBody scope function)
  | ⟨params, body⟩, mentions => by
      rw [Lambda.mentions, List.forall_mem_append] at mentions
      rw [Lambda.tracedBody, Lambda.compileBody, Lambda.literals]
      exact Expr.traced_follows known false body mentions.2
termination_by structural function => function

theorem Lambda.tracedGroupKey_follows {path : String} {scope : Scope}
    (known : scope.At path false) :
    ∀ key : Option Lambda, (∀ mention ∈ Lambda.mentionsOption key, mention.Permitted allowed) →
      Follows allowed path (Lambda.literalsOption false key)
        (fun done => done.2.At path (Lambda.givesKey key))
        (Lambda.tracedGroupKey scope key) (Lambda.compileGroupKey scope key)
  | none, _ => by
      rw [Lambda.tracedGroupKey, Lambda.compileGroupKey, Lambda.literalsOption]
      exact .pure known
  | some ⟨params, body⟩, mentions => by
      rw [Lambda.mentionsOption, Lambda.mentions, List.forall_mem_append] at mentions
      rw [Lambda.literalsOption, Lambda.literals]
      have single : Follows allowed path (body.literals false) (fun done => done.2.At path true)
          (do let key ← body.traced scope false
              return (some [key], { scope with groupKey := some key }))
          (do let key ← body.compile scope false
              return (some [key], { scope with groupKey := some key })) :=
        (Expr.traced_follows known false body mentions.2).bind_still
          fun key _ => .pure ⟨known.path_eq, rfl⟩
      cases body with
      | construct ctor args ty =>
          cases ctor with
          | record names =>
              rw [Expr.mentions, List.forall_mem_append] at mentions
              rw [Lambda.tracedGroupKey, Lambda.compileGroupKey, Expr.literals]
              exact (Expr.tracedAll_follows known args mentions.2.2).bind_still
                fun keys _ => .pure known
          | _ =>
              simp only [Lambda.tracedGroupKey, Lambda.compileGroupKey]
              exact single
      | _ =>
          simp only [Lambda.tracedGroupKey, Lambda.compileGroupKey]
          exact single
termination_by structural key => key

theorem Order.tracedAll_follows {path : String} {grouped : Bool} {scope : Scope}
    (known : scope.At path grouped) :
    ∀ orders : List Order, (∀ mention ∈ Order.mentionsAll orders, mention.Permitted allowed) →
      Follows allowed path (Order.literalsAll grouped orders) (fun _ => True)
        (Order.tracedAll scope orders) (Order.compileAll scope orders)
  | [], _ => by
      rw [Order.tracedAll, Order.compileAll, Order.literalsAll]
      exact .pure trivial
  | ⟨key, ascending⟩ :: rest, mentions => by
      rw [Order.mentionsAll, List.forall_mem_append] at mentions
      rw [Order.tracedAll, Order.compileAll, Order.literalsAll]
      apply (Lambda.tracedBody_follows known key mentions.1).bind
      intro term _
      apply (Order.tracedAll_follows known rest mentions.2).bind_still
      intro keys _
      exact .pure trivial
termination_by structural orders => orders

theorem Lambda.tracedSelection_follows {path : String} {grouped : Bool} {scope : Scope}
    (known : scope.At path grouped) :
    ∀ function : Lambda, (∀ mention ∈ function.mentions, mention.Permitted allowed) →
      Follows allowed path (function.literals grouped) (fun _ => True)
        (Lambda.tracedSelection scope function) (Lambda.compileSelection scope function)
  | ⟨params, body⟩, mentions => by
      rw [Lambda.mentions, List.forall_mem_append] at mentions
      rw [Lambda.tracedSelection, Lambda.compileSelection, Lambda.literals]
      exact (Expr.traced_follows known false body mentions.2).bind_still
        fun term _ => .pure trivial
termination_by structural function => function

theorem Join.tracedLast_follows {path : String} {grouped : Bool} {scope : Scope}
    (known : scope.At path grouped) :
    ∀ joins : List Join, (∀ mention ∈ Join.mentionsAll joins, mention.Permitted allowed) →
      Follows allowed path (Join.literalsLast grouped joins) (fun _ => True)
        (Join.tracedLast scope joins) (Join.compileLast scope joins)
  | [], _ => by
      rw [Join.tracedLast, Join.compileLast, Join.literalsLast]
      exact .pure trivial
  | [⟨kind, source, outerKey, innerKey, result⟩], mentions => by
      rw [Join.mentionsAll] at mentions
      simp only [List.forall_mem_append] at mentions
      rw [Join.tracedLast, Join.compileLast, Join.literalsLast]
      exact Lambda.tracedSelection_follows known result mentions.1.2
  | ⟨kind, source, outerKey, innerKey, result⟩ :: join :: rest, mentions => by
      rw [Join.mentionsAll, List.forall_mem_append] at mentions
      rw [Join.tracedLast, Join.compileLast, Join.literalsLast]
      exact Join.tracedLast_follows known (join :: rest) mentions.2
termination_by structural joins => joins

theorem Select.traced_follows (resolver : Resolver) (path : String) : ∀ node : Select,
    (∀ mention ∈ node.mentions, mention.Permitted allowed) →
      NodeFollows allowed path node.literals (node.traced resolver path)
        (node.compile resolver path)
  | ⟨source, modelType, filters, having, projection, groupKey, groupElement, joins, orderBy,
      skip, take, distinct, stage⟩, mentions => by
      rw [Select.traced_eq, Select.compile_eq]
      refine ⟨_, _, rfl, rfl, ?_⟩
      rw [← List.nil_append (Select.literals _)]
      apply (Follows.bindSource mentions).bind
      rw [Select.mentions] at mentions
      simp only [List.forall_mem_append] at mentions
      obtain ⟨⟨⟨⟨⟨⟨⟨ofSource, ofFilters⟩, ofHaving⟩, ofProjection⟩, ofKey⟩, -⟩, ofJoins⟩,
        ofOrder⟩ := mentions
      rw [Select.literals.eq_def]
      simp only [List.append_assoc]
      rintro ⟨table, aliases⟩ named
      have within : (⟨resolver, path, aliases, none⟩ : Scope).Within allowed path :=
        ⟨⟨rfl, rfl⟩, named⟩
      refine .nest_bind within.path_eq
        (fun path => Query.tracedSource_follows resolver path source ofSource) fun source => ?_
      apply (Join.tracedAll_follows within joins ofJoins).bind
      rintro ⟨joinClauses, scope⟩ within
      apply (Lambda.tracedAll_follows within.toAt filters ofFilters).bind
      intro filters _
      apply (Lambda.tracedGroupKey_follows within.toAt groupKey ofKey).bind
      rintro ⟨groupBy, scope⟩ known
      apply (Lambda.tracedAll_follows known having ofHaving).bind
      intro having _
      apply (Order.tracedAll_follows known orderBy ofOrder).bind
      intro sortKeys _
      cases projection with
      | some function =>
          rw [Lambda.mentionsOption] at ofProjection
          exact (Lambda.tracedSelection_follows known function ofProjection).bind_still
            fun selection _ => .pure trivial
      | none =>
          exact (Join.tracedLast_follows known joins ofJoins).bind_still
            fun selection _ => .pure trivial
termination_by structural node => node

theorem Query.traced_follows (resolver : Resolver) (path : String) : ∀ query : Query,
    (∀ mention ∈ query.mentions, mention.Permitted allowed) →
      CommandFollows allowed path query.literals (query.traced resolver path)
        (query.compile resolver path)
  | .table model, _ => by
      rw [Query.traced, Query.compile, Query.literals]
      exact .table _
  | .select node, mentions => by
      rw [Query.mentions] at mentions
      rw [Query.traced, Query.compile, Query.literals]
      exact (CommandFollows.ofNode (Select.traced_follows resolver path node mentions)).map
        Statement.select
  | .combine op first second, mentions => by
      rw [Query.mentions, List.forall_mem_append] at mentions
      rw [Query.traced, Query.compile, Query.literals]
      exact .combine (Query.traced_follows resolver (path ++ "so0_") first mentions.1)
        (Query.traced_follows resolver (path ++ "so1_") second mentions.2) (Statement.combine op)
termination_by structural query => query

theorem Query.tracedSource_follows (resolver : Resolver) (path : String) : ∀ query : Query,
    (∀ mention ∈ query.mentions, mention.Permitted allowed) →
      CommandFollows allowed path query.literals (query.tracedSource resolver path)
        (query.compileSource resolver path)
  | .table model, _ => by
      rw [Query.tracedSource, Query.compileSource, Query.literals]
      exact .table _
  | .select ⟨source, modelType, filters, having, projection, groupKey, groupElement, joins,
      orderBy, skip, take, distinct, stage⟩, mentions => by
      rw [Query.mentions] at mentions
      have whole := Select.traced_follows resolver path ⟨source, modelType, filters, having,
        projection, groupKey, groupElement, joins, orderBy, skip, take, distinct, stage⟩ mentions
      rw [Select.mentions] at mentions
      simp only [List.forall_mem_append] at mentions
      rw [Query.tracedSource_select, Query.compileSource_select, Query.literals]
      split
      · rw [Select.literals_of_isTrivial ‹_›]
        exact Query.tracedSource_follows resolver path source mentions.1.1.1.1.1.1.1
      · exact (CommandFollows.ofNode whole).map fun body => Source.derived (.select body)
  | .combine op first second, mentions => by
      rw [Query.mentions, List.forall_mem_append] at mentions
      rw [Query.tracedSource, Query.compileSource, Query.literals]
      exact .combine (Query.traced_follows resolver (path ++ "so0_") first mentions.1)
        (Query.traced_follows resolver (path ++ "so1_") second mentions.2)
        fun first second => Source.derived (.combine op first second)
termination_by structural query => query

end

end TypedQuery
