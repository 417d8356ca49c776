/-
Module: TypedQuery.Proofs.PlaceholderAgreement
Purpose: Text and bound names agree. As long as no name of a query and no identifier of its
  tables and columns has an at sign, every at sign of a command's text begins the name of a
  bound value, and every bound name occurs in the text if no literal is in a part that is not
  rendered.
Main exports: Query.compile_shows, Query.toCommand_placeholders
-/
import TypedQuery.Proofs.Identifiers
import TypedQuery.Proofs.RenderedLiterals
import TypedQuery.Proofs.ShownNames

namespace TypedQuery

open Sql Sql.Compile

namespace Sql

/-- What is known of a scope: its resolver and prefix, where its aliases come from, and
that what its group key shows is held. -/
structure Scope.Presents (resolver : Resolver) (path : String) (grouped : Bool)
    (held : List String) (scope : Scope) : Prop extends scope.At path grouped where
  resolver_eq : scope.resolver = resolver
  word : IsWord path
  named : Aliases.Named Plain path scope.aliases
  key : ∀ term, scope.groupKey = some term → term.tokens ⊆ held

theorem Scope.Presents.mono {resolver : Resolver} {path : String} {grouped : Bool}
    {held held' : List String} {scope : Scope}
    (presents : scope.Presents resolver path grouped held) (more : held ⊆ held') :
    scope.Presents resolver path grouped held' where
  toAt := presents.toAt
  resolver_eq := presents.resolver_eq
  word := presents.word
  named := presents.named
  key := fun term isKey => List.Subset.trans (presents.key term isKey) more

/-- Nothing but the aliases changes when a source is bound. -/
theorem Scope.Presents.withAliases {resolver : Resolver} {path : String} {grouped : Bool}
    {held : List String} {scope : Scope} {aliases : Aliases}
    (presents : scope.Presents resolver path grouped held)
    (named : Aliases.Named Plain path aliases) :
    ({ scope with aliases := aliases } : Scope).Presents resolver path grouped held where
  path_eq := presents.path_eq
  grouped_eq := presents.grouped_eq
  resolver_eq := presents.resolver_eq
  word := presents.word
  named := named
  key := presents.key

theorem Aliases.IsNamed.plain {path table : String} (named : Aliases.IsNamed Plain path table)
    (word : IsWord path) : Plain table := by
  obtain ⟨name, plain, rfl⟩ := named
  exact word.plain.append plain

/-! ### Forms of single nodes -/

section Forms

variable {resolver : Resolver} {path : String} {grouped : Bool} {held : List String}
  {scope : Scope}

theorem tokens_encloseDisjunction (predicate : Expr) (term : Term) :
    (encloseDisjunction predicate term).tokens = term.tokens := by
  cases predicate with
  | binary op left right ty =>
      rw [encloseDisjunction]
      split
      · exact Term.tokens_enclosed term
      · rfl
  | _ => rfl

theorem tokens_selectionOf (projection : Expr) (term : Term) :
    (selectionOf projection term).tokens = term.tokens := by
  cases projection with
  | parameter param => exact Selection.tokens_allOf term
  | _ => rfl

theorem tokens_durationTerm (ty : Ty) (term : Term) :
    (durationTerm ty term).tokens = term.tokens := by
  unfold durationTerm
  split
  · exact Term.tokens_convert .float term
  · rfl

theorem tokens_paramColumn (presents : scope.Presents resolver path grouped held)
    (condition : Bool) {param : Param} {name : Member} (ty : Ty) (plain : Plain param.name)
    (plain' : Plain (resolver.columnName name)) :
    (paramColumn scope condition param name ty).tokens = [] := by
  have table := (Aliases.ofParam_named presents.named plain).plain presents.word
  rw [← presents.resolver_eq] at plain'
  unfold paramColumn
  dsimp only
  split
  · exact Term.tokens_flag table plain'
  · exact Term.tokens_column table plain'

/-- A field has the term and the label of its position. -/
theorem getElem?_label {terms : List Term} {names : List String} {index : Nat}
    {field : Labelled} :
    (label terms names)[index]? = some field ↔
      terms[index]? = some field.term ∧ names[index]? = some field.label := by
  induction terms generalizing names index with
  | nil => cases names <;> simp [label]
  | cons term rest ih =>
      cases names with
      | nil => simp [label]
      | cons name names =>
          cases index with
          | zero =>
              rw [label, List.getElem?_cons_zero, List.getElem?_cons_zero,
                List.getElem?_cons_zero]
              cases field
              simp
          | succ index =>
              rw [label, List.getElem?_cons_succ, List.getElem?_cons_succ,
                List.getElem?_cons_succ]
              exact ih

/-- A row shows what the arguments show that have a label. -/
theorem mem_tokens_record {terms : List Term} {names : List String} {token : String}
    (plain : ∀ name ∈ names, Plain name) :
    token ∈ (Term.columns (label terms names)).tokens ↔
      token ∈ shownFrom (Constructor.record names).renders 0 terms := by
  have labels : ∀ field ∈ label terms names, Plain field.label := by
    intro field present
    obtain ⟨index, found⟩ := List.mem_iff_getElem?.mp present
    exact plain _ (List.mem_of_getElem? (getElem?_label.mp found).2)
  rw [Term.tokens_columns labels, List.mem_flatMap, mem_shownFrom]
  simp only [Nat.zero_add, Constructor.renders, decide_eq_true_eq]
  constructor
  · intro shown
    obtain ⟨field, present, isShown⟩ := shown
    obtain ⟨index, found⟩ := List.mem_iff_getElem?.mp present
    obtain ⟨ofTerm, ofName⟩ := getElem?_label.mp found
    exact ⟨index, field.term, (List.getElem?_eq_some_iff.mp ofName).1, ofTerm, isShown⟩
  · intro held
    obtain ⟨index, term, bounded, ofTerm, isShown⟩ := held
    refine ⟨⟨term, names[index]⟩, ?_, isShown⟩
    apply List.mem_of_getElem?
    exact getElem?_label.mpr ⟨ofTerm, List.getElem?_eq_getElem bounded⟩

theorem tokens_padParts (parts : List Term) :
    (Term.dateTime (padParts parts)).tokens = shownFrom Constructor.dateTime.renders 0 parts := by
  have zeros : ∀ count, (List.replicate count Term.zero).flatMap Term.tokens = [] := by
    intro count
    induction count with
    | zero => rfl
    | succ count ih => rw [List.replicate_succ, List.flatMap_cons, ih, Term.tokens_zero]; rfl
  rw [Term.tokens_dateTime, padParts, List.flatMap_append, zeros, List.append_nil]
  exact (shownFrom_all 0 parts).symm

/-- A filled template shows what stands in its slots. -/
theorem mem_tokens_slots {template : Template} (separated : template.Separated)
    {slots : List Term} {token : String} :
    token ∈ (Term.apply template slots).tokens ↔
      token ∈ shownFrom template.mentions 0 slots := by
  rw [Term.mem_tokens_apply separated, mem_shownFrom]
  simp only [Nat.zero_add]

/-- A construction shows its rendered arguments. -/
theorem constructTerm_shows {ctor : Constructor} (kept : Prop) (args : List Term)
    (names : ∀ mention ∈ ctor.mentions, mention.Permitted Plain) :
    Shows held kept (shownFrom ctor.renders 0 args) (fun _ => True) Term.tokens
      (constructTerm ctor args) := by
  cases ctor with
  | record labels =>
      apply Shows.same trivial
      intro token
      apply mem_tokens_record
      intro label present
      exact names (.field label) (List.mem_map.mpr ⟨label, present, rfl⟩)
  | dateTime => exact Shows.of_eq trivial (tokens_padParts args)
  | random =>
      apply Shows.same trivial
      intro token
      simp [Term.tokens_nothing, mem_shownFrom, Constructor.renders]
  | named name => exact Shows.throw _

/-- A call shows its rendered slots. -/
theorem callTerm_shows (kept : Prop) (method : Method) (slots : List Term) :
    Shows held kept (shownFrom method.renders 0 slots) (fun _ => True) Term.tokens
      (callTerm method slots) := by
  rcases callTerm_cases method slots with ⟨template, found, form⟩ | ⟨fragment, form⟩
  · rw [form, Method.renders_of_template? found]
    apply Shows.same trivial
    intro token
    exact mem_tokens_slots (Template.separated_of_template? found)
  · rw [form]
    exact Shows.throw _

/-- A column shows nothing. -/
theorem memberColumn_shows (presents : scope.Presents resolver path grouped held) (kept : Prop)
    (condition : Bool) {target : Option Expr} {name : Member} (ty : Ty)
    (names : ∀ mention ∈ Expr.mentionsTarget target, mention.Permitted Plain)
    (column : Plain (resolver.columnName name)) :
    Shows held kept [] (fun _ => True) Term.tokens
      (memberColumn scope condition target name ty) := by
  rcases memberColumn_cases scope condition target name ty with
    ⟨param, rfl, form⟩ | ⟨outer, inner, innerTy, table, rfl, found, form⟩ | ⟨fragment, form⟩
  · rw [form]
    have ofParam : Plain param.name := names (.param param.name) (.head _)
    exact Shows.of_eq trivial (tokens_paramColumn presents condition ty ofParam column)
  · rw [form]
    have ofTable := (Aliases.ofMember?_named presents.named found).plain presents.word
    rw [← presents.resolver_eq] at column
    exact Shows.of_eq trivial (Term.tokens_column ofTable column)
  · rw [form]
    exact Shows.throw _

end Forms

/-! ### Members -/

/-- What is known of the parts of a form. -/
def MemberForm.Sound (scope : Scope) : MemberForm → Prop
  | .key term => scope.groupKey = some term
  | .duration unit template _ _ => Plain unit ∧ template.Separated
  | .property template => template.Separated
  | .refused _ | .captured _ | .column => True

end Sql

theorem Expr.memberForm_sound (scope : Scope) (target : Option Expr) (name : Member) (ty : Ty) :
    (Expr.memberForm scope target name ty).Sound scope := by
  have arises := Expr.memberForm_arises scope target name ty
  generalize Expr.memberForm scope target name ty = form at arises
  cases arises with
  | key keyed => exact scope.groupKeyOf?_mem keyed
  | duration unkeyed timed isUnit isCall found =>
      exact ⟨plain_of_durationUnit? isUnit, Template.separated_of_template? found⟩
  | property unkeyed untimed notClosure found =>
      exact Template.separated_of_propertyTemplate? found
  | _ => trivial

/-- Whether a member keeps its literals, by its form. -/
def Expr.memberKeeps (grouped : Bool) (target : Option Expr) (name : Member) :
    MemberForm → Bool
  | .key _ | .refused _ | .column => true
  | .duration _ template callee args =>
    Expr.keepsTarget grouped (template.mentions 1) callee &&
      Expr.keepsAll grouped template.mentions 2 args
  | .captured captures => Capture.keepsLiterals name.name captures
  | .property template => Expr.keepsTarget grouped (template.mentions 0) target

/-- Unless it is refused, a member keeps its literals if its form does. -/
theorem Expr.keepsLiterals_member {path : String} {grouped : Bool} {scope : Scope}
    (known : scope.At path grouped) (target : Option Expr) (name : Member) (ty : Ty) :
    (∃ fragment, Expr.memberForm scope target name ty = .refused fragment) ∨
      (Expr.member target name ty).keepsLiterals grouped =
        Expr.memberKeeps grouped target name (Expr.memberForm scope target name ty) := by
  rw [Expr.keepsLiterals.eq_def]
  simp only [← known.groupKeyOf?_isSome name]
  have arises := Expr.memberForm_arises scope target name ty
  generalize Expr.memberForm scope target name ty = form at arises
  cases arises with
  | key keyed => simp [keyed, Expr.memberKeeps]
  | refused fragment => exact .inl ⟨fragment, rfl⟩
  | duration unkeyed timed isUnit isCall found =>
      simp [unkeyed, timed, isCall, Method.renders_of_template? found, Expr.memberKeeps]
  | captured unkeyed untimed isClosure =>
      simp [unkeyed, untimed, isClosure, Expr.memberKeeps]
  | property unkeyed untimed notClosure found =>
      simp [unkeyed, untimed, found, Expr.memberKeeps]
  | column unkeyed untimed notClosure none =>
      simp [unkeyed, untimed, none, Expr.memberKeeps]

/-- The step for members: the target and its parts show their placeholders, so the
member does. -/
theorem Expr.compile_member_shows {resolver : Resolver} {path : String} {grouped : Bool}
    {held : List String} {scope : Scope} (presents : scope.Presents resolver path grouped held)
    {target : Option Expr} (condition : Bool) {name : Member} (ty : Ty)
    (names : ∀ mention ∈ Expr.mentionsTarget target, mention.Permitted Plain)
    (columns : ∀ identifier ∈ (Expr.member target name ty).identifiers resolver, Plain identifier)
    (whole : ∀ rendered : Bool, Shows held (Expr.keepsTarget grouped rendered target = true) []
      (fun _ => True) (fun term => if rendered then term.tokens else [])
      (Expr.compileTarget scope target))
    (parts : Expr.TargetParts
      (fun callee args =>
        (∀ rendered : Bool, Shows held (Expr.keepsTarget grouped rendered callee = true) []
          (fun _ => True) (fun term => if rendered then term.tokens else [])
          (Expr.compileTarget scope callee)) ∧
        ∀ rendered position, Shows held (Expr.keepsAll grouped rendered position args = true) []
          (fun _ => True) (shownFrom rendered position) (Expr.compileAll scope args))
      (fun captures => ∀ name, Shows held (Capture.keepsLiterals name captures = true) []
        (fun _ => True) Term.tokens (Capture.compile scope name captures)) target) :
    Shows held ((Expr.member target name ty).keepsLiterals grouped = true) [] (fun _ => True)
      Term.tokens ((Expr.member target name ty).compile scope condition) := by
  rw [Expr.compile_member]
  have sound := Expr.memberForm_sound scope target name ty
  rcases Expr.keepsLiterals_member presents.toAt target name ty with ⟨fragment, form⟩ | keeps
  · rw [form]
    exact Shows.throw _
  rw [keeps]
  cases form : Expr.memberForm scope target name ty with
  | key term =>
      rw [form] at sound
      apply Shows.pure trivial
      · rw [List.append_nil]
        exact presents.key term sound
      · intro _
        exact List.nil_subset _
  | refused fragment => exact Shows.throw _
  | duration unit template callee args =>
      rw [form] at sound
      obtain ⟨ofCallee, ofArgs⟩ := parts.duration form
      rw [Expr.memberKeeps, Bool.and_eq_true]
      apply (ofCallee (template.mentions 1)).bind And.left
      intro callee _
      apply (ofArgs template.mentions 2).bind And.right
      intro args _
      apply Shows.same trivial
      intro token
      rw [tokens_durationTerm, mem_tokens_slots sound.2, shownFrom, shownFrom,
        Term.tokens_word sound.1, ite_self, List.append_assoc]
  | captured captures => exact parts.captures form _
  | property template =>
      rw [form] at sound
      apply (whole (template.mentions 0)).bind id
      intro callee _
      apply Shows.same trivial
      intro token
      rw [mem_tokens_slots sound, shownFrom, shownFrom, List.append_nil]
      rfl
  | column =>
      have arises := Expr.memberForm_arises scope target name ty
      rw [form] at arises
      cases arises with
      | column unkeyed untimed notClosure none =>
          have present := Expr.columnName_mem_identifiers resolver ty untimed notClosure none
          exact memberColumn_shows presents _ condition ty names (columns _ present)

/-- A slot that is not rendered shows nothing; it binds nothing if it has no literals. -/
theorem Expr.compile_slot_shows {resolver : Resolver} {path : String} {grouped : Bool}
    {held : List String} {scope : Scope} (presents : scope.Presents resolver path grouped held)
    {expr : Expr}
    (shows : Shows held (expr.keepsLiterals grouped = true) [] (fun _ => True) Term.tokens
      (expr.compile scope false)) (rendered : Bool) :
    Shows held
      ((if rendered then expr.keepsLiterals grouped else (expr.literals grouped).isEmpty) = true)
      [] (fun _ => True) (fun term => if rendered then term.tokens else [])
      (expr.compile scope false) := by
  cases rendered with
  | true => exact shows
  | false =>
      have follows := Expr.traced_follows presents.toAt false expr
        fun mention _ => mention.permitted_of_all
      exact follows.discards held

/-! ### Every part shows its placeholders

The induction follows compilation, one case for each recursive function. What a clause
shows is collected from the parts in the order in which they are compiled. -/

mutual

theorem Expr.compile_shows {resolver : Resolver} {path : String} {grouped : Bool}
    {held : List String} {scope : Scope} (presents : scope.Presents resolver path grouped held)
    (condition : Bool) :
    ∀ expr : Expr, (∀ mention ∈ expr.mentions, mention.Permitted Plain) →
      (∀ identifier ∈ expr.identifiers resolver, Plain identifier) →
      Shows held (expr.keepsLiterals grouped = true) [] (fun _ => True) Term.tokens
        (expr.compile scope condition)
  | .binary op left right ty, names, columns => by
      rw [Expr.mentions, List.forall_mem_append] at names
      rw [Expr.identifiers, List.forall_mem_append] at columns
      rw [Expr.compile, Expr.keepsLiterals, Bool.and_eq_true]
      apply (Expr.compile_shows presents ty.isBool left names.1 columns.1).bind And.left
      intro left _
      apply (Expr.compile_shows presents ty.isBool right names.2 columns.2).bind And.right
      intro right _
      rcases binaryTerm_cases op left right with ⟨operator, form⟩ | ⟨fragment, form⟩
      · rw [form]
        exact Shows.of_eq trivial (Term.tokens_binary operator left right)
      · rw [form]
        exact Shows.throw _
  | .unary op operand ty, names, columns => by
      rw [Expr.mentions] at names
      rw [Expr.identifiers] at columns
      rw [Expr.compile, Expr.keepsLiterals]
      apply (Expr.compile_shows presents ty.isBool operand names columns).bind id
      intro operand _
      rcases unaryTerm_cases op operand ty with
        ⟨target, form⟩ | ⟨modifier, form⟩ | ⟨fragment, form⟩
      · rw [form]
        exact Shows.of_eq trivial (Term.tokens_convert target operand)
      · rw [form]
        exact Shows.of_eq trivial (Term.tokens_unary modifier operand)
      · rw [form]
        exact Shows.throw _
  | .conditional test ifTrue ifFalse ty, names, columns => by
      rw [Expr.mentions, List.forall_mem_append, List.forall_mem_append] at names
      rw [Expr.identifiers, List.forall_mem_append, List.forall_mem_append] at columns
      rw [Expr.compile, Expr.keepsLiterals, Bool.and_eq_true, Bool.and_eq_true]
      apply (Expr.compile_shows presents true test names.1.1 columns.1.1).bind
        (fun kept => kept.1.1)
      intro test _
      apply (Expr.compile_shows presents false ifTrue names.1.2 columns.1.2).bind
        (fun kept => kept.1.2)
      intro ifTrue _
      apply (Expr.compile_shows presents false ifFalse names.2 columns.2).bind (fun kept => kept.2)
      intro ifFalse _
      exact Shows.of_eq trivial (Term.tokens_iif test ifTrue ifFalse)
  | .member target name ty, names, columns => by
      rw [Expr.mentions] at names
      have ofTarget : ∀ identifier ∈ Expr.identifiersTarget resolver target, Plain identifier :=
        fun identifier present =>
          columns identifier (Expr.identifiersTarget_subset resolver target name ty present)
      refine Expr.compile_member_shows presents condition ty names columns
        (fun rendered => Expr.compileTarget_shows presents rendered target names ofTarget) ?_
      cases target with
      | none => trivial
      | some expr =>
          rw [Expr.mentionsTarget] at names
          rw [Expr.identifiersTarget] at ofTarget
          cases expr with
          | call callee method args ty =>
              rw [Expr.mentions, List.forall_mem_append] at names
              rw [Expr.identifiers, List.forall_mem_append] at ofTarget
              exact ⟨fun rendered =>
                  Expr.compileTarget_shows presents rendered callee names.1 ofTarget.1,
                fun rendered position =>
                  Expr.compileAll_shows presents rendered position args names.2 ofTarget.2⟩
          | closure captures ty =>
              rw [Expr.mentions] at names
              rw [Expr.identifiers] at ofTarget
              exact fun name => Capture.compile_shows presents name captures names ofTarget
          | _ => trivial
  | .call target method args ty, names, columns => by
      rw [Expr.mentions, List.forall_mem_append] at names
      rw [Expr.identifiers, List.forall_mem_append] at columns
      rw [Expr.compile, Expr.keepsLiterals, Bool.and_eq_true]
      apply (Expr.compileTarget_shows presents (method.renders 0) target names.1 columns.1).bind
        And.left
      intro callee _
      apply (Expr.compileAll_shows presents method.renders 1 args names.2 columns.2).bind And.right
      intro args _
      exact callTerm_shows _ method (callee :: args)
  | .construct ctor args ty, names, columns => by
      rw [Expr.mentions, List.forall_mem_append] at names
      rw [Expr.identifiers] at columns
      rw [Expr.compile, Expr.keepsLiterals]
      apply (Expr.compileAll_shows presents ctor.renders 0 args names.2 columns).bind id
      intro args _
      exact constructTerm_shows _ args names.1
  | .constant value ty, _, _ => by
      cases value with
      | null =>
          rw [Expr.compile]
          exact Shows.of_eq trivial Term.tokens_null
      | _ =>
          simp only [Expr.compile]
          exact Shows.bindValue (presents.path_eq ▸ presents.word) _
  | .closure captures ty, _, _ => by
      rw [Expr.compile]
      exact Shows.throw _
  | .parameter param, names, _ => by
      rw [Expr.compile]
      have plain : Plain param.name := names (.param param.name) (.head _)
      have table := (Aliases.ofParam_named presents.named plain).plain presents.word
      exact Shows.of_eq trivial (Term.tokens_row table)
  | .lambda ⟨params, body⟩, names, columns => by
      rw [Expr.mentions, Lambda.mentions, List.forall_mem_append] at names
      rw [Expr.identifiers, Lambda.identifiers] at columns
      rw [Expr.compile, Expr.keepsLiterals]
      exact Expr.compile_shows presents false body names.2 columns
termination_by structural expr => expr

theorem Expr.compileTarget_shows {resolver : Resolver} {path : String} {grouped : Bool}
    {held : List String} {scope : Scope} (presents : scope.Presents resolver path grouped held)
    (rendered : Bool) :
    ∀ target : Option Expr, (∀ mention ∈ Expr.mentionsTarget target, mention.Permitted Plain) →
      (∀ identifier ∈ Expr.identifiersTarget resolver target, Plain identifier) →
      Shows held (Expr.keepsTarget grouped rendered target = true) [] (fun _ => True)
        (fun term => if rendered then term.tokens else []) (Expr.compileTarget scope target)
  | none, _, _ => by
      rw [Expr.compileTarget]
      apply Shows.of_eq trivial
      rw [Term.tokens_nothing, ite_self]
  | some target, names, columns => by
      rw [Expr.mentionsTarget] at names
      rw [Expr.identifiersTarget] at columns
      rw [Expr.compileTarget, Expr.keepsTarget]
      exact Expr.compile_slot_shows presents
        (Expr.compile_shows presents false target names columns) rendered
termination_by structural target => target

theorem Expr.compileAll_shows {resolver : Resolver} {path : String} {grouped : Bool}
    {held : List String} {scope : Scope} (presents : scope.Presents resolver path grouped held)
    (rendered : Nat → Bool) :
    ∀ (position : Nat) (exprs : List Expr),
      (∀ mention ∈ Expr.mentionsAll exprs, mention.Permitted Plain) →
      (∀ identifier ∈ Expr.identifiersAll resolver exprs, Plain identifier) →
      Shows held (Expr.keepsAll grouped rendered position exprs = true) [] (fun _ => True)
        (shownFrom rendered position) (Expr.compileAll scope exprs)
  | position, [], _, _ => by
      rw [Expr.compileAll]
      exact Shows.of_eq trivial rfl
  | position, expr :: rest, names, columns => by
      rw [Expr.mentionsAll, List.forall_mem_append] at names
      rw [Expr.identifiersAll, List.forall_mem_append] at columns
      rw [Expr.compileAll, Expr.keepsAll, Bool.and_eq_true]
      apply (Expr.compile_slot_shows presents
        (Expr.compile_shows presents false expr names.1 columns.1) (rendered position)).bind
        And.left
      intro term _
      apply (Expr.compileAll_shows presents rendered (position + 1) rest names.2 columns.2).bind
        And.right
      intro terms _
      exact Shows.of_eq trivial rfl
termination_by structural _ exprs => exprs

theorem Capture.compile_shows {resolver : Resolver} {path : String} {grouped : Bool}
    {held : List String} {scope : Scope} (presents : scope.Presents resolver path grouped held)
    (name : String) :
    ∀ captures : List Capture,
      (∀ mention ∈ Capture.mentionsAll captures, mention.Permitted Plain) →
      (∀ identifier ∈ Capture.identifiersAll resolver captures, Plain identifier) →
      Shows held (Capture.keepsLiterals name captures = true) [] (fun _ => True) Term.tokens
        (Capture.compile scope name captures)
  | [], _, _ => by
      rw [Capture.compile]
      exact Shows.throw _
  | .value held value :: rest, names, columns => by
      rw [Capture.mentionsAll] at names
      rw [Capture.identifiersAll] at columns
      rw [Capture.compile, Capture.keepsLiterals]
      by_cases same : held = name
      · rw [if_pos same, if_pos same]
        exact Shows.bindValue (presents.path_eq ▸ presents.word) value
      · rw [if_neg same, if_neg same]
        exact Capture.compile_shows presents name rest names columns
  | .query held query :: rest, names, columns => by
      rw [Capture.mentionsAll, List.forall_mem_append] at names
      rw [Capture.identifiersAll, List.forall_mem_append] at columns
      rw [Capture.compile, Capture.keepsLiterals]
      by_cases same : held = name
      · rw [if_pos same, if_pos same, presents.resolver_eq]
        apply Shows.nest_bind (presents.path_eq ▸ presents.word)
          (fun path word => Query.compile_shows resolver word query names.1 columns.1) id
        intro statement
        exact Shows.of_eq trivial (Term.tokens_subquery statement)
      · rw [if_neg same, if_neg same]
        exact Capture.compile_shows presents name rest names.2 columns.2
termination_by structural captures => captures

theorem Lambda.compileAll_shows {resolver : Resolver} {path : String} {grouped : Bool}
    {held : List String} {scope : Scope} (presents : scope.Presents resolver path grouped held) :
    ∀ predicates : List Lambda,
      (∀ mention ∈ Lambda.mentionsAll predicates, mention.Permitted Plain) →
      (∀ identifier ∈ Lambda.identifiersAll resolver predicates, Plain identifier) →
      Shows held (Lambda.keepsAll grouped predicates = true) [] (fun _ => True)
        (fun terms => terms.flatMap Term.tokens) (Lambda.compileAll scope predicates)
  | [], _, _ => by
      rw [Lambda.compileAll]
      exact Shows.of_eq trivial rfl
  | ⟨params, body⟩ :: rest, names, columns => by
      rw [Lambda.mentionsAll, Lambda.mentions, List.forall_mem_append,
        List.forall_mem_append] at names
      rw [Lambda.identifiersAll, Lambda.identifiers, List.forall_mem_append] at columns
      rw [Lambda.compileAll, Lambda.keepsAll, Lambda.keepsLiterals, Bool.and_eq_true]
      apply (Expr.compile_shows presents true body names.1.2 columns.1).bind And.left
      intro term _
      apply (Lambda.compileAll_shows presents rest names.2 columns.2).bind And.right
      intro terms _
      apply Shows.of_eq trivial
      rw [List.flatMap_cons, tokens_encloseDisjunction]
      rfl
termination_by structural predicates => predicates

theorem Join.compileAll_shows {resolver : Resolver} {path : String} {held : List String}
    {scope : Scope} (presents : scope.Presents resolver path false held) :
    ∀ joins : List Join, (∀ mention ∈ Join.mentionsAll joins, mention.Permitted Plain) →
      (∀ identifier ∈ Join.identifiersAll resolver joins, Plain identifier) →
      Shows held (Join.keepsAll joins = true) []
        (fun done => done.2.Presents resolver path false held ∧
          ∀ join ∈ done.1, Plain join.table)
        (fun done => done.1.flatMap JoinClause.tokens) (Join.compileAll scope joins)
  | [], _, _ => by
      rw [Join.compileAll]
      exact Shows.of_eq ⟨presents, by simp⟩ rfl
  | ⟨kind, source, outerKey, innerKey, result⟩ :: rest, names, columns => by
      rw [Join.mentionsAll] at names
      rw [Join.identifiersAll] at columns
      simp only [List.forall_mem_append] at names columns
      obtain ⟨⟨⟨⟨nSource, nOuter⟩, -⟩, nResult⟩, nRest⟩ := names
      obtain ⟨⟨⟨⟨cSource, cOuter⟩, cInner⟩, -⟩, cRest⟩ := columns
      rw [Join.compileAll, Join.keepsAll, Bool.and_eq_true, Bool.and_eq_true]
      have bound : Shows held
          ((source.keepsLiterals = true ∧ Lambda.keepsLiterals false outerKey = true) ∧
            Join.keepsAll rest = true) []
          (fun bound => Aliases.Named Plain path bound.2 ∧ Aliases.IsNamed Plain path bound.1)
          (fun _ => []) (liftM (scope.aliases.bindJoin
            ⟨kind, source, outerKey, innerKey, result⟩)) :=
        Shows.lift fun bound found => Aliases.bindJoin_named presents.named nResult found
      apply bound.bind id
      rintro ⟨table, aliases⟩ ⟨registered, named⟩
      have inner := presents.withAliases registered
      have table_plain := named.plain presents.word
      apply Shows.nest_bind (inner.path_eq ▸ inner.word)
        (fun path word => inner.resolver_eq ▸
          Query.compileSource_shows resolver word source nSource cSource) (fun kept => kept.1.1)
      intro source
      apply (Lambda.compileBody_shows inner outerKey nOuter cOuter).bind (fun kept => kept.1.2)
      intro outer _
      cases found : keyMember? innerKey with
      | none => exact Shows.throw _
      | some member =>
          have column : Plain (scope.resolver.columnName member) := by
            rw [presents.resolver_eq]
            exact cInner _ (by simp [found])
          have advanced := presents.withAliases (Aliases.advance_named registered named)
          apply (Join.compileAll_shows advanced rest nRest cRest).bind And.right
          rintro ⟨clauses, scope⟩ ⟨presents, plain⟩
          apply Shows.of_eq ⟨presents, List.forall_mem_cons.mpr ⟨table_plain, plain⟩⟩
          simp only [List.flatMap_cons, JoinClause.tokens, Term.tokens_column table_plain column,
            List.append_nil, List.nil_append]
termination_by structural joins => joins

theorem Lambda.compileBody_shows {resolver : Resolver} {path : String} {grouped : Bool}
    {held : List String} {scope : Scope} (presents : scope.Presents resolver path grouped held) :
    ∀ function : Lambda, (∀ mention ∈ function.mentions, mention.Permitted Plain) →
      (∀ identifier ∈ function.identifiers resolver, Plain identifier) →
      Shows held (function.keepsLiterals grouped = true) [] (fun _ => True) Term.tokens
        (Lambda.compileBody scope function)
  | ⟨params, body⟩, names, columns => by
      rw [Lambda.mentions, List.forall_mem_append] at names
      rw [Lambda.identifiers] at columns
      rw [Lambda.compileBody, Lambda.keepsLiterals]
      exact Expr.compile_shows presents false body names.2 columns
termination_by structural function => function

theorem Lambda.compileGroupKey_shows {resolver : Resolver} {path : String} {held : List String}
    {scope : Scope} (presents : scope.Presents resolver path false held) :
    ∀ key : Option Lambda, (∀ mention ∈ Lambda.mentionsOption key, mention.Permitted Plain) →
      (∀ identifier ∈ Lambda.identifiersOption resolver key, Plain identifier) →
      Shows held (Lambda.keepsKey key = true) []
        (fun done => done.2.Presents resolver path (Lambda.givesKey key)
          (held ++ (done.1.getD []).flatMap Term.tokens))
        (fun done => (done.1.getD []).flatMap Term.tokens) (Lambda.compileGroupKey scope key)
  | none, _, _ => by
      rw [Lambda.compileGroupKey]
      exact Shows.of_eq (presents.mono (List.subset_append_left _ _)) rfl
  | some ⟨params, body⟩, names, columns => by
      rw [Lambda.mentionsOption, Lambda.mentions, List.forall_mem_append] at names
      rw [Lambda.identifiersOption, Lambda.identifiers] at columns
      have single : Shows held (body.keepsLiterals false = true) []
          (fun done => done.2.Presents resolver path true
            (held ++ (done.1.getD []).flatMap Term.tokens))
          (fun done => (done.1.getD []).flatMap Term.tokens)
          (do let key ← body.compile scope false
              return (some [key], { scope with groupKey := some key })) := by
        apply (Expr.compile_shows presents false body names.2 columns).bind id
        intro key _
        have keyed : ({ scope with groupKey := some key } : Scope).Presents resolver path true
            (held ++ [key].flatMap Term.tokens) := by
          refine ⟨⟨presents.path_eq, rfl⟩, presents.resolver_eq, presents.word, presents.named, ?_⟩
          intro term isKey
          cases isKey
          simp
        exact Shows.of_eq keyed (List.flatMap_singleton _ _)
      cases body with
      | construct ctor args ty =>
          cases ctor with
          | record labels =>
              rw [Expr.mentions, List.forall_mem_append] at names
              rw [Expr.identifiers] at columns
              rw [Lambda.compileGroupKey, Lambda.keepsKey]
              apply (Expr.compileAll_shows presents (fun _ => true) 0 args names.2.2 columns).bind
                id
              intro keys _
              exact Shows.of_eq (presents.mono (List.subset_append_left _ _))
                (shownFrom_all 0 keys).symm
          | _ =>
              simp only [Lambda.compileGroupKey, Lambda.keepsKey]
              exact single
      | _ =>
          simp only [Lambda.compileGroupKey, Lambda.keepsKey]
          exact single
termination_by structural key => key

theorem Order.compileAll_shows {resolver : Resolver} {path : String} {grouped : Bool}
    {held : List String} {scope : Scope} (presents : scope.Presents resolver path grouped held) :
    ∀ orders : List Order, (∀ mention ∈ Order.mentionsAll orders, mention.Permitted Plain) →
      (∀ identifier ∈ Order.identifiersAll resolver orders, Plain identifier) →
      Shows held (Order.keepsAll grouped orders = true) [] (fun _ => True)
        (fun keys => keys.flatMap SortKey.tokens) (Order.compileAll scope orders)
  | [], _, _ => by
      rw [Order.compileAll]
      exact Shows.of_eq trivial rfl
  | ⟨key, ascending⟩ :: rest, names, columns => by
      rw [Order.mentionsAll, List.forall_mem_append] at names
      rw [Order.identifiersAll, List.forall_mem_append] at columns
      rw [Order.compileAll, Order.keepsAll, Bool.and_eq_true]
      apply (Lambda.compileBody_shows presents key names.1 columns.1).bind And.left
      intro term _
      apply (Order.compileAll_shows presents rest names.2 columns.2).bind And.right
      intro keys _
      exact Shows.of_eq trivial rfl
termination_by structural orders => orders

theorem Lambda.compileSelection_shows {resolver : Resolver} {path : String} {grouped : Bool}
    {held : List String} {scope : Scope} (presents : scope.Presents resolver path grouped held) :
    ∀ function : Lambda, (∀ mention ∈ function.mentions, mention.Permitted Plain) →
      (∀ identifier ∈ function.identifiers resolver, Plain identifier) →
      Shows held (function.keepsLiterals grouped = true) [] (fun _ => True) Selection.tokens
        (Lambda.compileSelection scope function)
  | ⟨params, body⟩, names, columns => by
      rw [Lambda.mentions, List.forall_mem_append] at names
      rw [Lambda.identifiers] at columns
      rw [Lambda.compileSelection, Lambda.keepsLiterals]
      apply (Expr.compile_shows presents false body names.2 columns).bind id
      intro term _
      exact Shows.of_eq trivial (tokens_selectionOf body term)
termination_by structural function => function

theorem Join.compileLast_shows {resolver : Resolver} {path : String} {grouped : Bool}
    {held : List String} {scope : Scope} (presents : scope.Presents resolver path grouped held) :
    ∀ joins : List Join, (∀ mention ∈ Join.mentionsAll joins, mention.Permitted Plain) →
      (∀ identifier ∈ Join.identifiersAll resolver joins, Plain identifier) →
      Shows held (Join.keepsLast grouped joins = true) [] (fun _ => True) Selection.tokens
        (Join.compileLast scope joins)
  | [], _, _ => by
      rw [Join.compileLast]
      exact Shows.of_eq trivial rfl
  | [⟨kind, source, outerKey, innerKey, result⟩], names, columns => by
      rw [Join.mentionsAll] at names
      rw [Join.identifiersAll] at columns
      simp only [List.forall_mem_append] at names columns
      rw [Join.compileLast, Join.keepsLast]
      exact Lambda.compileSelection_shows presents result names.1.2 columns.1.2
  | ⟨kind, source, outerKey, innerKey, result⟩ :: join :: rest, names, columns => by
      rw [Join.mentionsAll, List.forall_mem_append] at names
      rw [Join.identifiersAll, List.forall_mem_append] at columns
      rw [Join.compileLast, Join.keepsLast]
      exact Join.compileLast_shows presents (join :: rest) names.2 columns.2
termination_by structural joins => joins

theorem Select.compile_shows (resolver : Resolver) {path : String} (word : IsWord path) :
    ∀ node : Select, (∀ mention ∈ node.mentions, mention.Permitted Plain) →
      (∀ identifier ∈ node.identifiers resolver, Plain identifier) →
      CommandShows node.Keeps (fun body => tokens body.text) (node.compile resolver path)
  | ⟨source, modelType, filters, having, projection, groupKey, groupElement, joins, orderBy,
      skip, take, distinct, stage⟩, names, columns => by
      have bound : Shows [] (Select.Keeps ⟨source, modelType, filters, having, projection,
          groupKey, groupElement, joins, orderBy, skip, take, distinct, stage⟩) []
          (fun bound => Aliases.Named Plain path bound.2 ∧
            ∀ name ∈ bound.1, Aliases.IsNamed Plain path name)
          (fun _ => []) (liftM (Aliases.bindSource path ⟨source, modelType, filters, having,
            projection, groupKey, groupElement, joins, orderBy, skip, take, distinct, stage⟩)) :=
        Shows.lift fun bound found => Aliases.bindSource_named names found
      rw [Select.mentions] at names
      rw [Select.identifiers] at columns
      simp only [List.forall_mem_append] at names columns
      obtain ⟨⟨⟨⟨⟨⟨⟨nSource, nFilters⟩, nHaving⟩, nProjection⟩, nKey⟩, -⟩, nJoins⟩, nOrder⟩ :=
        names
      obtain ⟨⟨⟨⟨⟨⟨cSource, cFilters⟩, cHaving⟩, cProjection⟩, cKey⟩, cJoins⟩, cOrder⟩ := columns
      rw [Select.compile_eq]
      refine CommandShows.ofParts (?_ : Shows [] _ [] (fun _ => True) _ _)
      apply bound.bind id
      rintro ⟨table, aliases⟩ ⟨registered, named⟩
      have presents : (⟨resolver, path, aliases, none⟩ : Scope).Presents resolver path false [] :=
        ⟨⟨rfl, rfl⟩, rfl, word, registered, by simp⟩
      apply Shows.nest_bind presents.word
        (fun path word => Query.compileSource_shows resolver word source nSource cSource)
        (fun kept => kept.source)
      intro source
      apply (Join.compileAll_shows presents joins nJoins cJoins).bind (fun kept => kept.joins)
      rintro ⟨joinClauses, scope⟩ ⟨presents, joined⟩
      apply (Lambda.compileAll_shows presents filters nFilters cFilters).bind
        (fun kept => kept.filters)
      intro filters _
      apply (Lambda.compileGroupKey_shows presents groupKey nKey cKey).bind_holding
        (fun kept => kept.groupKey)
      rintro ⟨groupBy, scope⟩ presents
      apply (Lambda.compileAll_shows presents having nHaving cHaving).bind
        (fun kept => kept.having)
      intro having _
      apply (Order.compileAll_shows presents orderBy nOrder cOrder).bind
        (fun kept => kept.orderBy)
      intro sortKeys _
      have selected : Shows ([] ++ (groupBy.getD []).flatMap Term.tokens)
          (projection.elim (Join.keepsLast (Lambda.givesKey groupKey) joins)
            (Lambda.keepsLiterals (Lambda.givesKey groupKey)) = true) []
          (fun _ => True) Selection.tokens (Select.compileColumns scope projection joins) := by
        cases projection with
        | some function =>
            rw [Lambda.mentionsOption] at nProjection
            rw [Lambda.identifiersOption] at cProjection
            exact Lambda.compileSelection_shows presents function nProjection cProjection
        | none => exact Join.compileLast_shows presents joins nJoins cJoins
      apply selected.bind (fun kept => kept.columns)
      intro selection _
      apply Shows.same trivial
      intro token
      have tables : ∀ name ∈ table, Plain name := fun name present =>
        (named name present).plain word
      rw [Body.tokens_text tables joined]
      -- The columns are compiled last and written first.
      simp only [List.mem_append, List.append_assoc, List.nil_append]
      rw [or_comm]
      simp only [or_assoc]
termination_by structural node => node

theorem Query.compile_shows (resolver : Resolver) {path : String} (word : IsWord path) :
    ∀ query : Query, (∀ mention ∈ query.mentions, mention.Permitted Plain) →
      (∀ identifier ∈ query.identifiers resolver, Plain identifier) →
      CommandShows (query.keepsLiterals = true) (fun statement => tokens statement.text)
        (query.compile resolver path)
  | .table model, _, columns => by
      have plain : Plain (resolver.tableName model) := columns _ (.head _)
      rw [Query.compile]
      exact CommandShows.table (Statement.tokens_table plain)
  | .select node, names, columns => by
      rw [Query.mentions] at names
      rw [Query.identifiers] at columns
      rw [Query.compile, Query.keepsLiterals]
      have ofNode := (Select.compile_shows resolver word node names columns).imp
        Select.keeps_of_keepsLiterals
      exact ofNode.map fun body => rfl
  | .combine op first second, names, columns => by
      rw [Query.mentions, List.forall_mem_append] at names
      rw [Query.identifiers, List.forall_mem_append] at columns
      rw [Query.compile, Query.keepsLiterals, Bool.and_eq_true]
      exact CommandShows.combine
        (Query.compile_shows resolver (word.append (by decide : IsWord "so0_")) first names.1
          columns.1)
        (Query.compile_shows resolver (word.append (by decide : IsWord "so1_")) second names.2
          columns.2)
        (Statement.tokens_combine op)
termination_by structural query => query

theorem Query.compileSource_shows (resolver : Resolver) {path : String} (word : IsWord path) :
    ∀ query : Query, (∀ mention ∈ query.mentions, mention.Permitted Plain) →
      (∀ identifier ∈ query.identifiers resolver, Plain identifier) →
      CommandShows (query.keepsLiterals = true) Source.tokens (query.compileSource resolver path)
  | .table model, _, columns => by
      have plain : Plain (resolver.tableName model) := columns _ (.head _)
      rw [Query.compileSource]
      exact CommandShows.table (Source.tokens_table plain)
  | .select ⟨source, modelType, filters, having, projection, groupKey, groupElement, joins,
      orderBy, skip, take, distinct, stage⟩, names, columns => by
      rw [Query.mentions] at names
      rw [Query.identifiers] at columns
      have ofNode := (Select.compile_shows resolver word ⟨source, modelType, filters, having,
        projection, groupKey, groupElement, joins, orderBy, skip, take, distinct, stage⟩
        names columns).imp Select.keeps_of_keepsLiterals
      rw [Select.mentions] at names
      rw [Select.identifiers] at columns
      simp only [List.forall_mem_append] at names columns
      rw [Query.compileSource_select, Query.keepsLiterals]
      split
      · apply (Query.compileSource_shows resolver word source names.1.1.1.1.1.1.1
          columns.1.1.1.1.1.1).imp
        intro kept
        exact (Select.keeps_of_keepsLiterals kept).source
      · exact ofNode.map fun body => Source.tokens_derived (.select body)
  | .combine op first second, names, columns => by
      rw [Query.mentions, List.forall_mem_append] at names
      rw [Query.identifiers, List.forall_mem_append] at columns
      rw [Query.compileSource, Query.keepsLiterals, Bool.and_eq_true]
      have both : ∀ left right : Statement, Source.tokens (.derived (.combine op left right)) =
          tokens left.text ++ tokens right.text := by
        intro left right
        rw [Source.tokens_derived]
        exact Statement.tokens_combine op left right
      exact CommandShows.combine
        (Query.compile_shows resolver (word.append (by decide : IsWord "so0_")) first names.1
          columns.1)
        (Query.compile_shows resolver (word.append (by decide : IsWord "so1_")) second names.2
          columns.2)
        both
termination_by structural query => query

end

/-- If no name of a lambda parameter, a label or a field, and no identifier of a table or column
has an at sign, then each at sign of the text begins a bound name, as far as name characters
follow it. If also no literal is in a part that is not rendered, then each bound name occurs
so. -/
theorem Query.toCommand_placeholders (resolver : Resolver) {query : Query} {command : Command}
    (names : ∀ mention ∈ query.mentions, mention.Permitted Plain)
    (columns : ∀ identifier ∈ query.identifiers resolver, Plain identifier)
    (compiled : query.toCommand resolver = .ok command) :
    (∀ before after, command.text.toList = before ++ '@' :: after →
      String.ofList ('@' :: after.takeWhile isWord) ∈ command.parameters.names) ∧
    (query.keepsLiterals = true → ∀ name ∈ command.parameters.names, ∃ before after,
      command.text.toList = before ++ '@' :: after ∧
        name = String.ofList ('@' :: after.takeWhile isWord)) := by
  unfold Query.toCommand at compiled
  cases outcome : query.compile resolver "" 0 with
  | error error =>
      rw [outcome] at compiled
      cases compiled
  | ok reached =>
      obtain ⟨⟨statement, parameters⟩, nested'⟩ := reached
      rw [outcome] at compiled
      cases compiled
      have shows :=
        Query.compile_shows resolver (by decide : IsWord "") query names columns 0 _ _ _ outcome
      constructor
      · intro before after split
        exact shows.1 (mem_tokens.mpr ⟨before, after, split, rfl⟩)
      · intro kept name bound
        exact mem_tokens.mp (shows.2 kept bound)

/-- Each of two bound names occurs in the text, the second in a captured query. -/
theorem usersByLogin_placeholders :
    ∃ command, (usersByLogin (.int 7) (.string "x")).toCommand .identity = .ok command ∧
      command.parameters.names = ["@p0", "@sq1_p0"] ∧
      (∀ mention ∈ (usersByLogin (.int 7) (.string "x")).mentions, mention.Permitted Plain) ∧
      (∀ identifier ∈ (usersByLogin (.int 7) (.string "x")).identifiers .identity,
        Plain identifier) ∧
      ∃ before after, command.text.toList = before ++ '@' :: after ∧
        "@sq1_p0" = String.ofList ('@' :: after.takeWhile isWord) := by
  have names : ∀ mention ∈ (usersByLogin (.int 7) (.string "x")).mentions,
      mention.Permitted Plain := by decide
  have columns : ∀ identifier ∈ (usersByLogin (.int 7) (.string "x")).identifiers .identity,
      Plain identifier := by decide
  refine ⟨_, rfl, rfl, names, columns, ?_⟩
  exact (Query.toCommand_placeholders .identity names columns rfl).2 rfl "@sq1_p0" (by decide)

end TypedQuery
