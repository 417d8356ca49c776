/-
Module: TypedQuery.Proofs.TraceGrammar
Purpose: What a record of compilation looks like. Two small relations say which events
  compiling parts of a command, or a whole command, can leave and where it can end.
Main exports: PartTrace, CommandTrace, registrations, Follows, NodeFollows, CommandFollows
-/
import TypedQuery.Proofs.AliasNames
import TypedQuery.Proofs.Compilation
import TypedQuery.Proofs.ParameterMap
import TypedQuery.Proofs.Trace

namespace TypedQuery

namespace Sql

/-- Name of a command's placeholder, by position. -/
def placeholderName (path : String) (position : Nat) : String :=
  "@" ++ path ++ "p" ++ toString position

/-- Prefix of a nested command, by number. -/
def nestedPath (path : String) (number : Nat) : String :=
  path ++ "sq" ++ toString number ++ "_"

mutual

/-- What parts of one command leave, from a state on: values bound to the next
placeholder, aliases, and nested commands with the values taken over from them.
Without a final state the compilation failed. -/
inductive PartTrace (allowed : String → Prop) :
    String → Progress → List Event → Option Progress → Prop
  | done (path : String) (progress : Progress) :
      PartTrace allowed path progress [] (some progress)
  | failed (path : String) (progress : Progress) : PartTrace allowed path progress [] none
  | bound {path : String} {progress : Progress} {events : List Event} {final : Option Progress}
      (value : Value)
      (rest : PartTrace allowed path
        { progress with
          parameters := progress.parameters.insert
            (placeholderName path progress.parameters.size) value } events final) :
      PartTrace allowed path progress
        (.bound progress.parameters (placeholderName path progress.parameters.size) value ::
          events) final
  | aliased {path : String} {progress : Progress} {events : List Event} {final : Option Progress}
      {name : String} (permitted : allowed name)
      (rest : PartTrace allowed path progress events final) :
      PartTrace allowed path progress (.aliased path (path ++ name) :: events) final
  | nested {path : String} {progress : Progress} {events events' : List Event}
      {final : Option Progress} {parameters : Parameters} {number : Nat}
      (command : CommandTrace allowed (nestedPath path progress.nested) (progress.nested + 1)
        events (some (parameters, number)))
      (rest : PartTrace allowed path ⟨number, progress.parameters.merge parameters⟩
        events' final) :
      PartTrace allowed path progress
        (events ++ .merged progress.parameters parameters :: events') final
  | nestedFailed {path : String} {progress : Progress} {events : List Event}
      (command : CommandTrace allowed (nestedPath path progress.nested) (progress.nested + 1)
        events none) :
      PartTrace allowed path progress events none

/-- What a whole command leaves, from a count of nested commands on: its values and the
new count, unless it failed. -/
inductive CommandTrace (allowed : String → Prop) :
    String → Nat → List Event → Option (Parameters × Nat) → Prop
  | table (path : String) (number : Nat) :
      CommandTrace allowed path number [] (some (.empty, number))
  | select {path : String} {number : Nat} {events : List Event} {final : Option Progress}
      (parts : PartTrace allowed path ⟨number, .empty⟩ events final) :
      CommandTrace allowed path number (.opened path :: events)
        (final.map fun progress => (progress.parameters, progress.nested))
  | combine {path : String} {number number' number'' : Nat} {events events' : List Event}
      {parameters others : Parameters}
      (first : CommandTrace allowed (path ++ "so0_") number events (some (parameters, number')))
      (second : CommandTrace allowed (path ++ "so1_") number' events'
        (some (others, number''))) :
      CommandTrace allowed path number (events ++ events' ++ [.merged parameters others])
        (some (parameters.merge others, number''))
  | firstFailed {path : String} {number : Nat} {events : List Event}
      (first : CommandTrace allowed (path ++ "so0_") number events none) :
      CommandTrace allowed path number events none
  | secondFailed {path : String} {number number' : Nat} {events events' : List Event}
      {parameters : Parameters}
      (first : CommandTrace allowed (path ++ "so0_") number events (some (parameters, number')))
      (second : CommandTrace allowed (path ++ "so1_") number' events' none) :
      CommandTrace allowed path number (events ++ events') none

end

variable {allowed : String → Prop}

/-- Parts after parts. -/
theorem PartTrace.append {path : String} {progress progress' : Progress}
    {events events' : List Event} {middle final : Option Progress}
    (head : PartTrace allowed path progress events middle) (reached : middle = some progress')
    (rest : PartTrace allowed path progress' events' final) :
    PartTrace allowed path progress (events ++ events') final := by
  match head with
  | .done _ _ =>
      cases reached
      exact rest
  | .bound value head => exact .bound value (head.append reached rest)
  | .aliased permitted head => exact .aliased permitted (head.append reached rest)
  | .nested command head =>
      rw [List.append_assoc, List.cons_append]
      exact .nested command (head.append reached rest)

mutual

/-- The count of nested commands does not fall. -/
theorem PartTrace.nested_le {path : String} {progress progress' : Progress}
    {events : List Event} {final : Option Progress}
    (parts : PartTrace allowed path progress events final) (reached : final = some progress') :
    progress.nested ≤ progress'.nested := by
  match parts with
  | .done _ _ =>
      cases reached
      exact Nat.le_refl _
  | .bound value rest => exact rest.nested_le reached
  | .aliased permitted rest => exact rest.nested_le reached
  | .nested command rest =>
      have inner := command.nested_le rfl
      have outer := rest.nested_le reached
      exact Nat.le_of_lt (Nat.lt_of_lt_of_le inner outer)

theorem CommandTrace.nested_le {path : String} {nested nested' : Nat} {events : List Event}
    {result : Option (Parameters × Nat)} {parameters : Parameters}
    (command : CommandTrace allowed path nested events result)
    (reached : result = some (parameters, nested')) : nested ≤ nested' := by
  match command with
  | .table _ _ =>
      cases reached
      exact Nat.le_refl _
  | .select parts =>
      obtain ⟨progress, ended, same⟩ := Option.map_eq_some_iff.mp reached
      cases same
      exact parts.nested_le ended
  | .combine first second =>
      have both := Nat.le_trans (first.nested_le rfl) (second.nested_le rfl)
      cases reached
      exact both

end

/-! ### Registrations -/

namespace Event

/-- What the event binds. -/
def registration? : Event → Option (String × Value)
  | .bound _ name value => some (name, value)
  | .opened _ | .aliased _ _ | .merged _ _ => none

end Event

/-- The names and values that were bound, one by one, in the order of binding. -/
def registrations (events : List Event) : List (String × Value) :=
  events.filterMap Event.registration?

@[simp]
theorem registrations_append (events events' : List Event) :
    registrations (events ++ events') = registrations events ++ registrations events' :=
  List.filterMap_append

@[simp]
theorem registrations_nil : registrations [] = [] := rfl

@[simp]
theorem registrations_opened (path : String) (events : List Event) :
    registrations (.opened path :: events) = registrations events := rfl

@[simp]
theorem registrations_aliased (path table : String) (events : List Event) :
    registrations (.aliased path table :: events) = registrations events := rfl

@[simp]
theorem registrations_bound (held : Parameters) (name : String) (value : Value)
    (events : List Event) :
    registrations (.bound held name value :: events) = (name, value) :: registrations events :=
  rfl

@[simp]
theorem registrations_merged (held other : Parameters) (events : List Event) :
    registrations (.merged held other :: events) = registrations events := rfl

mutual

/-- Names come from what was held before and from the registrations. -/
theorem PartTrace.names_of_registrations {path : String} {progress progress' : Progress}
    {events : List Event} {final : Option Progress}
    (parts : PartTrace allowed path progress events final) (reached : final = some progress') :
    ∀ name, name ∈ progress'.parameters.names ↔
      name ∈ progress.parameters.names ∨ name ∈ (registrations events).map Prod.fst := by
  intro name
  match parts with
  | .done _ _ =>
      cases reached
      simp
  | .bound value rest =>
      have inner := rest.names_of_registrations reached name
      rw [inner, Parameters.mem_names_insert, registrations_bound, List.map_cons, List.mem_cons,
        or_assoc]
  | .aliased permitted rest => exact rest.names_of_registrations reached name
  | .nested command rest =>
      have inner := command.names_of_registrations rfl name
      have outer := rest.names_of_registrations reached name
      rw [outer, Parameters.mem_names_merge, inner, registrations_append, registrations_merged,
        List.map_append, List.mem_append, or_assoc]

/-- A command hands over what was registered. -/
theorem CommandTrace.names_of_registrations {path : String} {nested nested' : Nat}
    {events : List Event} {result : Option (Parameters × Nat)} {parameters : Parameters}
    (command : CommandTrace allowed path nested events result)
    (reached : result = some (parameters, nested')) :
    ∀ name, name ∈ parameters.names ↔ name ∈ (registrations events).map Prod.fst := by
  intro name
  match command with
  | .table _ _ =>
      cases reached
      simp [Parameters.empty, Parameters.names]
  | .select parts =>
      obtain ⟨progress, ended, same⟩ := Option.map_eq_some_iff.mp reached
      have inner := parts.names_of_registrations ended name
      cases same
      rw [inner, registrations_opened]
      simp [Parameters.empty, Parameters.names]
  | .combine first second =>
      have ofFirst := first.names_of_registrations rfl name
      have ofSecond := second.names_of_registrations rfl name
      cases reached
      rw [Parameters.mem_names_merge, ofFirst, ofSecond]
      simp

end

/-! ### Following a compilation -/

/-- How the traced parts of a command end: as the compiled ones do, leaving what parts
may leave. If they succeed then with a result of a kind, and the values bound on the
way are the given ones. -/
inductive PartEnd (allowed : String → Prop) (path : String) (values : List Value)
    (progress : Progress) {α : Type} (kind : α → Prop) :
    Trace (α × Progress) → Except Error (α × Progress) → Prop
  | ok {events : List Event} {result : α} {progress' : Progress}
      (left : PartTrace allowed path progress events (some progress'))
      (written : (registrations events).map Prod.snd = values) (isKind : kind result) :
      PartEnd allowed path values progress kind ⟨events, .ok (result, progress')⟩
        (.ok (result, progress'))
  | error {events : List Event} {error : Error}
      (left : PartTrace allowed path progress events none) :
      PartEnd allowed path values progress kind ⟨events, .error error⟩ (.error error)

/-- How a traced command ends: as the compiled one does, leaving what a command may
leave, with the given values bound if it succeeds. -/
inductive CommandEnd (allowed : String → Prop) (path : String) (values : List Value)
    (nested : Nat) {α : Type} :
    Trace ((α × Parameters) × Nat) → Except Error ((α × Parameters) × Nat) → Prop
  | ok {events : List Event} {result : α} {parameters : Parameters} {nested' : Nat}
      (left : CommandTrace allowed path nested events (some (parameters, nested')))
      (written : (registrations events).map Prod.snd = values) :
      CommandEnd allowed path values nested ⟨events, .ok ((result, parameters), nested')⟩
        (.ok ((result, parameters), nested'))
  | error {events : List Event} {error : Error}
      (left : CommandTrace allowed path nested events none) :
      CommandEnd allowed path values nested ⟨events, .error error⟩ (.error error)

namespace CommandEnd

variable {path : String} {values : List Value} {nested : Nat} {α : Type}
  {trace : Trace ((α × Parameters) × Nat)} {outcome : Except Error ((α × Parameters) × Nat)}

theorem outcome_eq (ended : CommandEnd allowed path values nested trace outcome) :
    trace.outcome = outcome := by
  cases ended with
  | ok left written => rfl
  | error left => rfl

/-- Whatever the end, there is a record. -/
theorem exists_left (ended : CommandEnd allowed path values nested trace outcome) :
    ∃ result, CommandTrace allowed path nested trace.events result := by
  cases ended with
  | ok left written => exact ⟨_, left⟩
  | error left => exact ⟨_, left⟩

/-- The record of a success. -/
theorem of_ok {result : α} {parameters : Parameters} {nested' : Nat}
    (ended : CommandEnd allowed path values nested trace outcome)
    (done : outcome = .ok ((result, parameters), nested')) :
    CommandTrace allowed path nested trace.events (some (parameters, nested')) ∧
      (registrations trace.events).map Prod.snd = values := by
  cases ended with
  | ok left written =>
      cases done
      exact ⟨left, written⟩
  | error left => cases done

end CommandEnd

/-- The traced parts follow the compiled ones from every state on. -/
def Follows (allowed : String → Prop) (path : String) (values : List Value) {α : Type}
    (kind : α → Prop) (traced : Traced Progress α) (compiled : Compile α) : Prop :=
  ∀ progress, PartEnd allowed path values progress kind (traced progress) (compiled progress)

/-- The traced command follows the compiled one from every count on. -/
def CommandFollows (allowed : String → Prop) (path : String) (values : List Value) {α : Type}
    (traced : Traced Nat (α × Parameters)) (compiled : Nested (α × Parameters)) : Prop :=
  ∀ nested, CommandEnd allowed path values nested (traced nested) (compiled nested)

/-- A traced select node is begun, and its parts follow the compiled ones. -/
def NodeFollows (allowed : String → Prop) (path : String) (values : List Value) {α : Type}
    (traced : Traced Nat (α × Parameters)) (compiled : Nested (α × Parameters)) : Prop :=
  ∃ parts compiledParts, traced = .openNode path parts ∧
    compiled = Compile.toNested compiledParts ∧
    Follows allowed path values (fun _ => True) parts compiledParts

namespace Follows

variable {path : String} {values values' : List Value} {α β : Type} {kind : α → Prop}
  {kind' : β → Prop}

theorem pure {result : α} (isKind : kind result) :
    Follows allowed path [] kind (pure result) (pure result) :=
  fun progress => .ok (.done path progress) rfl isKind

/-- A failure binds nothing, so that any values may be said to be bound on success. -/
theorem throw (error : Error) :
    Follows allowed path values kind (.silent (throw error)) (throw error) :=
  fun progress => .error (.failed path progress)

theorem still {step : Compile α} (still : Compile.Still step) :
    Follows allowed path [] (fun _ => True) (.silent step) step := by
  cases still with
  | pure result => exact .pure trivial
  | unsupported fragment => exact .throw (.unsupported fragment)

theorem bind {traced : Traced Progress α} {compiled : Compile α}
    {tracedNext : α → Traced Progress β} {next : α → Compile β}
    (head : Follows allowed path values kind traced compiled)
    (tail : ∀ result, kind result →
      Follows allowed path values' kind' (tracedNext result) (next result)) :
    Follows allowed path (values ++ values') kind' (traced >>= tracedNext)
      (compiled >>= next) := by
  intro progress
  have first := head progress
  change PartEnd allowed path (values ++ values') progress kind'
    (Traced.bind traced tracedNext progress)
    (compiled progress >>= fun reached => next reached.1 reached.2)
  unfold Traced.bind
  generalize traced progress = trace at first ⊢
  generalize compiled progress = outcome at first ⊢
  cases first with
  | error left => exact .error left
  | ok left written isKind =>
      rename_i events result progress'
      have rest := tail result isKind progress'
      change PartEnd allowed path (values ++ values') progress kind' _ (next result progress')
      dsimp only
      generalize tracedNext result progress' = trace' at rest ⊢
      generalize next result progress' = outcome' at rest ⊢
      cases rest with
      | error left' => exact .error (left.append rfl left')
      | ok left' written' isKind' =>
          refine .ok (left.append rfl left') ?_ isKind'
          rw [registrations_append, List.map_append, written, written']

/-- A last step that binds nothing. -/
theorem bind_still {traced : Traced Progress α} {compiled : Compile α}
    {tracedNext : α → Traced Progress β} {next : α → Compile β}
    (head : Follows allowed path values kind traced compiled)
    (tail : ∀ result, kind result →
      Follows allowed path [] kind' (tracedNext result) (next result)) :
    Follows allowed path values kind' (traced >>= tracedNext) (compiled >>= next) := by
  have both := head.bind tail
  rwa [List.append_nil] at both

/-- A value goes to the placeholder that is next in the command's prefix. -/
theorem bindValue {scope : Scope} (under : scope.path = path) (value : Value) :
    Follows allowed path [value] (fun _ => True) (.bindValue scope value)
      (Compile.bindValue scope value) := by
  subst under
  exact fun progress => .ok (.bound value (.done _ _)) rfl trivial

/-- A nested command goes under the next prefix. -/
theorem nest {scope : Scope} (under : scope.path = path)
    {traced : String → Traced Nat (α × Parameters)} {compiled : String → Nested (α × Parameters)}
    (command : ∀ path, CommandFollows allowed path values (traced path) (compiled path)) :
    Follows allowed path values (fun _ => True) (.nest scope traced)
      (do let path ← Compile.nextPath scope
          Compile.embed (compiled path)) := by
  subst under
  intro progress
  have inner := command (nestedPath scope.path progress.nested) (progress.nested + 1)
  change PartEnd _ _ _ _ _ (Traced.nest scope traced progress)
    (Compile.embed (compiled (nestedPath scope.path progress.nested))
      { progress with nested := progress.nested + 1 })
  unfold Traced.nest Compile.embed
  dsimp only [nestedPath] at inner ⊢
  generalize traced _ _ = trace at inner ⊢
  generalize compiled _ _ = outcome at inner ⊢
  cases inner with
  | error left => exact .error (.nestedFailed left)
  | ok left written =>
      refine .ok (.nested left (.done _ _)) ?_ trivial
      rw [registrations_append, registrations_merged, registrations_nil, List.append_nil, written]

/-- A nested command, then what is made of it. -/
theorem nest_bind {scope : Scope} (under : scope.path = path)
    {traced : String → Traced Nat (α × Parameters)} {compiled : String → Nested (α × Parameters)}
    {tracedNext : α → Traced Progress β} {next : α → Compile β}
    (command : ∀ path, CommandFollows allowed path values (traced path) (compiled path))
    (tail : ∀ result, Follows allowed path values' kind' (tracedNext result) (next result)) :
    Follows allowed path (values ++ values') kind' (Traced.nest scope traced >>= tracedNext)
      (do let path ← Compile.nextPath scope
          let result ← Compile.embed (compiled path)
          next result) := by
  have both := (nest under command).bind fun result _ => tail result
  rwa [bind_assoc] at both

/-- The first source of a node gets its alias. -/
theorem bindSource {node : Select}
    (mentions : ∀ mention ∈ node.mentions, mention.Permitted allowed) :
    Follows allowed path [] (fun bound => Aliases.Named allowed path bound.2)
      (.bindSource path node) (liftM (Aliases.bindSource path node)) := by
  intro progress
  unfold Traced.bindSource
  cases bound : Aliases.bindSource path node with
  | error error => exact .error (.failed path progress)
  | ok found =>
      obtain ⟨table, aliases⟩ := found
      obtain ⟨known, named⟩ := Aliases.bindSource_named mentions bound
      cases table with
      | none => exact .ok (.done path progress) rfl known
      | some table =>
          obtain ⟨name, permitted, rfl⟩ := named table rfl
          exact .ok (.aliased permitted (.done path progress)) rfl known

/-- A joined source gets its alias. -/
theorem bindJoin {scope : Scope} (under : scope.path = path)
    (known : Aliases.Named allowed path scope.aliases) {join : Join}
    (mentions : ∀ mention ∈ join.result.mentions, mention.Permitted allowed) :
    Follows allowed path []
      (fun bound => Aliases.Named allowed path bound.2 ∧ Aliases.IsNamed allowed path bound.1)
      (.bindJoin scope join) (liftM (scope.aliases.bindJoin join)) := by
  subst under
  intro progress
  unfold Traced.bindJoin
  cases bound : scope.aliases.bindJoin join with
  | error error => exact .error (.failed _ progress)
  | ok found =>
      obtain ⟨table, aliases⟩ := found
      have both := Aliases.bindJoin_named known mentions bound
      refine .ok ?_ rfl both
      obtain ⟨name, permitted, rfl⟩ := both.2
      exact .aliased permitted (.done _ progress)

end Follows

namespace CommandFollows

variable {path : String} {values values' : List Value} {α β : Type}

theorem table (result : α) :
    CommandFollows allowed path [] (pure (result, .empty)) (pure (result, .empty)) :=
  fun nested => .ok (.table path nested) rfl

/-- A select node is begun, then its parts are compiled from no values on. -/
theorem openNode {kind : α → Prop} {traced : Traced Progress α} {compiled : Compile α}
    (parts : Follows allowed path values kind traced compiled) :
    CommandFollows allowed path values (.openNode path traced) (Compile.toNested compiled) := by
  intro nested
  have inner := parts ⟨nested, .empty⟩
  unfold Traced.openNode Compile.toNested
  dsimp only
  generalize traced _ = trace at inner ⊢
  generalize compiled _ = outcome at inner ⊢
  cases inner with
  | error left => exact .error (.select left)
  | ok left written isKind => exact .ok (.select left) written

/-- A select node follows when its parts do. -/
theorem ofNode {traced : Traced Nat (α × Parameters)} {compiled : Nested (α × Parameters)}
    (node : NodeFollows allowed path values traced compiled) :
    CommandFollows allowed path values traced compiled := by
  obtain ⟨parts, compiledParts, rfl, rfl, follows⟩ := node
  exact openNode follows

/-- What is made of a command's result leaves no trace. -/
theorem map {traced : Traced Nat (α × Parameters)} {compiled : Nested (α × Parameters)}
    (command : CommandFollows allowed path values traced compiled) (change : α → β) :
    CommandFollows allowed path values
      (do let (result, parameters) ← traced
          return (change result, parameters))
      (do let (result, parameters) ← compiled
          return (change result, parameters)) := by
  intro nested
  have inner := command nested
  change CommandEnd _ _ _ _ (Traced.bind traced _ nested)
    (compiled nested >>= fun reached => .ok ((change reached.1.1, reached.1.2), reached.2))
  unfold Traced.bind
  generalize traced nested = trace at inner ⊢
  generalize compiled nested = outcome at inner ⊢
  cases inner with
  | error left => exact .error left
  | ok left written =>
      rename_i events result parameters nested'
      change CommandEnd _ _ _ _ ⟨events ++ [], .ok ((change result, parameters), nested')⟩
        (.ok ((change result, parameters), nested'))
      rw [List.append_nil]
      exact .ok left written

/-- A set operation: the operands under prefixes of their own, then the values of the
second are taken over. -/
theorem combine {first second : Traced Nat (α × Parameters)}
    {compiled compiled' : Nested (α × Parameters)}
    (firsts : CommandFollows allowed (path ++ "so0_") values first compiled)
    (seconds : CommandFollows allowed (path ++ "so1_") values' second compiled')
    (join : α → α → β) :
    CommandFollows allowed path (values ++ values')
      (do let (first, parameters) ← first
          let (second, others) ← second
          let parameters ← Traced.mergeOperands parameters others
          return (join first second, parameters))
      (do let (first, parameters) ← compiled
          let (second, others) ← compiled'
          return (join first second, parameters.merge others)) := by
  intro nested
  have inner := firsts nested
  change CommandEnd _ _ _ _ (Traced.bind first _ nested)
    (compiled nested >>= fun reached => compiled' reached.2 >>= fun reached' =>
      .ok ((join reached.1.1 reached'.1.1, reached.1.2.merge reached'.1.2), reached'.2))
  unfold Traced.bind
  generalize first nested = trace at inner ⊢
  generalize compiled nested = outcome at inner ⊢
  cases inner with
  | error left => exact .error (.firstFailed left)
  | ok left written =>
      rename_i events result parameters nested'
      have inner' := seconds nested'
      change CommandEnd _ _ _ _
        ⟨events ++ (Traced.bind second _ nested').events, (Traced.bind second _ nested').outcome⟩
        (compiled' nested' >>= fun reached' =>
          .ok ((join result reached'.1.1, parameters.merge reached'.1.2), reached'.2))
      unfold Traced.bind
      generalize second nested' = trace' at inner' ⊢
      generalize compiled' nested' = outcome' at inner' ⊢
      cases inner' with
      | error left' => exact .error (.secondFailed left left')
      | ok left' written' =>
          rename_i events' result' others nested''
          change CommandEnd _ _ _ _
            ⟨events ++ (events' ++ ([.merged parameters others] ++ [])),
              .ok ((join result result', parameters.merge others), nested'')⟩
            (.ok ((join result result', parameters.merge others), nested''))
          rw [List.append_nil, ← List.append_assoc]
          refine .ok (.combine left left') ?_
          rw [registrations_append, registrations_append, registrations_merged,
            registrations_nil, List.append_nil, List.map_append, written, written']

end CommandFollows

end Sql

end TypedQuery
