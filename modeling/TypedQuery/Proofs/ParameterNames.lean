/-
Module: TypedQuery.Proofs.ParameterNames
Purpose: No bound value is lost. A command names its own values by position and keeps
  those of nested commands under their prefixes, so that every name is new when it is
  bound and the names taken over from a nested command are not there yet.
Main exports: Event.Fresh, Owned, PartTrace.registers, CommandTrace.registers,
  Query.entries_eq_registrations
-/
import TypedQuery.Proofs.ParameterMap
import TypedQuery.Proofs.PathSegments
import TypedQuery.Proofs.TraceAgreement

namespace TypedQuery

namespace Sql

/-- Nothing is overwritten: a value is bound to a new name, and the values taken over
have names that are not there yet. -/
def Event.Fresh : Event → Prop
  | .bound held name _ => name ∉ held.names
  | .merged held other => ∀ name ∈ other.names, name ∉ held.names
  | .opened _ | .aliased _ _ => True

/-- Whose name a command keeps: a placeholder of its own, or one of a nested command. -/
inductive NameOrigin (path : String) (nested position : Nat) : String → Prop
  | own : NameOrigin path nested position (placeholderName path position)
  | nested (number : Nat) (earlier : number < nested) (rest : String) :
      NameOrigin path nested position ("@" ++ nestedPath path number ++ rest)

/-- The names of a command's values, at any point of its compilation. -/
structure Owned (path : String) (progress : Progress) : Prop where
  distinct : progress.parameters.names.Nodup
  origin : ∀ position name, progress.parameters.names[position]? = some name →
    NameOrigin path progress.nested position name

/-! ### Names apart -/

theorem placeholderName_injective {path : String} {position position' : Nat}
    (same : placeholderName path position = placeholderName path position') :
    position = position' := by
  simp only [placeholderName, String.append_assoc, String.append_right_inj] at same
  exact toString_injective same

theorem placeholderName_ne_nested (path : String) (position number : Nat) (rest : String) :
    placeholderName path position ≠ "@" ++ nestedPath path number ++ rest := by
  intro same
  simp only [placeholderName, nestedPath_eq, String.append_assoc, String.append_right_inj] at same
  exact Segment.text_append_ne_position _ _ _ same.symm

theorem nestedPath_append_inj {path rest rest' : String} {number number' : Nat}
    (same : "@" ++ nestedPath path number ++ rest = "@" ++ nestedPath path number' ++ rest') :
    number = number' := by
  simp only [nestedPath_eq, String.append_assoc, String.append_right_inj] at same
  exact Segment.nested.inj (Segment.text_append_inj same).1

/-- The sides of a set operation have no name in common. -/
theorem sides_append_ne (path rest rest' : String) :
    "@" ++ (path ++ "so0_") ++ rest ≠ "@" ++ (path ++ "so1_") ++ rest' := by
  intro same
  simp only [String.append_assoc, String.append_right_inj] at same
  have sides : Segment.first.text ++ rest = Segment.second.text ++ rest' := same
  cases (Segment.text_append_inj sides).1

/-! ### Single steps -/

namespace Owned

variable {path : String} {progress : Progress}

theorem start (path : String) (nested : Nat) : Owned path ⟨nested, .empty⟩ where
  distinct := List.nodup_nil
  origin := by simp [Parameters.empty, Parameters.names]

/-- The next placeholder is not there yet. -/
theorem placeholder_fresh (owned : Owned path progress) :
    placeholderName path progress.parameters.size ∉ progress.parameters.names := by
  intro present
  obtain ⟨position, found⟩ := List.mem_iff_getElem?.mp present
  have bound : position < progress.parameters.size := by
    rw [Parameters.size_eq_length_names]
    exact (List.getElem?_eq_some_iff.mp found).1
  have origin := owned.origin position _ found
  generalize same : placeholderName path progress.parameters.size = name at origin
  cases origin with
  | own => exact Nat.ne_of_gt bound (placeholderName_injective same)
  | nested number earlier rest => exact placeholderName_ne_nested _ _ _ _ same

/-- What the next nested command binds is not there yet. -/
theorem nested_fresh (owned : Owned path progress) {other : Parameters}
    (under : ∀ name ∈ other.names, ∃ rest,
      name = "@" ++ nestedPath path progress.nested ++ rest) :
    ∀ name ∈ other.names, name ∉ progress.parameters.names := by
  intro name taken present
  obtain ⟨rest, same⟩ := under name taken
  obtain ⟨position, found⟩ := List.mem_iff_getElem?.mp present
  cases owned.origin position _ found with
  | own => exact placeholderName_ne_nested _ _ _ _ same
  | nested number earlier rest => exact Nat.ne_of_lt earlier (nestedPath_append_inj same)

/-- Owned names stay so when more nested commands are counted. -/
theorem origin_mono {nested nested' position : Nat} {name : String}
    (later : nested ≤ nested') (origin : NameOrigin path nested position name) :
    NameOrigin path nested' position name := by
  cases origin with
  | own => exact .own
  | nested number earlier rest => exact .nested number (Nat.lt_of_lt_of_le earlier later) rest

/-- Binding a value to the next placeholder. -/
theorem bound (owned : Owned path progress) (value : Value) :
    Owned path ⟨progress.nested, progress.parameters.insert
      (placeholderName path progress.parameters.size) value⟩ := by
  have names := Parameters.names_insert_of_fresh owned.placeholder_fresh value
  constructor
  · rw [names, List.nodup_append]
    refine ⟨owned.distinct, by simp, ?_⟩
    rintro name present _ isNew rfl
    rw [List.mem_singleton.mp isNew] at present
    exact owned.placeholder_fresh present
  · intro position name found
    rw [names] at found
    by_cases old : position < progress.parameters.names.length
    · rw [List.getElem?_append_left old] at found
      exact owned.origin position name found
    · rw [List.getElem?_append_right (Nat.le_of_not_lt old), List.getElem?_singleton] at found
      obtain ⟨isLast, isNew⟩ := Option.ite_none_right_eq_some.mp found
      obtain rfl := Option.some.inj isNew
      have position_eq : position = progress.parameters.size := by
        rw [Parameters.size_eq_length_names]
        omega
      rw [position_eq]
      exact .own

/-- Taking over the values of the next nested command. -/
theorem merged (owned : Owned path progress) {other : Parameters} {number : Nat}
    (distinct : other.names.Nodup)
    (under : ∀ name ∈ other.names, ∃ rest,
      name = "@" ++ nestedPath path progress.nested ++ rest)
    (counted : progress.nested < number) :
    Owned path ⟨number, progress.parameters.merge other⟩ := by
  have fresh := owned.nested_fresh under
  have names := Parameters.names_merge_of_disjoint distinct fresh
  constructor
  · rw [names, List.nodup_append]
    refine ⟨owned.distinct, distinct, ?_⟩
    rintro name present _ taken rfl
    exact fresh name taken present
  · intro position name found
    rw [names] at found
    by_cases old : position < progress.parameters.names.length
    · rw [List.getElem?_append_left old] at found
      exact origin_mono (Nat.le_of_lt counted) (owned.origin position name found)
    · rw [List.getElem?_append_right (Nat.le_of_not_lt old)] at found
      obtain ⟨rest, rfl⟩ := under name (List.mem_of_getElem? found)
      exact .nested _ counted rest

/-- All names of a command begin with its prefix. -/
theorem under (owned : Owned path progress) :
    ∀ name ∈ progress.parameters.names, ∃ rest, name = "@" ++ path ++ rest := by
  intro name present
  obtain ⟨position, found⟩ := List.mem_iff_getElem?.mp present
  cases owned.origin position name found with
  | own => exact ⟨"p" ++ toString position, by rw [placeholderName, String.append_assoc]⟩
  | nested number earlier rest =>
      refine ⟨(Segment.nested number).text ++ rest, ?_⟩
      simp only [nestedPath_eq, String.append_assoc]

end Owned

/-! ### Whole runs -/

/-- What a command hands over when it succeeds: distinct names under its prefix, bound to
the registered values. -/
structure Registered (path : String) (events : List Event) (parameters : Parameters) :
    Prop where
  distinct : parameters.names.Nodup
  under : ∀ name ∈ parameters.names, ∃ rest, name = "@" ++ path ++ rest
  entries_eq : parameters.entries = registrations events

/-- The operands of a set operation have no name in common. -/
theorem Registered.disjoint {path : String} {events events' : List Event}
    {parameters others : Parameters} (first : Registered (path ++ "so0_") events parameters)
    (second : Registered (path ++ "so1_") events' others) :
    ∀ name ∈ others.names, name ∉ parameters.names := by
  intro name inSecond inFirst
  obtain ⟨rest, ofFirst⟩ := first.under name inFirst
  obtain ⟨rest', ofSecond⟩ := second.under name inSecond
  exact sides_append_ne path rest rest' (ofFirst.symm.trans ofSecond)

/-- The operands of a set operation, one after the other. -/
theorem Registered.merge {path : String} {events events' : List Event}
    {parameters others : Parameters} (first : Registered (path ++ "so0_") events parameters)
    (second : Registered (path ++ "so1_") events' others) :
    Registered path (events ++ events' ++ [.merged parameters others])
      (parameters.merge others) := by
  have disjoint := first.disjoint second
  have names := Parameters.names_merge_of_disjoint second.distinct disjoint
  constructor
  · rw [names, List.nodup_append]
    refine ⟨first.distinct, second.distinct, ?_⟩
    rintro name inFirst _ inSecond rfl
    exact disjoint name inSecond inFirst
  · intro name present
    rw [names, List.mem_append] at present
    rcases present with present | present
    · obtain ⟨rest, rfl⟩ := first.under name present
      exact ⟨"so0_" ++ rest, by simp only [String.append_assoc]⟩
    · obtain ⟨rest, rfl⟩ := second.under name present
      exact ⟨"so1_" ++ rest, by simp only [String.append_assoc]⟩
  · rw [Parameters.entries_merge_of_disjoint second.distinct disjoint, first.entries_eq,
      second.entries_eq]
    simp

/-- What parts of a command leave behind when they succeed. -/
structure Extended (path : String) (progress : Progress) (events : List Event)
    (progress' : Progress) : Prop where
  owned : Owned path progress'
  entries_eq : progress'.parameters.entries =
    progress.parameters.entries ++ registrations events

variable {allowed : String → Prop}

mutual

/-- Parts of a command bind new names and nothing else. -/
theorem PartTrace.registers {path : String} {progress : Progress} {events : List Event}
    {final : Option Progress} (parts : PartTrace allowed path progress events final)
    (owned : Owned path progress) :
    (∀ event ∈ events, event.Fresh) ∧
      ∀ progress', final = some progress' → Extended path progress events progress' := by
  match parts with
  | .done _ _ =>
      refine ⟨by simp, ?_⟩
      rintro _ ⟨⟩
      exact ⟨owned, by simp⟩
  | .failed _ _ => exact ⟨by simp, by simp⟩
  | .bound value rest =>
      obtain ⟨fresh, extended⟩ := rest.registers (owned.bound value)
      refine ⟨List.forall_mem_cons.mpr ⟨owned.placeholder_fresh, fresh⟩, ?_⟩
      intro progress' reached
      obtain ⟨owned', entries⟩ := extended progress' reached
      refine ⟨owned', ?_⟩
      rw [entries, Parameters.entries_insert_of_fresh owned.placeholder_fresh,
        registrations_bound, List.append_assoc, List.singleton_append]
  | .aliased permitted rest =>
      obtain ⟨fresh, extended⟩ := rest.registers owned
      refine ⟨List.forall_mem_cons.mpr ⟨trivial, fresh⟩, ?_⟩
      intro progress' reached
      obtain ⟨owned', entries⟩ := extended progress' reached
      exact ⟨owned', by rw [entries, registrations_aliased]⟩
  | .nested command rest =>
      obtain ⟨innerFresh, inner⟩ := command.registers
      have registered := inner _ _ rfl
      have disjoint := owned.nested_fresh registered.under
      obtain ⟨fresh, extended⟩ :=
        rest.registers (owned.merged registered.distinct registered.under (command.nested_le rfl))
      refine ⟨List.forall_mem_append.mpr
        ⟨innerFresh, List.forall_mem_cons.mpr ⟨disjoint, fresh⟩⟩, ?_⟩
      intro progress' reached
      obtain ⟨owned', entries⟩ := extended progress' reached
      refine ⟨owned', ?_⟩
      rw [entries, Parameters.entries_merge_of_disjoint registered.distinct disjoint,
        registered.entries_eq, registrations_append, registrations_merged, List.append_assoc]
  | .nestedFailed command => exact ⟨command.registers.1, by simp⟩

/-- A command binds new names under its prefix and hands over all of them. -/
theorem CommandTrace.registers {path : String} {nested : Nat} {events : List Event}
    {result : Option (Parameters × Nat)}
    (command : CommandTrace allowed path nested events result) :
    (∀ event ∈ events, event.Fresh) ∧
      ∀ parameters nested', result = some (parameters, nested') →
        Registered path events parameters := by
  match command with
  | .table _ _ =>
      refine ⟨by simp, ?_⟩
      rintro _ _ ⟨⟩
      exact ⟨List.nodup_nil, by simp [Parameters.empty, Parameters.names], rfl⟩
  | .select parts =>
      obtain ⟨fresh, extended⟩ := parts.registers (.start path nested)
      refine ⟨List.forall_mem_cons.mpr ⟨trivial, fresh⟩, ?_⟩
      intro parameters nested' handed
      obtain ⟨progress', reached, same⟩ := Option.map_eq_some_iff.mp handed
      cases same
      obtain ⟨owned, entries⟩ := extended progress' reached
      exact ⟨owned.distinct, owned.under, entries⟩
  | .combine first second =>
      obtain ⟨firstFresh, ofFirst⟩ := first.registers
      obtain ⟨secondFresh, ofSecond⟩ := second.registers
      have left := ofFirst _ _ rfl
      have right := ofSecond _ _ rfl
      have disjoint := left.disjoint right
      refine ⟨?_, ?_⟩
      · simp only [List.forall_mem_append, List.forall_mem_singleton]
        exact ⟨⟨firstFresh, secondFresh⟩, disjoint⟩
      · rintro _ _ ⟨⟩
        exact left.merge right
  | .firstFailed first => exact ⟨first.registers.1, by simp⟩
  | .secondFailed first second =>
      exact ⟨List.forall_mem_append.mpr ⟨first.registers.1, second.registers.1⟩, by simp⟩

end

end Sql

open Sql Sql.Compile

/-! ### Queries -/

/-- Where the names of a select node's values come from. -/
theorem Select.compile_origin {resolver : Resolver} {path : String} {nested nested' : Nat}
    {node : Select} {body : Body} {parameters : Parameters}
    (compiled : node.compile resolver path nested = .ok ((body, parameters), nested')) :
    ∀ position name, parameters.names[position]? = some name →
      NameOrigin path nested' position name := by
  obtain ⟨parts, compiledParts, -, form, follows⟩ := Select.traced_follows resolver path
    node fun mention _ => mention.permitted_of_all
  have ended := follows ⟨nested, .empty⟩
  rw [form, toNested] at compiled
  generalize parts ⟨nested, .empty⟩ = trace at ended
  generalize compiledParts ⟨nested, .empty⟩ = outcome at ended compiled
  cases ended with
  | error left => cases compiled
  | ok left written isKind =>
      cases compiled
      exact ((left.registers (.start path nested)).2 _ rfl).owned.origin

/-- No bound value is lost or overwritten. Every value is bound to a new name and every
merge is of disjoint names, also on the way to a failure. On success the entries are
the registrations one by one, their values are the query's literals in the order of
the clauses, and their names are distinct; in a select node the value at a position
has the placeholder of the position, or comes from a nested command. -/
theorem Query.entries_eq_registrations (resolver : Resolver) (path : String) (nested : Nat)
    (query : Query) :
    (query.traced resolver path nested).outcome = query.compile resolver path nested ∧
      (∀ event ∈ (query.traced resolver path nested).events, event.Fresh) ∧
      ∀ statement parameters nested',
        query.compile resolver path nested = .ok ((statement, parameters), nested') →
          parameters.entries = registrations (query.traced resolver path nested).events ∧
          parameters.entries.map Prod.snd = query.literals ∧
          parameters.names.Nodup ∧
          ∀ node, query = .select node → ∀ (position : Nat) (name : String),
            parameters.names[position]? = some name →
              name = "@" ++ path ++ "p" ++ toString position ∨
              ∃ rest, name = "@" ++ path ++ "sq" ++ rest := by
  have ended := Query.traced_follows resolver path query
    (fun mention _ => mention.permitted_of_all) nested
  obtain ⟨result, left⟩ := ended.exists_left
  refine ⟨ended.outcome_eq, left.registers.1, ?_⟩
  intro statement parameters nested' compiled
  obtain ⟨left, written⟩ := ended.of_ok compiled
  have registered := left.registers.2 parameters nested' rfl
  refine ⟨registered.entries_eq, ?_, registered.distinct, ?_⟩
  · rw [registered.entries_eq, written]
  · rintro node rfl position name found
    rw [Query.compile] at compiled
    obtain ⟨⟨body, inner⟩, reached, ofNode, done⟩ := bind_eq_ok compiled
    cases done
    cases Select.compile_origin ofNode position name found with
    | own => exact .inl rfl
    | nested number earlier rest =>
        refine .inr ⟨toString number ++ "_" ++ rest, ?_⟩
        simp only [nestedPath, String.append_assoc]

/-- A literal and a captured variable of a captured query. -/
theorem usersByLogin_entries :
    ∃ statement,
      (usersByLogin (.int 7) (.string "x")).compile .identity "" 0 =
          .ok ((statement, ⟨[("@p0", .int 7), ("@sq1_p0", .string "x")]⟩), 3) ∧
        [("@p0", .int 7), ("@sq1_p0", .string "x")] =
          registrations ((usersByLogin (.int 7) (.string "x")).traced .identity "" 0).events :=
  ⟨_, rfl, ((Query.entries_eq_registrations .identity "" 0
    (usersByLogin (.int 7) (.string "x"))).2.2 _ _ _ rfl).1⟩

end TypedQuery
