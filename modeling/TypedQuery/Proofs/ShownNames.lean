/-
Module: TypedQuery.Proofs.ShownNames
Purpose: Bookkeeping of bound names and shown placeholders. A step of compilation shows
  names that are bound when it is done, and, if it keeps its literals, it binds no
  name that it does not show.
Main exports: Shown, Shows, Shows.bind, Shows.bindValue, Shows.nest_bind, CommandShows,
  Follows.discards
-/
import TypedQuery.Proofs.PathSegments
import TypedQuery.Proofs.TraceAgreement
import TypedQuery.Proofs.TermTokens

namespace TypedQuery.Sql

theorem IsWord.nestedPath {path : String} (word : IsWord path) (number : Nat) :
    IsWord (nestedPath path number) :=
  ((word.append (by decide)).append (isWord_numeral number)).append (by decide)

/-- A placeholder shows itself. -/
theorem tokens_placeholderName {path : String} (word : IsWord path) (position : Nat) :
    tokens (placeholderName path position) = [placeholderName path position] := by
  have name : IsWord (path ++ "p" ++ toString position) :=
    (word.append (by decide)).append (isWord_numeral position)
  have form : placeholderName path position = "@" ++ (path ++ "p" ++ toString position) := by
    simp only [placeholderName, String.append_assoc]
  rw [form]
  exact tokens_of_word name

/-- Names bound before and after a step, and the names that its result shows. What was
shown before the step counts on being part of what is shown after it. -/
structure Shown (kept : Prop) (before names shown names' : List String) : Prop where
  grows : names ⊆ names'
  bound : before ⊆ names → shown ⊆ names'
  complete : kept → names' ⊆ names ++ shown
  carried : kept → before ⊆ shown

/-- From every state in which the held names are bound, a step that succeeds has a result
of a kind, and what the result shows is bound. -/
def Shows (held : List String) (kept : Prop) (before : List String) {α : Type}
    (kind : α → Prop) (shown : α → List String) (step : Compile α) : Prop :=
  ∀ progress, held ⊆ progress.parameters.names → ∀ result progress',
    step progress = .ok (result, progress') → kind result ∧
      Shown kept before progress.parameters.names (shown result) progress'.parameters.names

/-- A command that succeeds shows names that it binds and, if it keeps its literals, all
of them. -/
def CommandShows (kept : Prop) {α : Type} (shown : α → List String)
    (command : Nested (α × Parameters)) : Prop :=
  ∀ nested result parameters nested', command nested = .ok ((result, parameters), nested') →
    shown result ⊆ parameters.names ∧ (kept → parameters.names ⊆ shown result)

namespace Shows

variable {α β : Type} {held before : List String} {kept kept' : Prop} {kind : α → Prop}
  {kind' : β → Prop} {shown : α → List String} {shown' : β → List String}

/-- A result that shows what was shown before, and perhaps held names. -/
theorem pure {result : α} (isKind : kind result) (sound : shown result ⊆ held ++ before)
    (carried : kept → before ⊆ shown result) :
    Shows held kept before kind shown (pure result) := by
  intro progress present _ _ done
  cases done
  refine ⟨isKind, ?_, ?_, ?_, carried⟩
  · exact List.Subset.refl _
  · intro bound name isShown
    rcases List.mem_append.mp (sound isShown) with isHeld | isBefore
    · exact present isHeld
    · exact bound isBefore
  · intro _ name isBound
    exact List.mem_append_left _ isBound

/-- A result that shows just what was shown before. -/
theorem same {result : α} (isKind : kind result)
    (same : ∀ token, token ∈ shown result ↔ token ∈ before) :
    Shows held kept before kind shown (Pure.pure result) := by
  apply pure isKind
  · intro token isShown
    exact List.mem_append_right _ ((same token).mp isShown)
  · intro _ token isBefore
    exact (same token).mpr isBefore

theorem of_eq {result : α} (isKind : kind result) (same : shown result = before) :
    Shows held kept before kind shown (Pure.pure result) := by
  apply Shows.same isKind
  intro token
  rw [same]

theorem throw (error : Error) : Shows held kept before kind shown (throw error) := by
  intro progress present _ _ done
  cases done

/-- One step after the other; the second may hold what the first shows. -/
theorem bind_holding {step : Compile α} {next : α → Compile β}
    (head : Shows held kept' [] kind shown step) (keeps : kept → kept')
    (tail : ∀ result, kind result →
      Shows (held ++ shown result) kept (before ++ shown result) kind' shown' (next result)) :
    Shows held kept before kind' shown' (step >>= next) := by
  intro progress present result' final done
  obtain ⟨result, reached, first, rest⟩ := bind_eq_ok done
  obtain ⟨isKind, one⟩ := head progress present result reached first
  have firstBound := one.bound (List.nil_subset _)
  have present' : held ++ shown result ⊆ reached.parameters.names :=
    List.append_subset.mpr ⟨List.Subset.trans present one.grows, firstBound⟩
  obtain ⟨isKind', two⟩ := tail result isKind reached present' result' final rest
  refine ⟨isKind', List.Subset.trans one.grows two.grows, ?_, ?_, ?_⟩
  · intro bound
    exact two.bound
      (List.append_subset.mpr ⟨List.Subset.trans bound one.grows, firstBound⟩)
  · intro isKept name isBound
    rcases List.mem_append.mp (two.complete isKept isBound) with isBound | isShown
    · rcases List.mem_append.mp (one.complete (keeps isKept) isBound) with isBound | isShown
      · exact List.mem_append_left _ isBound
      · exact List.mem_append_right _ (two.carried isKept (List.mem_append_right _ isShown))
    · exact List.mem_append_right _ isShown
  · intro isKept name isBefore
    exact two.carried isKept (List.mem_append_left _ isBefore)

/-- More names may be held than are asked for. -/
theorem mono {held' : List String} {step : Compile α}
    (shows : Shows held kept before kind shown step) (more : held ⊆ held') :
    Shows held' kept before kind shown step := by
  intro progress present
  exact shows progress (List.Subset.trans more present)

theorem bind {step : Compile α} {next : α → Compile β}
    (head : Shows held kept' [] kind shown step) (keeps : kept → kept')
    (tail : ∀ result, kind result →
      Shows held kept (before ++ shown result) kind' shown' (next result)) :
    Shows held kept before kind' shown' (step >>= next) := by
  apply bind_holding head keeps
  intro result isKind
  exact (tail result isKind).mono (List.subset_append_left _ _)

/-- A step outside the state. -/
theorem lift {action : Except Error α} (ofResult : ∀ result, action = .ok result → kind result) :
    Shows held kept [] kind (fun _ => []) (liftM action : Compile α) := by
  intro progress present result progress' done
  cases found : action with
  | error error =>
      rw [found] at done
      cases done
  | ok value =>
      rw [found] at done
      cases done
      exact ⟨ofResult _ found, List.Subset.refl _, fun _ => List.nil_subset _,
        fun _ => List.subset_append_left _ _, fun _ => List.nil_subset _⟩

/-- A literal shows the placeholder that it is bound to. -/
theorem bindValue {scope : Scope} (word : IsWord scope.path) (value : Value) :
    Shows held kept [] (fun _ => True) Term.tokens (Compile.bindValue scope value) := by
  intro progress present result progress' done
  cases done
  refine ⟨trivial, ?_, ?_, ?_, fun _ => List.nil_subset _⟩
  · intro name isBound
    exact Parameters.mem_names_insert.mpr (.inl isBound)
  · intro _ name isShown
    change name ∈ tokens (placeholderName scope.path progress.parameters.size) at isShown
    rw [tokens_placeholderName word] at isShown
    exact Parameters.mem_names_insert.mpr (.inr (List.mem_singleton.mp isShown))
  · intro _ name isBound
    rcases Parameters.mem_names_insert.mp isBound with isBound | rfl
    · exact List.mem_append_left _ isBound
    · refine List.mem_append_right _ ?_
      change _ ∈ tokens (placeholderName scope.path progress.parameters.size)
      rw [tokens_placeholderName word]
      exact List.mem_singleton.mpr rfl

/-- A nested command shows what it binds, and all of it is taken over. -/
theorem nest {scope : Scope} (word : IsWord scope.path)
    {compiled : String → Nested (α × Parameters)}
    (command : ∀ path, IsWord path → CommandShows kept shown (compiled path)) :
    Shows held kept [] (fun _ => True) shown
      (do let path ← Compile.nextPath scope
          Compile.embed (compiled path)) := by
  intro progress present result progress' done
  have inner := command _ (word.nestedPath progress.nested) (progress.nested + 1)
  change Compile.embed (compiled (nestedPath scope.path progress.nested))
    { progress with nested := progress.nested + 1 } = _ at done
  unfold Compile.embed at done
  dsimp only at done
  cases outcome : compiled (nestedPath scope.path progress.nested) (progress.nested + 1) with
  | error error =>
      rw [outcome] at done
      cases done
  | ok handed =>
      obtain ⟨⟨value, parameters⟩, nested⟩ := handed
      rw [outcome] at done
      cases done
      obtain ⟨sound, complete⟩ := inner value parameters nested outcome
      refine ⟨trivial, ?_, ?_, ?_, fun _ => List.nil_subset _⟩
      · intro name isBound
        exact Parameters.mem_names_merge.mpr (.inl isBound)
      · intro _ name isShown
        exact Parameters.mem_names_merge.mpr (.inr (sound isShown))
      · intro isKept name isBound
        rcases Parameters.mem_names_merge.mp isBound with isBound | isBound
        · exact List.mem_append_left _ isBound
        · exact List.mem_append_right _ (complete isKept isBound)

/-- A nested command, then what is made of it. -/
theorem nest_bind {scope : Scope} (word : IsWord scope.path)
    {compiled : String → Nested (α × Parameters)} {next : α → Compile β}
    (command : ∀ path, IsWord path → CommandShows kept' shown (compiled path))
    (keeps : kept → kept')
    (tail : ∀ result, Shows held kept (before ++ shown result) kind' shown' (next result)) :
    Shows held kept before kind' shown'
      (do let path ← Compile.nextPath scope
          let result ← Compile.embed (compiled path)
          next result) := by
  have both := (nest word command).bind keeps fun result _ => tail result
  rwa [bind_assoc] at both

end Shows

/-- A step without literals binds nothing, whatever it shows. -/
theorem Follows.discards {allowed : String → Prop} {path : String} {values : List Value}
    {α : Type} {kind : α → Prop} {traced : Traced Progress α} {compiled : Compile α}
    (follows : Follows allowed path values kind traced compiled) (held : List String) :
    Shows held (values.isEmpty = true) [] (fun _ => True) (fun _ => []) compiled := by
  intro progress present result progress' done
  have ended := follows progress
  rw [done] at ended
  generalize traced progress = trace at ended
  cases ended with
  | ok left written isKind =>
      have names := left.names_of_registrations rfl
      refine ⟨trivial, ?_, fun _ => List.nil_subset _, ?_, fun _ => List.nil_subset _⟩
      · intro name isBound
        exact (names name).mpr (.inl isBound)
      · intro isEmpty name isBound
        rw [List.isEmpty_iff] at isEmpty
        rw [isEmpty, List.map_eq_nil_iff] at written
        rw [List.append_nil]
        rcases (names name).mp isBound with isBound | isNew
        · exact isBound
        · rw [written] at isNew
          cases isNew

namespace CommandShows

variable {α β : Type} {kept kept' : Prop} {shown : α → List String} {shown' : β → List String}

theorem table {result : α} (nothing : shown result = []) :
    CommandShows kept shown (pure (result, .empty)) := by
  intro nested _ _ _ done
  cases done
  rw [nothing]
  exact ⟨List.nil_subset _, fun _ => List.nil_subset _⟩

theorem imp {command : Nested (α × Parameters)} (shows : CommandShows kept' shown command)
    (keeps : kept → kept') : CommandShows kept shown command := by
  intro nested result parameters nested' done
  obtain ⟨sound, complete⟩ := shows nested result parameters nested' done
  exact ⟨sound, fun isKept => complete (keeps isKept)⟩

/-- The parts of a command, from no names on. -/
theorem ofParts {kind : α → Prop} {parts : Compile α}
    (shows : Shows [] kept [] kind shown parts) :
    CommandShows kept shown (Compile.toNested parts) := by
  intro nested result parameters nested' done
  unfold Compile.toNested at done
  cases outcome : parts ⟨nested, .empty⟩ with
  | error error =>
      rw [outcome] at done
      cases done
  | ok reached =>
      obtain ⟨value, progress⟩ := reached
      rw [outcome] at done
      cases done
      have all := (shows _ (List.nil_subset _) _ _ outcome).2
      exact ⟨all.bound (List.nil_subset _), all.complete⟩

/-- A change of a command's result that shows the same. -/
theorem map {command : Nested (α × Parameters)} (shows : CommandShows kept shown command)
    {change : α → β} (same : ∀ result, shown' (change result) = shown result) :
    CommandShows kept shown'
      (do let (result, parameters) ← command
          return (change result, parameters)) := by
  intro nested result parameters nested' done
  obtain ⟨⟨value, held⟩, reached, first, rest⟩ := bind_eq_ok done
  cases rest
  rw [same]
  exact shows nested value _ _ first

/-- The two sides of a set operation. -/
theorem combine {first second : Nested (α × Parameters)} {both : α → α → β}
    (ofFirst : CommandShows kept shown first) (ofSecond : CommandShows kept' shown second)
    (same : ∀ result result', shown' (both result result') = shown result ++ shown result') :
    CommandShows (kept ∧ kept') shown'
      (do let (first, parameters) ← first
          let (second, others) ← second
          return (both first second, parameters.merge others)) := by
  intro nested result parameters nested' done
  obtain ⟨⟨value, held⟩, reached, firstDone, rest⟩ := bind_eq_ok done
  obtain ⟨⟨value', others⟩, reached', secondDone, rest⟩ := bind_eq_ok rest
  cases rest
  obtain ⟨sound, complete⟩ := ofFirst nested value held reached firstDone
  obtain ⟨sound', complete'⟩ := ofSecond reached value' others _ secondDone
  rw [same]
  constructor
  · intro name isShown
    rcases List.mem_append.mp isShown with isShown | isShown
    · exact Parameters.mem_names_merge.mpr (.inl (sound isShown))
    · exact Parameters.mem_names_merge.mpr (.inr (sound' isShown))
  · intro isKept name isBound
    rcases Parameters.mem_names_merge.mp isBound with isBound | isBound
    · exact List.mem_append_left _ (complete isKept.1 isBound)
    · exact List.mem_append_right _ (complete' isKept.2 isBound)

end CommandShows

end TypedQuery.Sql
