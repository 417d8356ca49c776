/-
Module: TypedQuery.Proofs.Coupling
Purpose: Two compilations side by side. They are coupled when from related states both
  give related results and leave related states, or both fail in related ways.
Main exports: Paired, Paired.imp, Paired.symm, Paired.trans, Coupled, Coupled.pure, Coupled.throw,
  Coupled.bind, Progress.Related, Coupled.embed, Coupled.toNested
-/
import TypedQuery.Sql.Compile

namespace TypedQuery.Sql

/-- Two outcomes side by side: both results, or both failures. -/
inductive Paired {α β : Type} (result : α → β → Prop) (failure : Error → Error → Prop) :
    Except Error α → Except Error β → Prop
  | ok {first : α} {second : β} (related : result first second) :
      Paired result failure (.ok first) (.ok second)
  | error {first second : Error} (related : failure first second) :
      Paired result failure (.error first) (.error second)

namespace Paired

variable {α β γ : Type} {result : α → β → Prop} {next : β → γ → Prop}
  {failure : Error → Error → Prop} {first : Except Error α} {second : Except Error β}
  {third : Except Error γ}

theorem imp {result' : α → β → Prop} (paired : Paired result failure first second)
    (results : ∀ one two, result one two → result' one two) :
    Paired result' failure first second := by
  cases paired with
  | ok related => exact .ok (results _ _ related)
  | error related => exact .error related

theorem symm {result' : β → α → Prop} (paired : Paired result failure first second)
    (results : ∀ one two, result one two → result' two one)
    (failures : ∀ one two, failure one two → failure two one) :
    Paired result' failure second first := by
  cases paired with
  | ok related => exact .ok (results _ _ related)
  | error related => exact .error (failures _ _ related)

theorem trans {whole : α → γ → Prop} (head : Paired result failure first second)
    (tail : Paired next failure second third)
    (results : ∀ one two three, result one two → next two three → whole one three)
    (failures : ∀ one two three, failure one two → failure two three → failure one three) :
    Paired whole failure first third := by
  cases head with
  | ok related =>
      cases tail with
      | ok related' => exact .ok (results _ _ _ related related')
  | error related =>
      cases tail with
      | error related' => exact .error (failures _ _ _ related related')

end Paired

/-- Two compilations that keep step with each other. -/
def Coupled {σ τ α β : Type} (state : σ → τ → Prop) (result : α → β → Prop)
    (failure : Error → Error → Prop)
    (first : StateT σ (Except Error) α) (second : StateT τ (Except Error) β) : Prop :=
  ∀ s t, state s t →
    Paired (fun one two => result one.1 two.1 ∧ state one.2 two.2) failure (first s) (second t)

namespace Coupled

variable {σ τ α β γ δ : Type} {state : σ → τ → Prop} {result : α → β → Prop}
  {next : γ → δ → Prop} {failure : Error → Error → Prop}

theorem pure {one : α} {two : β} (related : result one two) :
    Coupled state result failure (pure one) (pure two) :=
  fun _ _ states => .ok ⟨related, states⟩

theorem throw {one two : Error} (related : failure one two) :
    Coupled state result failure (throw one) (throw two) :=
  fun _ _ _ => .error related

/-- Coupled compilations go on with coupled compilations. -/
theorem bind {first : StateT σ (Except Error) α} {second : StateT τ (Except Error) β}
    {firstNext : α → StateT σ (Except Error) γ} {secondNext : β → StateT τ (Except Error) δ}
    (head : Coupled state result failure first second)
    (tail : ∀ one two, result one two →
      Coupled state next failure (firstNext one) (secondNext two)) :
    Coupled state next failure (first >>= firstNext) (second >>= secondNext) := by
  intro s t states
  change Paired _ _ (first s >>= fun one => firstNext one.1 one.2)
    (second t >>= fun two => secondNext two.1 two.2)
  have heads := head s t states
  generalize first s = outcome at heads ⊢
  generalize second t = outcome' at heads ⊢
  cases heads with
  | ok related => exact tail _ _ related.1 _ _ related.2
  | error related => exact .error related

end Coupled

/-! ### Commands in commands -/

/-- The same numbering so far, and related values bound. -/
def Progress.Related (values : Parameters → Parameters → Prop) (first second : Progress) : Prop :=
  first.nested = second.nested ∧ values first.parameters second.parameters

namespace Coupled

variable {α β : Type} (values : Parameters → Parameters → Prop) {result : α → β → Prop}
  {whole : α × Parameters → β × Parameters → Prop} {failure : Error → Error → Prop}

/-- Coupled commands go into coupled parts, where taking over their values keeps the values
related. -/
theorem embed {first : Nested (α × Parameters)} {second : Nested (β × Parameters)}
    (commands : Coupled (· = ·) whole failure first second)
    (results : ∀ one two, whole one two → result one.1 two.1)
    (merges : ∀ one two, whole one two → ∀ held held', values held held' →
      values (held.merge one.2) (held'.merge two.2)) :
    Coupled (Progress.Related values) result failure (Compile.embed first)
      (Compile.embed second) := by
  intro s t states
  have outcomes := commands s.nested t.nested states.1
  simp only [Compile.embed]
  generalize first s.nested = outcome at outcomes ⊢
  generalize second t.nested = outcome' at outcomes ⊢
  cases outcomes with
  | ok related =>
      exact .ok ⟨results _ _ related.1, related.2, merges _ _ related.1 _ _ states.2⟩
  | error related => exact .error related

/-- Coupled parts make coupled commands, which start without values. -/
theorem toNested {first : Compile α} {second : Compile β} (empty : values .empty .empty)
    (parts : Coupled (Progress.Related values) result failure first second)
    (wholes : ∀ one two held held', result one two → values held held' →
      whole (one, held) (two, held')) :
    Coupled (· = ·) whole failure (Compile.toNested first) (Compile.toNested second) := by
  intro nested nested' same
  have outcomes := parts ⟨nested, .empty⟩ ⟨nested', .empty⟩ ⟨same, empty⟩
  simp only [Compile.toNested]
  generalize first ⟨nested, .empty⟩ = outcome at outcomes ⊢
  generalize second ⟨nested', .empty⟩ = outcome' at outcomes ⊢
  cases outcomes with
  | ok related => exact .ok ⟨wholes _ _ _ _ related.1 related.2.2, related.2.1⟩
  | error related => exact .error related

end Coupled

end TypedQuery.Sql
