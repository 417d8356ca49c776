/-
Module: TypedQuery.Proofs.Mentions
Purpose: The names in a query that become aliases and labels as they are: those of lambda
  parameters, labels and fields. Tables and members are not among them, since a resolver names
  these.
Main exports: Mention, Mention.Permitted, Query.mentions
-/
import TypedQuery.Expr.Basic

namespace TypedQuery

/-- A name that a query mentions. -/
inductive Mention
  /-- A lambda parameter, where it is bound or where it is used. -/
  | param (name : String)
  /-- A label of a record, or a field of the type of a lambda parameter. -/
  | field (name : String)

namespace Mention

/-- The name itself. -/
def name : Mention → String
  | .param name | .field name => name

/-- The name is a permitted one. -/
def Permitted (permitted : String → Prop) (mention : Mention) : Prop := permitted mention.name

instance (permitted : String → Prop) [DecidablePred permitted] (mention : Mention) :
    Decidable (mention.Permitted permitted) :=
  inferInstanceAs (Decidable (permitted mention.name))

theorem permitted_of_all (mention : Mention) : mention.Permitted fun _ => True := trivial

end Mention

/-- A bound parameter mentions its name and the fields of its type. -/
def Param.mentions (param : Param) : List Mention :=
  .param param.name :: param.ty.fields.map fun field => .field field.name

/-- Labels of a record. -/
def Constructor.mentions : Constructor → List Mention
  | .record names => names.map .field
  | .dateTime | .random | .named _ => []

mutual

/-- What an expression mentions. -/
def Expr.mentions : Expr → List Mention
  | .member target _ _ => Expr.mentionsTarget target
  | .constant _ _ => []
  | .closure captures _ => Capture.mentionsAll captures
  | .parameter param => [.param param.name]
  | .unary _ operand _ => operand.mentions
  | .binary _ left right _ => left.mentions ++ right.mentions
  | .conditional test ifTrue ifFalse _ => test.mentions ++ ifTrue.mentions ++ ifFalse.mentions
  | .call target _ args _ => Expr.mentionsTarget target ++ Expr.mentionsAll args
  | .construct ctor args _ => ctor.mentions ++ Expr.mentionsAll args
  | .lambda function => function.mentions
termination_by structural expr => expr

/-- What the target of a call or member mentions. -/
def Expr.mentionsTarget : Option Expr → List Mention
  | none => []
  | some target => target.mentions
termination_by structural target => target

/-- What several expressions mention. -/
def Expr.mentionsAll : List Expr → List Mention
  | [] => []
  | expr :: rest => expr.mentions ++ Expr.mentionsAll rest
termination_by structural exprs => exprs

/-- What a lambda mentions. -/
def Lambda.mentions : Lambda → List Mention
  | ⟨params, body⟩ => params.flatMap Param.mentions ++ body.mentions
termination_by structural function => function

/-- What a clause that may be missing mentions. -/
def Lambda.mentionsOption : Option Lambda → List Mention
  | none => []
  | some function => function.mentions
termination_by structural function => function

/-- What several lambdas mention. -/
def Lambda.mentionsAll : List Lambda → List Mention
  | [] => []
  | function :: rest => function.mentions ++ Lambda.mentionsAll rest
termination_by structural functions => functions

/-- What an environment mentions: what its queries do. -/
def Capture.mentionsAll : List Capture → List Mention
  | [] => []
  | .value _ _ :: rest => Capture.mentionsAll rest
  | .query _ query :: rest => query.mentions ++ Capture.mentionsAll rest
termination_by structural captures => captures

/-- What joins mention. -/
def Join.mentionsAll : List Join → List Mention
  | [] => []
  | ⟨_, source, outerKey, innerKey, result⟩ :: rest =>
    source.mentions ++ outerKey.mentions ++ innerKey.mentions ++ result.mentions ++
      Join.mentionsAll rest
termination_by structural joins => joins

/-- What sort keys mention. -/
def Order.mentionsAll : List Order → List Mention
  | [] => []
  | ⟨key, _⟩ :: rest => key.mentions ++ Order.mentionsAll rest
termination_by structural orders => orders

/-- What a select node mentions. -/
def Select.mentions : Select → List Mention
  | ⟨source, _, filters, having, projection, groupKey, groupElement, joins, orderBy, _, _, _, _⟩ =>
    source.mentions ++ Lambda.mentionsAll filters ++ Lambda.mentionsAll having ++
      Lambda.mentionsOption projection ++ Lambda.mentionsOption groupKey ++
      Lambda.mentionsOption groupElement ++ Join.mentionsAll joins ++ Order.mentionsAll orderBy
termination_by structural node => node

/-- What a query mentions, in itself and in the queries that it captures. -/
def Query.mentions : Query → List Mention
  | .table _ => []
  | .select node => node.mentions
  | .combine _ first second => first.mentions ++ second.mentions
termination_by structural query => query

end

end TypedQuery
