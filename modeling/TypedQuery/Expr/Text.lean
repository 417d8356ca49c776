/-
Module: TypedQuery.Expr.Text
Purpose: Expressions as readers see them, in error messages and listings.
Main exports: Expr.text, Lambda.text
-/
import TypedQuery.Expr.Basic

namespace TypedQuery

/-- Field names with the texts of their values; surplus names or values are left
out. -/
def fieldTexts : List String → List String → List String
  | name :: names, value :: values => (name ++ " = " ++ value) :: fieldTexts names values
  | _, _ => []

/-- Parameter names in front of a lambda's arrow; parentheses unless there is
exactly one. -/
def paramsText : List Param → String
  | [param] => param.name
  | params => "(" ++ String.intercalate ", " (params.map (·.name)) ++ ")"

mutual

/-- The expression as readers see it. -/
def Expr.text : Expr → String
  | .member none name _ => name.owner.text ++ "." ++ name.name
  | .member (some target) name _ => target.text ++ "." ++ name.name
  | .constant value _ => value.text
  | .closure _ _ => "value(closure)"
  | .parameter param => param.name
  | .unary .not operand _ => "Not(" ++ operand.text ++ ")"
  | .unary .negate operand _ => "-" ++ operand.text
  | .unary .plus operand _ => "+" ++ operand.text
  | .unary .convert operand ty => "Convert(" ++ operand.text ++ ", " ++ ty.text ++ ")"
  | .unary .quote operand _ => operand.text
  | .binary op left right _ => "(" ++ left.text ++ " " ++ op.symbol ++ " " ++ right.text ++ ")"
  | .conditional test ifTrue ifFalse _ =>
    "IIF(" ++ test.text ++ ", " ++ ifTrue.text ++ ", " ++ ifFalse.text ++ ")"
  | .call none method args _ =>
    method.owner.name ++ "." ++ method.name ++
      "(" ++ String.intercalate ", " (Expr.texts args) ++ ")"
  | .call (some target) method args _ =>
    target.text ++ "." ++ method.name ++ "(" ++ String.intercalate ", " (Expr.texts args) ++ ")"
  | .construct (.record names) args _ =>
    "new \x7b " ++ String.intercalate ", " (fieldTexts names (Expr.texts args)) ++ " \x7d"
  | .construct ctor args _ =>
    "new " ++ ctor.text ++ "(" ++ String.intercalate ", " (Expr.texts args) ++ ")"
  | .lambda ⟨params, body⟩ => paramsText params ++ " => " ++ body.text
termination_by structural expr => expr

/-- Texts of several expressions. -/
def Expr.texts : List Expr → List String
  | [] => []
  | expr :: rest => expr.text :: Expr.texts rest
termination_by structural exprs => exprs

end

/-- The lambda as readers see it. -/
def Lambda.text (function : Lambda) : String := (Expr.lambda function).text

end TypedQuery
