/-
Module: TypedQuery.Error
Purpose: Why building or compiling a query fails, and the words for it.
Main exports: Error, Error.message, Error.kind
-/
import TypedQuery.Expr.Text

namespace TypedQuery

/-- What is wrong with an argument. -/
inductive Reason
  /-- A lambda with the wrong number of parameters. -/
  | arity (expected given : Nat)
  /-- A row count below zero. -/
  | negative (count : Int)
  /-- A join result that does not name both sides. -/
  | joinResult
  | described (text : String)

/-- The reason in words. -/
def Reason.message : Reason → String
  | .arity expected given =>
    "expected a lambda with " ++ toString expected ++ " parameter(s), got " ++ toString given
  | .negative count => "must not be negative, got " ++ toString count
  | .joinResult => "join result selector must take two parameters"
  | .described text => text

/-- A part of an expression that has no SQL form. -/
inductive Fragment
  | expression (expr : Expr)
  | unaryOperator (op : UnaryOp)
  | binaryOperator (op : BinaryOp)
  | conversion (target : Ty)
  | method (method : Method)
  | construction (name : String)
  /-- A variable that its environment lacks. -/
  | captured (name : String)
  | described (text : String)

/-- The fragment in words. -/
def Fragment.message : Fragment → String
  | .expression expr => "Can not translate expression: " ++ expr.text ++ "."
  | .unaryOperator op => "Operator " ++ op.name ++ " is not supported."
  | .binaryOperator op => "Operator " ++ op.name ++ " is not supported."
  | .conversion target => "Can not translate conversion to " ++ target.text ++ "."
  | .method signature => "Can not translate method " ++ signature.text
  | .construction name => "Can not translate object creation: " ++ name
  | .captured name => "Can not access closure member " ++ name ++ "."
  | .described text => text

/-- A marker that is only meaningful inside an expression. -/
inductive Marker
  | contains
  | described (text : String)

/-- The misused marker in words. -/
def Marker.message : Marker → String
  | .contains => "contains() can only be used as part of a predicate"
  | .described text => text

/-- What is wrong with a stored configuration. -/
inductive Fault
  /-- There is no file, or its bytes are no text. -/
  | unreadable (path : String)
  /-- A file stands where a folder is needed, or a folder where the file goes. -/
  | unwritable (path : String)
  /-- The text is no document, or an entry has the wrong type. -/
  | malformed
  | described (text : String)

/-- The fault in words. -/
def Fault.message : Fault → String
  | .unreadable path => path ++ ": can not be read as text"
  | .unwritable path => path ++ ": can not be written"
  | .malformed => "not a naming configuration"
  | .described text => text

/-- A failure to build or compile a query, or to read a configuration. -/
inductive Error
  | invalidArgument (name : String) (reason : Reason)
  | unsupported (fragment : Fragment)
  | misuse (marker : Marker)
  | config (fault : Fault)

/-- The class of a failure. -/
inductive Error.Kind
  | invalidArgument
  | unsupported
  | misuse
  | config
deriving Repr, DecidableEq

namespace Error

/-- Class of the failure. -/
def kind : Error → Kind
  | .invalidArgument _ _ => .invalidArgument
  | .unsupported _ => .unsupported
  | .misuse _ => .misuse
  | .config _ => .config

/-- The failure in words. -/
def message : Error → String
  | .invalidArgument name reason => "invalid argument `" ++ name ++ "`: " ++ reason.message
  | .unsupported fragment => fragment.message
  | .misuse marker => marker.message
  | .config fault => "configuration error: " ++ fault.message

end Error

end TypedQuery
