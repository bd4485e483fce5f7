import Notebook.Query.Expression

/-!
# Errors of evaluation

An expression fails to have a value for one of four reasons, and each error records the text of the
sub-expression that failed. A rule that knows nothing of expressions leaves that text empty, and the
expression that uses the rule fills it in: `Notebook.Evaluation.EvaluationError.within`.

Functions of a host can do worse than fail. `Notebook.Evaluation.Stop` tells an error, which
concerns one candidate, from a breakdown, which ends the whole query.
-/

namespace Notebook.Evaluation

open Number (digitsOf)

/-- **An error of evaluation.** -/
inductive EvaluationError
  /-- A call of a name that no function has. -/
  | unknownFunction (name expression : String)
  /-- A call with a wrong count of arguments. -/
  | arity (name : String) (expected found : Nat) (expression : String)
  /-- A value of a kind that a function has no use for. -/
  | type (message expression : String)
  /-- Two values, each described, that have no order between them. -/
  | coercion (left right expression : String)
  deriving DecidableEq, Repr

namespace EvaluationError

/-- **The wording of an error.** -/
def message : EvaluationError → String
  | unknownFunction name expression => "Unknown function '" ++ name ++ "' in `" ++ expression ++ "`"
  | arity name expected found expression =>
    "Function '" ++ name ++ "' expects " ++ digitsOf expected ++ " argument(s), got " ++
      digitsOf found ++ " in `" ++ expression ++ "`"
  | type message expression => "Type error in `" ++ expression ++ "`: " ++ message
  | coercion left right expression =>
    "Cannot compare " ++ left ++ " with " ++ right ++ " in `" ++ expression ++ "`"

/-- The error with the text of an expression, if it has none yet. -/
def within (text : String) : EvaluationError → EvaluationError
  | unknownFunction name expression => unknownFunction name (fill expression)
  | arity name expected found expression => arity name expected found (fill expression)
  | type message expression => type message (fill expression)
  | coercion left right expression => coercion left right (fill expression)
where
  /-- The text that is there already, else the given one. -/
  fill (expression : String) : String := if expression = "" then text else expression

end EvaluationError

/-- **Why a function gives no value.** -/
inductive Stop
  /-- An error, which concerns the values it was given. -/
  | error (e : EvaluationError)
  /-- A breakdown, with what the host says of it. -/
  | breakdown (message : String)
  deriving DecidableEq, Repr

/-- A stop with the text of an expression for its error. -/
def Stop.within (text : String) : Stop → Stop
  | error e => error (e.within text)
  | breakdown message => breakdown message

end Notebook.Evaluation
