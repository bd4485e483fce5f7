import Notebook.Evaluation.Comparison
import Notebook.Evaluation.Function

/-!
# Evaluation

The value of an expression, given the functions that it may call and an
`Notebook.Evaluation.Environment` that says what each field holds. Connectives look at their right
side only when the left one has not decided; an error on the way ends the evaluation, and names the
innermost call or comparison that failed.

`Notebook.Evaluation.checkCalls` looks at the calls of an expression alone: whether each one names a
function and gives it the right count of arguments.
-/

namespace Notebook.Evaluation

open Query

/-- **What fields hold**; a field that is not there is absent. -/
abbrev Environment := FieldPath → Value

/-- The value of a literal. -/
def literalValue : Literal → Value
  | .string s => .string s
  | .integer n => .integer n
  | .real x => .real x
  | .boolean b => .boolean b
  | .null => .null

/-- The function that a call names, if it takes so many arguments. -/
def resolve (functions : Registry) (text name : String) (count : Nat) :
    Except EvaluationError Function :=
  match functions.function? name with
  | none => .error (.unknownFunction name text)
  | some f => if f.arity = count then .ok f else .error (.arity f.name f.arity count text)

/-- A rule's failure as that of an expression. -/
def located {α : Type} (text : String) : Except Stop α → Except Stop α
  | .ok a => .ok a
  | .error stop => .error (stop.within text)

/-- Whether the left side of a connective leaves the decision to the right one. -/
def defers (connective : Connective) (left : Bool) : Bool :=
  match connective with
  | .conjunction => left
  | .disjunction => !left

mutual

/-- **The value of an expression.** -/
def evaluate (functions : Registry) (environment : Environment) :
    Expression → Except Stop Value
  | .field path => .ok (environment path)
  | .literal l => .ok (literalValue l)
  | .call name arguments => do
    let text := (Expression.call name arguments).text
    let f ← (resolve functions text name arguments.length).mapError .error
    let values ← evaluateAll functions environment arguments
    located text (f.call values)
  | .comparison operator left right => do
    let a ← evaluate functions environment left
    let b ← evaluate functions environment right
    let holds ← located (Expression.comparison operator left right).text
      ((compareValues operator a b).mapError .error)
    return .boolean holds
  | .logical connective left right => do
    let a := (← evaluate functions environment left).isTruthy
    if defers connective a then
      return .boolean (← evaluate functions environment right).isTruthy
    else return .boolean a
  | .negation operand => do
    return .boolean !(← evaluate functions environment operand).isTruthy

/-- The values of expressions in turn. -/
def evaluateAll (functions : Registry) (environment : Environment) :
    List Expression → Except Stop (List Value)
  | [] => .ok []
  | e :: es => do
    let v ← evaluate functions environment e
    let vs ← evaluateAll functions environment es
    return v :: vs

end

/-- **Whether an expression holds**: whether its value is truthy. -/
def holds (functions : Registry) (environment : Environment) (e : Expression) : Except Stop Bool :=
  (evaluate functions environment e).map Value.isTruthy

mutual

/-- **Checks the calls** of an expression. -/
def checkCalls (functions : Registry) : Expression → Except EvaluationError Unit
  | .field _ => .ok ()
  | .literal _ => .ok ()
  | .call name arguments => do
    let _ ← resolve functions (Expression.call name arguments).text name arguments.length
    checkAllCalls functions arguments
  | .comparison _ left right => do
    checkCalls functions left
    checkCalls functions right
  | .logical _ left right => do
    checkCalls functions left
    checkCalls functions right
  | .negation operand => checkCalls functions operand

/-- Checks the calls of expressions in turn. -/
def checkAllCalls (functions : Registry) : List Expression → Except EvaluationError Unit
  | [] => .ok ()
  | e :: es => do
    checkCalls functions e
    checkAllCalls functions es

end

end Notebook.Evaluation
