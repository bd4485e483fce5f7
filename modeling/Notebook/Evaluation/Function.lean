import Notebook.Dictionary
import Notebook.Evaluation.Error
import Notebook.Unicode.Case
import Notebook.Value.Order

/-!
# Functions

A function has a name, a count of arguments, and a rule for exactly that many. A
`Notebook.Evaluation.Registry` knows functions by name, in any case of letters; a function that is
registered replaces one of the same name.
-/

namespace Notebook.Evaluation

/-- **A function** of values. -/
structure Function where
  /-- The name. -/
  name : String
  /-- The count of arguments. -/
  arity : Nat
  /-- The rule. -/
  body : Vector Value arity → Except Stop Value

/-- **Calls a function**; a wrong count of arguments is an error. -/
def Function.call (f : Function) (arguments : List Value) : Except Stop Value :=
  if h : arguments.length = f.arity then f.body ⟨arguments.toArray, by simpa using h⟩
  else .error (.error (.arity f.name f.arity arguments.length ""))

/-- **The functions that a query may call**, by their names in lower case. -/
abbrev Registry := Dictionary Function

namespace Registry

/-- A name in lower case. -/
def normalName (name : String) : String := String.ofList (Unicode.lowercase name.toList)

/-- The registry with a function put in. -/
def register (registry : Registry) (name : String) (arity : Nat)
    (body : Vector Value arity → Except Stop Value) : Registry :=
  registry.insert (normalName name) ⟨normalName name, arity, body⟩

/-- The function of a name. -/
def function? (registry : Registry) (name : String) : Option Function :=
  registry.find? (normalName name)

end Registry

end Notebook.Evaluation
