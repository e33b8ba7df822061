import NamedQuery.Error
import NamedQuery.Model.Nature

/-!
# Calls of what all classes have

What classes and their instances have by their nature can partly be called.  An operation of
instances that is reached through a class wants an instance first; apart from that only the number
of arguments is looked at.
-/

namespace NamedQuery.Nature

/-- How many arguments an operation takes beside the instance, unless it takes any number. -/
def operationCount (name : String) : Option Nat :=
  if name = "__init__" then none
  else if ["__hash__", "__repr__", "__str__"].contains name then some 0
  else if name = "__setattr__" then some 2
  else some 1

def methodCount (name : String) : Nat :=
  if ["__format__", "__reduce_ex__", "__instancecheck__", "__subclasscheck__"].contains name then 1
  else 0

/-- The answer of a comparison that is left to the other side. -/
def undecided : Value := .object "NotImplementedType"

/-- How many bytes an instance takes. -/
def instanceSize : Int := 24

/-- The answers of the methods that do not depend on the instance. -/
def methodAnswer (name : String) : Value :=
  if name = "__prepare__" then .dict []
  else if name = "__subclasshook__" then undecided
  else if name = "__instancecheck__" then .bool false
  else if name = "__sizeof__" then .int instanceSize
  else .null

def takesAny (name : String) : Bool := name = "__prepare__" || name = "__subclasshook__"

def callOperation (name : String) (given : Nat) : Except Error Value :=
  match operationCount name with
  | none => .ok .null
  | some expected =>
    if given = expected then .ok (if expected = 1 then undecided else .null)
    else .error (.nature (.operationCount expected given))

/-- Calls a method; `owner` is what it belongs to. -/
def callMethod (owner name : String) (given : Nat) : Except Error Value :=
  if takesAny name || given = methodCount name then .ok (methodAnswer name)
  else .error (.nature (.methodCount (owner ++ "." ++ name) (methodCount name) given))

/-- Calls what the class `model` has under a name, of this kind, if it can be called. -/
def callOnClass (model name kind : String) (given : Nat) : Option (Except Error Value) :=
  if kind = "wrapper_descriptor" then
    some (if given = 0 then .error (.nature (.operationAlone name))
      else callOperation name (given - 1))
  else if kind = "method_descriptor" then
    some (if given = 0 then .error (.nature (.methodAlone name))
      else callMethod "object" name (given - 1))
  else if kind = "method-wrapper" then some (callOperation name given)
  else if kind = "builtin_function_or_method" then
    some (if name = "__new__" then .error (.nature .noClassToMake) else callMethod model name given)
  else if kind = "function" && given = 0 then some (.error (.nature .selfMissing))
  else none

/-- Calls what an instance of the class `model` has under a name, of this kind, if it can be
called. -/
def callOnInstance (model name kind : String) (given : Nat) : Option (Except Error Value) :=
  if kind = "method-wrapper" then
    some (if name = "__init__" && given ≠ 0 then .error (.nature (.instanceOnly model))
      else callOperation name given)
  else if kind = "builtin_function_or_method" then
    some (if name = "__new__" then .error (.nature .noClassToMake) else callMethod model name given)
  else if kind = "function" then
    some (if given = 0 then .ok .null else .error (.nature (.byNameOnly given)))
  else none

end NamedQuery.Nature
