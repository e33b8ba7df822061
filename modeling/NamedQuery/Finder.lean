import NamedQuery.Backend
import NamedQuery.Finder.Parameters

/-!
# Finders

A finder is the compiled form of a definition: the template of its statement, the order of its
parameters and the way in which it takes arguments.  It holds no argument values.
-/

namespace NamedQuery

structure Finder where
  name : String
  arity : Arity
  template : Template
  /-- The names of the parameters, in the order of their first appearance. -/
  order : List String
  /-- Whether arguments are given by position instead of by name. -/
  positional : Bool
deriving DecidableEq, Repr, Hashable

namespace Finder

def sql (f : Finder) : String := f.template.text

def isSingle (f : Finder) : Bool := f.arity = .single

/-- One parameter for each name, or a mapping and further values by keyword. -/
def parameters (f : Finder) : Parameters :=
  if f.positional then { leading := [], placed := f.order, others := none }
  else { leading := ["params"], placed := [], others := some "values" }

/-- How a call is written. -/
def signature (f : Finder) : String := f.parameters.text

/-- The names that no argument could have. -/
def unusable (order : List String) : List String :=
  order.filter fun name => !Text.isParameterName name

/-- Makes a finder.  The parameters of a positional one must be names of arguments. -/
def make (name : String) (arity : Arity) (template : Template) (order : List String)
    (positional : Bool) : Except Error Finder :=
  if positional && !(unusable order).isEmpty then
    .error (.unusableParameters name (unusable order))
  else
    let f : Finder := { name, arity, template, order, positional }
    match f.parameters.fault? with
    | some fault => .error (.parameters fault)
    | none => .ok f

end Finder

end NamedQuery
