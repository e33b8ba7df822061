import NamedQuery.Finder
import NamedQuery.Value.Equality

/-!
# Arguments of finders

A positional finder takes its parameters like any operation with a fixed list of parameters: first
the positional arguments from left to right, then the rest by keyword.  A named finder takes at most
one mapping, over which the keywords are merged.
-/

namespace NamedQuery

structure Arguments where
  positional : List Value
  keywords : List (String × Value)
deriving Repr

/-- The values for the parameters of a finder. -/
inductive Bindings where
  /-- One value for each position of the parameter order. -/
  | row (values : List Value)
  | mapping (entries : List (Value × Value))
deriving Repr

namespace Bindings

def toValue : Bindings → Value
  | row values => .list values
  | mapping entries => .dict entries

end Bindings

namespace Arguments

def keyword? (keywords : List (String × Value)) (name : String) : Option Value :=
  (keywords.find? fun e => e.1 = name).map Prod.snd

/-- Hands the positional arguments to the first parameters; the other parameters are left over.  A
parameter that is reached must not have a keyword, too. -/
def byPosition (keywords : List (String × Value)) :
    List Value → List String → Except Misfit (List String)
  | [], names => .ok names
  | _ :: _, [] => .error .tooMany
  | _ :: values, name :: names =>
    if (keyword? keywords name).isSome then .error (.repeated name)
    else byPosition keywords values names

def byKeyword (keywords : List (String × Value)) : List String → Except Misfit (List Value)
  | [] => .ok []
  | name :: names =>
    match keyword? keywords name with
    | some v => (byKeyword keywords names).map (v :: ·)
    | none => .error (.missing name)

/-- No keyword may name anything but one of the parameters that were left. -/
def noOther (keywords : List (String × Value)) (names : List String) : Except Misfit Unit :=
  match keywords.find? fun e => !names.contains e.1 with
  | some e => .error (.unexpected e.1)
  | none => .ok ()

/-- One value for each parameter, in order. -/
def fit (a : Arguments) (order : List String) : Except Misfit (List Value) := do
  let left ← byPosition a.keywords a.positional order
  let values ← byKeyword a.keywords left
  noOther a.keywords left
  .ok (a.positional ++ values)

/-- The entries of a mapping in which the keywords have replaced or followed the given ones. -/
def merge (entries : List (Value × Value)) (keywords : List (String × Value)) :
    List (Value × Value) :=
  keywords.foldl (fun merged e => Value.insertEntry merged (.str e.1) e.2) entries

end Arguments

namespace Finder

/-- The mapping that the positional arguments give a named finder. -/
def mappingOf (f : Finder) : List Value → Except Error (List (Value × Value))
  | [] => .ok []
  | [.null] => .ok []
  | [.dict entries] => .ok entries
  | [v] => .error (.notMapping f.name v)
  | values => .error (.severalMappings f.name values.length)

/-- The values that a call gives the parameters. -/
def bindArguments (f : Finder) (a : Arguments) : Except Error Bindings :=
  if f.positional then
    match a.fit f.order with
    | .ok values => .ok (.row values)
    | .error misfit => .error (.misfit f.name misfit)
  else (f.mappingOf a.positional).map fun entries => .mapping (Arguments.merge entries a.keywords)

end Finder

end NamedQuery
