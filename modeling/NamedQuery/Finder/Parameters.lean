import NamedQuery.Error
import NamedQuery.Text.Word

/-!
# Parameters

What a call may give values to.  A list of parameters is usable only if every parameter has the name
of one and no two have the same; the checks are made in this order, each from the left.
-/

namespace NamedQuery

structure Parameters where
  /-- Given by position alone, or not at all. -/
  leading : List String
  /-- Given by position or by keyword. -/
  placed : List String
  /-- Takes the keywords that no other parameter has. -/
  others : Option String
deriving DecidableEq, Repr

namespace Parameters

def names (p : Parameters) : List String := p.leading ++ p.placed ++ p.others.toList

/-- The first of the names that no parameter can have.  A reserved word can name a parameter that no
keyword gives. -/
def unusable? (p : Parameters) : Option String :=
  (p.leading.find? fun name => !Text.isIdentifier name).or
    ((p.placed ++ p.others.toList).find? fun name => !Text.isParameterName name)

/-- The first name that stands among those in front of it. -/
def repeatedBehind (seen : List String) : List String → Option String
  | [] => none
  | name :: rest =>
    if seen.contains name then some name else repeatedBehind (name :: seen) rest

/-- Why the parameters cannot be those of a call. -/
def fault? (p : Parameters) : Option ParameterFault :=
  (p.unusable?.map .unusableName).or ((repeatedBehind [] p.names).map .repeatedName)

/-- How a call is written. -/
def text (p : Parameters) : String :=
  let leading := if p.leading.isEmpty then [] else p.leading.map (· ++ "=None") ++ ["/"]
  "(" ++ String.intercalate ", " (leading ++ p.placed ++ p.others.toList.map ("**" ++ ·)) ++ ")"

end Parameters

end NamedQuery
