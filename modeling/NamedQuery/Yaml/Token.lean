import NamedQuery.Error

/-!
# Tokens of a YAML document

Besides what is written in a document there are three tokens that stand for its indentation: the two
beginnings of a block collection and its end.
-/

namespace NamedQuery.Yaml

inductive Fault where
  | malformed
  /-- A part of it has the right form and no meaning. -/
  | meaningless (cause : Error)
deriving Repr

inductive Directive where
  | version (major : Nat)
  /-- An abbreviation for the beginning of tags. -/
  | abbreviation (handle meaning : String)
  | other
deriving DecidableEq, Repr

inductive Token where
  | directive (d : Directive)
  | documentStart
  | documentEnd
  | blockSequence
  | blockMapping
  | blockEnd
  | openSequence
  | closeSequence
  | openMapping
  | closeMapping
  | item
  | comma
  | key
  | value
  | alias (name : String)
  | anchor (name : String)
  | tag (handle : Option String) (suffix : String)
  /-- `plain` tells whether the content stands without quotes or other marks. -/
  | scalar (content : Content) (plain : Bool)
deriving DecidableEq, Repr

end NamedQuery.Yaml
