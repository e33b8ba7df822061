import NamedQuery.Value.Display

/-!
# Options of a finder

The clauses and settings that define a finder.  Checked options hold texts, numbers and flags;
`Clauses` is what a statement is assembled from, where a prefetch hook may have put any value.
-/

namespace NamedQuery

inductive Bound where
  | count (n : Int)
  | text (c : Content)
deriving DecidableEq, Repr

def Bound.toValue : Bound → Value
  | count n => .int n
  | text c => c.toValue

/-- Options that have been checked.  An absent clause is `none`. -/
structure Options where
  select : Option Content
  /-- The text of the FROM clause. -/
  tables : Option Content
  joins : Option Content
  conditions : Option Content
  group : Option Content
  order : Option Content
  limit : Option Bound
  offset : Option Bound
  /-- Whether arguments are given by position instead of by name. -/
  positional : Bool
  /-- Passed to the prefetch hook as it is. -/
  prefetch : Value
deriving Repr

/-- The options in effect when a statement is assembled. -/
structure Clauses where
  select : Value
  tables : Value
  joins : Value
  conditions : Value
  group : Value
  order : Value
  limit : Value
  offset : Value
deriving Repr

namespace Options

def empty : Options :=
  { select := none, tables := none, joins := none, conditions := none, group := none,
    order := none, limit := none, offset := none, positional := false, prefetch := .null }

def textValue : Option Content → Value
  | some c => c.toValue
  | none => .null

def boundValue : Option Bound → Value
  | some b => b.toValue
  | none => .null

def clauses (o : Options) : Clauses :=
  { select := textValue o.select, tables := textValue o.tables, joins := textValue o.joins,
    conditions := textValue o.conditions, group := textValue o.group,
    order := textValue o.order, limit := boundValue o.limit, offset := boundValue o.offset }

def fields (o : Options) : List (String × Value) :=
  [("select", textValue o.select), ("from_", textValue o.tables), ("joins", textValue o.joins),
    ("conditions", textValue o.conditions), ("group", textValue o.group),
    ("order", textValue o.order), ("limit", boundValue o.limit), ("offset", boundValue o.offset),
    ("positional", .bool o.positional), ("prefetch", o.prefetch)]

def toValue (o : Options) : Value := .options o.fields

/-- A finder for a single row reads no more than one, whatever limit was given. -/
def normalized (o : Options) : Arity → Options
  | .single => { o with limit := some (.count 1) }
  | .many => o

end Options

end NamedQuery
