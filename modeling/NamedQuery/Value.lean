import NamedQuery.Time.Iso
import NamedQuery.Text.Content
import NamedQuery.Value.Uuid

/-!
# Values

The values that options, arguments and rows are made of, and the two texts each of them has: the
plain text, which stands in statements and messages, and the display, which shows in messages what
kind of value it is.
-/

namespace NamedQuery

/-- How many rows a finder answers with. -/
inductive Arity where
  | single
  | many
deriving DecidableEq, Repr, Hashable

namespace Arity

def word : Arity → String
  | single => "first"
  | many => "all"

def label : Arity → String
  | single => "Arity.SINGLE"
  | many => "Arity.MANY"

end Arity

inductive Value where
  | null
  | bool (b : Bool)
  | int (n : Int)
  | float (x : Double)
  | str (s : String)
  /-- A text in which halves of characters stand alone, as its code points. -/
  | broken (points : List Nat)
  | arity (a : Arity)
  | list (items : List Value)
  | tuple (items : List Value)
  | set (items : List Value)
  /-- Keys with their values, in the order in which the keys first came. -/
  | dict (entries : List (Value × Value))
  | bytes (content : List UInt8)
  | decimal (d : Decimal)
  | date (d : Date)
  | moment (m : Moment)
  | clock (t : Clock)
  | duration (d : Duration)
  | uuid (u : Uuid)
  /-- An object of a kind that has no meaning here. -/
  | object (kind : String)
  /-- The options of a finder, by their fields. -/
  | options (fields : List (String × Value))
  /-- The value at a place of a heap.  The values of the heap hold one another, and this one leads
  to a value that holds itself. -/
  | looped (heap : List Value) (place : Nat)
  /-- Within a heap, the value at a place. -/
  | link (place : Nat)
deriving Repr

instance : Inhabited Value := ⟨.null⟩

namespace Value

/-- The value itself; of one in a heap, what stands at its place. -/
def shallow : Value → Value
  | looped heap place => (heap[place]?).getD null
  | v => v

def plainTypeName : Value → String
  | null => "NoneType"
  | bool _ => "bool"
  | int _ => "int"
  | float _ => "float"
  | str _ => "str"
  | broken _ => "str"
  | arity _ => "Arity"
  | list _ => "list"
  | tuple _ => "tuple"
  | set _ => "set"
  | dict _ => "dict"
  | bytes _ => "bytes"
  | decimal _ => "Decimal"
  | date _ => "date"
  | moment _ => "datetime"
  | clock _ => "time"
  | duration _ => "timedelta"
  | uuid _ => "UUID"
  | object kind => kind
  | options _ => "OptionSet"
  | looped .. => "object"
  | link _ => "object"

def typeName (v : Value) : String := v.shallow.plainTypeName

/-- The name of the kind of value, with the prefix that some messages give it. -/
def longTypeName (v : Value) : String :=
  match v with
  | decimal _ => "decimal.Decimal"
  | date _ => "datetime.date"
  | moment _ => "datetime.datetime"
  | clock _ => "datetime.time"
  | duration _ => "datetime.timedelta"
  | v => v.typeName

def plainTruthy : Value → Bool
  | null => false
  | bool b => b
  | int n => n ≠ 0
  | float x => !x.isZero
  | str s => !s.isEmpty
  | list items => !items.isEmpty
  | tuple items => !items.isEmpty
  | set items => !items.isEmpty
  | dict entries => !entries.isEmpty
  | bytes content => !content.isEmpty
  | decimal d => !d.isZero
  | duration d => d.microseconds ≠ 0
  | _ => true

/-- Whether a value counts as present: empty texts and collections, zeros and nothing do not. -/
def truthy (v : Value) : Bool := v.shallow.plainTruthy

def isNull : Value → Bool
  | null => true
  | _ => false

/-- The value itself if it is present, else `default`. -/
def orElse (v default : Value) : Value := if v.truthy then v else default

def text? : Value → Option String
  | str s => some s
  | arity a => some a.word
  | _ => none

def content? : Value → Option Content
  | broken points => some (.broken points)
  | v => v.text?.map .text

end Value

/-- The value that says what a content says. -/
def Content.toValue : Content → Value
  | text s => .str s
  | broken points => .broken points

end NamedQuery
