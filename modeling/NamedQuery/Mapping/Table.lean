import NamedQuery.Error

/-!
# Tables and joins

The tables that classes are mapped to, and where the rows of a class come from: from a table, or
from such a source joined with a further table.  A join knows the columns that its parts had when it
was last looked through; a column that comes later shows only once the join is looked through again.
-/

namespace NamedQuery

structure Column where
  table : Nat
  name : String
deriving DecidableEq, Repr

/-- What stands in the place of a table. -/
inductive TableShape where
  | plain
  | join
  | subquery
deriving DecidableEq, Repr

structure Table where
  schema : Option String
  name : String
  shape : TableShape
  columns : List String
  /-- The column that tells the rows apart. -/
  key : Option String
  /-- The column of another table that holds the same keys. -/
  reference : Option Column
deriving Repr

namespace Table

def fullName (t : Table) : String :=
  match t.schema with
  | some schema => schema ++ "." ++ t.name
  | none => t.name

/-- The full name that statements can use; only a plain table has one. -/
def usableName? (t : Table) : Option String :=
  if t.shape = .plain && !t.fullName.isEmpty then some t.fullName else none

def label (t : Table) : String :=
  match t.shape with
  | .plain => t.name
  | .join => "Join object"
  | .subquery => "sq"

/-- What stands before the names of its columns. -/
def columnOwner (t : Table) : String := if t.shape = .subquery then t.label else t.name

end Table

inductive Source where
  | table (number : Nat)
  | join (number : Nat)
deriving DecidableEq, Repr

structure Join where
  left : Source
  right : Nat
  columns : List Column
deriving Repr

structure Tables where
  list : List Table
  joins : List Join
deriving Repr

namespace Tables

def empty : Tables := ⟨[], []⟩

def columnsOf (ts : Tables) (number : Nat) : List Column :=
  ((ts.list[number]?.map Table.columns).getD []).map (⟨number, ·⟩)

/-- The columns that a source is known to have. -/
def columns (ts : Tables) : Source → List Column
  | .table number => ts.columnsOf number
  | .join number => (ts.joins[number]?.map Join.columns).getD []

/-- The columns of a source that tell its rows apart. -/
def keys (ts : Tables) (source : Source) : List Column :=
  (ts.columns source).filter fun c => (ts.list[c.table]?.bind Table.key) = some c.name

def label (ts : Tables) (c : Column) : String :=
  (ts.list[c.table]?.map Table.columnOwner).getD "" ++ "." ++ c.name

/-- The first name that comes again. -/
def repeated? : List String → Option String
  | [] => none
  | name :: rest => if rest.contains name then some name else repeated? rest

/-- A further table, the number of which is that of the tables before it.  Its name must be new, and
so must be the names of its columns. -/
def register (ts : Tables) (t : Table) : Except Error Tables :=
  if ts.list.any (·.fullName = t.fullName) then .error (.tableTaken t.fullName)
  else
    match repeated? t.columns with
    | some column => .error (.columnRepeated column t.name)
    | none => .ok { ts with list := ts.list ++ [t] }

def addColumn (ts : Tables) (number : Nat) (name : String) : Tables :=
  { ts with list := ts.list.modify number fun t => { t with columns := t.columns ++ [name] } }

/-- A further join, the number of which is that of the joins before it. -/
def addJoin (ts : Tables) (left : Source) (right : Nat) : Tables :=
  { ts with
    joins := ts.joins ++ [⟨left, right, ts.columns left ++ ts.columnsOf right⟩] }

/-- Looks through a source again, and through the joins within it.  These are at most `depth`
deep. -/
def refresh : Nat → Source → Tables → Tables
  | 0, _, ts => ts
  | _, .table _, ts => ts
  | depth + 1, .join number, ts =>
    match ts.joins[number]? with
    | none => ts
    | some j =>
      let ts := refresh depth j.left ts
      let columns := ts.columns j.left ++ ts.columnsOf j.right
      { ts with joins := ts.joins.set number { j with columns } }

def refreshed (ts : Tables) (source : Source) : Tables := refresh (ts.joins.length + 1) source ts

end Tables

end NamedQuery
