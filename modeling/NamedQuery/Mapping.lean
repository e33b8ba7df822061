import NamedQuery.Dialect.Literal
import NamedQuery.Mapping.Table
import NamedQuery.Value.Equality

/-!
# Mapped classes

Classes that are mapped to tables.  The classes of a hierarchy share the table of their root, add a
table of their own to it, or have a table for themselves; where they share one, a column tells the
types of its rows apart.  A `Catalog` holds the classes in the order in which they were mapped.
-/

namespace NamedQuery

/-- How a class relates to the class it extends. -/
inductive Lineage where
  | root
  /-- Both have the same table. -/
  | sharing (parent : Nat)
  /-- The class adds a table of its own. -/
  | joined (parent : Nat)
  /-- All columns are in a table of its own. -/
  | concrete (parent : Nat)
deriving DecidableEq, Repr

namespace Lineage

def parent? : Lineage → Option Nat
  | root => none
  | sharing parent => some parent
  | joined parent => some parent
  | concrete parent => some parent

def isSharing : Lineage → Bool
  | sharing _ => true
  | _ => false

def isConcrete : Lineage → Bool
  | concrete _ => true
  | _ => false

end Lineage

/-- The column that tells the types of rows apart, and the attribute of classes for it. -/
structure Discriminator where
  column : String
  member : String
deriving DecidableEq, Repr

structure Property where
  /-- The columns that hold it, of which the first one counts most.  A class whose table holds none
  has lost the attribute. -/
  columns : List Column
  /-- The class that has defined it. -/
  owner : Nat
deriving DecidableEq, Repr

def Property.isLost (p : Property) : Bool := p.columns.isEmpty

/-- A column that tells types apart, with the attribute for it. -/
structure TypeColumn where
  column : Column
  member : String
deriving DecidableEq, Repr

structure MappedClass where
  id : Nat
  name : String
  lineage : Lineage
  /-- The table of its own, or the one it shares. -/
  table : Nat
  source : Source
  properties : List (String × Property)
  attributes : List (String × Value)
  excluded : List String
  /-- The column that tells types apart, if one reaches the class. -/
  typeColumn : Option TypeColumn
  /-- What that column holds for the class. -/
  identity : Value
  /-- The columns with the keys of its rows.  A class whose mapping has failed has none. -/
  keys : List Column
  /-- The class that gives instances their keys: rows of classes with the same one and the same key
  are one instance. -/
  keyClass : Nat
deriving Repr

namespace MappedClass

/-- The name and the property that a column belongs to. -/
def propertyOf? (m : MappedClass) (c : Column) : Option (String × Property) :=
  m.properties.find? fun e => e.2.columns.contains c

/-- Whether an attribute of the class takes the place of a column with its name.  An attribute that
counts as absent does not. -/
def shadows (m : MappedClass) (name : String) : Bool := (m.attributes.lookup name).any Value.truthy

end MappedClass

structure Catalog where
  tables : Tables
  /-- The mapped classes in the order of their creation. -/
  classes : List MappedClass
deriving Repr

namespace Catalog

def empty : Catalog := ⟨Tables.empty, []⟩

def find? (catalog : Catalog) (id : Nat) : Option MappedClass := catalog.classes[id]?

def tableOf (catalog : Catalog) (m : MappedClass) : Option Table := catalog.tables.list[m.table]?

def tableName (catalog : Catalog) (m : MappedClass) : Except Error String :=
  match (catalog.tableOf m).bind Table.usableName? with
  | some name => .ok name
  | none => .error (.notPlainTable m.name)

/-- How messages call a class together with its table. -/
def label (catalog : Catalog) (m : MappedClass) : String :=
  "Mapper[" ++ m.name ++ "(" ++ ((catalog.tableOf m).map Table.label).getD "" ++ ")]"

/-! ## Hierarchies -/

/-- The classes from a class up to the root of its hierarchy, which is at most `depth` steps
away. -/
def ancestryWithin (catalog : Catalog) : Nat → MappedClass → List MappedClass
  | 0, m => [m]
  | depth + 1, m =>
    match m.lineage.parent?.bind catalog.find? with
    | some parent => m :: ancestryWithin catalog depth parent
    | none => [m]

/-- A class and those it extends, the nearest first. -/
def ancestry (catalog : Catalog) (m : MappedClass) : List MappedClass :=
  catalog.ancestryWithin catalog.classes.length m

def rootOf (catalog : Catalog) (m : MappedClass) : Nat :=
  ((catalog.ancestry m).getLast?.getD m).id

def children (catalog : Catalog) (id : Nat) : List MappedClass :=
  catalog.classes.filter fun m => m.lineage.parent? = some id

/-- The classes, then their children, and so on for `depth` levels. -/
def levels (catalog : Catalog) : Nat → List MappedClass → List MappedClass
  | 0, classes => classes
  | depth + 1, classes =>
    if classes.isEmpty then []
    else classes ++ levels catalog depth (classes.flatMap fun m => catalog.children m.id)

/-- A class and all classes below it, level by level.  No hierarchy has more levels than there are
classes. -/
def selfAndDescendants (catalog : Catalog) (m : MappedClass) : List MappedClass :=
  catalog.levels catalog.classes.length [m]

def identities (catalog : Catalog) (m : MappedClass) : List Value :=
  ((catalog.selfAndDescendants m).map MappedClass.identity).filter fun v => !v.isNull

/-- Whether any class of the hierarchy of a class has an identity. -/
def hasIdentities (catalog : Catalog) (m : MappedClass) : Bool :=
  catalog.classes.any fun c => !c.identity.isNull && catalog.rootOf c = catalog.rootOf m

/-- The class of a hierarchy that has an identity; the one that was mapped last counts. -/
def withIdentity? (catalog : Catalog) (m : MappedClass) (identity : Value) : Option MappedClass :=
  catalog.classes.reverse.find? fun c =>
    !c.identity.isNull && Value.same c.identity identity && catalog.rootOf c = catalog.rootOf m

/-! ## Attributes and conditions -/

/-- The property that a class or the nearest one it extends has under a name, with that class. -/
def property? (catalog : Catalog) (m : MappedClass) (name : String) :
    Option (MappedClass × Property) :=
  (catalog.ancestry m).findSome? fun c => (c.properties.lookup name).map (c, ·)

/-- Whether the nearest attribute that a class has or takes over under a name takes the place of a
column. -/
def isShadowed (catalog : Catalog) (m : MappedClass) (name : String) : Bool :=
  ((catalog.ancestry m).findSome? fun c =>
    if (c.properties.lookup name).isSome then some false
    else (c.attributes.lookup name).map Value.truthy).getD false

/-- The condition that holds for the rows of a class only. -/
def typeRestriction (catalog : Catalog) (dialect : Dialect) (m : MappedClass) :
    Except Error (Option String) :=
  match m.lineage.isSharing, m.typeColumn, catalog.identities m with
  | true, some t, first :: rest => do
    let table ← catalog.tableName m
    let literals ← dialect.quote (.list (first :: rest))
    .ok (some (table ++ "." ++ t.column.name ++ " IN (" ++ literals ++ ")"))
  | _, _, _ => .ok none

end Catalog

end NamedQuery
