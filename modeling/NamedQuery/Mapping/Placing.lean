import NamedQuery.Entries
import NamedQuery.Mapping

/-!
# Mapping a class

A class is mapped from a plan: it gets a table or shares one, it takes over the properties of the
class it extends, and every column of its source that no property holds becomes a property.  A plan
that fails may leave something behind: a table keeps its name, and a class that had found its place
below another one stays there, though nothing can be asked of it.
-/

namespace NamedQuery

inductive MappingStyle where
  | table (schema : Option String) (name : String)
  /-- A join that begins with the table `name`, or a subquery of that table. -/
  | compound (name : String) (joins : Bool)
  /-- In the table of the class it extends. -/
  | sharing
  | joined (name : String)
  | concrete (name : String)
deriving Repr

structure MappingPlan where
  style : MappingStyle
  discriminator : Option Discriminator
  identity : Value
  /-- The attributes that the class is given beside its columns. -/
  attributes : List (String × Value)
deriving Repr

namespace MappingPlan

/-- The plan for the table of a class that has none of its own: that of the mapped class it
extends. -/
def inherited : MappingPlan :=
  { style := .sharing, discriminator := none, identity := .null, attributes := [] }

/-- The attributes that the style itself declares, each one for the column of its name. -/
def usualNames (plan : MappingPlan) : List String :=
  match plan.style with
  | .table .. => ["id", "title"]
  | .joined _ | .concrete _ => ["id"]
  | .compound .. | .sharing => []

/-- The attributes that a class with the plan declares, each one with the name of its column. -/
def declared (plan : MappingPlan) : List (String × String) :=
  let usual := plan.usualNames.map fun name => (name, name)
  match plan.discriminator with
  | some d => Entries.assign usual d.member d.column
  | none => usual

/-- The key of a new table, unless the column that tells types apart has taken its place. -/
def key (plan : MappingPlan) : Option String :=
  if plan.discriminator.any (·.member = "id") then none else some "id"

def isConcrete (plan : MappingPlan) : Bool :=
  match plan.style with
  | .concrete _ => true
  | _ => false

/-- The type column that a plan puts into a table. -/
def ownType? (plan : MappingPlan) (table : Nat) : Option Column :=
  plan.discriminator.map fun d => ⟨table, d.column⟩

end MappingPlan

/-- Steps that place a class in a catalog; what they have done stays when a later one fails. -/
abbrev Placing := ExceptT Error (StateM Catalog)

namespace Placing

/-! ## Tables -/

def register (t : Table) : Placing Nat := do
  let catalog ← get
  match catalog.tables.register t with
  | .ok tables =>
    set { catalog with tables }
    return catalog.tables.list.length
  | .error e => throw e

def plainTable (plan : MappingPlan) (schema : Option String) (name : String)
    (reference : Option Column) : Placing Nat :=
  register {
    schema, name, shape := .plain
    columns := plan.declared.map Prod.snd
    key := plan.key
    reference := if plan.key.isSome then reference else none }

def compound (plan : MappingPlan) (name : String) (joins : Bool) : Placing Nat := do
  let table ← register {
    schema := none, name
    shape := if joins then .join else .subquery
    columns := ["id", "title"] ++ (if joins then ["bid"] else [])
    key := some "id", reference := none }
  match plan.discriminator with
  | some d => throw (.extraColumn d.column)
  | none => return table

/-- The column that the keys of a table below that of `parent` refer to.  A join has none of its
own. -/
def referred (parent : MappedClass) : Placing (Option Column) := do
  match (← get).tableOf parent with
  | some t =>
    if t.shape = .join then throw (.unknownAttribute "id")
    else return some ⟨parent.table, "id"⟩
  | none => return none

/-- The table of `parent`, with a further column for the types of rows. -/
def shared (plan : MappingPlan) (name : String) (parent : MappedClass) : Placing Nat := do
  let catalog ← get
  match plan.discriminator, catalog.tableOf parent with
  | some d, some t =>
    if t.shape ≠ .plain then throw (.undeclarable name parent.name)
    if t.columns.contains d.column then
      throw (.columnTaken d.column name (catalog.tables.label ⟨parent.table, d.column⟩))
    let tables := catalog.tables.addColumn parent.table d.column
    set { catalog with tables := tables.refreshed parent.source }
  | _, _ => pure ()
  return parent.table

/-- The table of a class, together with its place below `parent`. -/
def table (plan : MappingPlan) (name : String) (parent : Option MappedClass) :
    Placing (Nat × Lineage) := do
  match plan.style, parent with
  | .compound table joins, some p =>
    let number ← compound plan table joins
    return (number, .joined p.id)
  | .compound table joins, none =>
    let number ← compound plan table joins
    return (number, .root)
  | .joined table, some p =>
    let number ← plainTable plan none table (← referred p)
    return (number, .joined p.id)
  | .concrete table, some p =>
    let number ← plainTable plan none table none
    return (number, .concrete p.id)
  | .sharing, some p =>
    let number ← shared plan name p
    return (number, .sharing p.id)
  | .table schema table, _ =>
    let number ← plainTable plan schema table none
    return (number, .root)
  | .joined table, none | .concrete table, none =>
    let number ← plainTable plan none table none
    return (number, .root)
  | .sharing, none => throw (.unmapped name)

/-- Where the rows of a class come from.  A table that is added to those of the class above must
refer to them. -/
def source (number : Nat) (lineage : Lineage) (parent : Option MappedClass) : Placing Source := do
  let catalog ← get
  match lineage, parent with
  | .sharing _, some p => return p.source
  | .joined _, some p =>
    let own := catalog.tables.list[number]?
    if (own.bind Table.reference).isNone then
      throw (.unrelatedTables (((catalog.tableOf p).map Table.label).getD "")
        ((own.map Table.label).getD ""))
    let joins := catalog.tables.joins.length
    set { catalog with tables := catalog.tables.addJoin p.source number }
    return .join joins
  | _, _ => return .table number

/-! ## Properties -/

/-- The names of columns that a class leaves out: those that its parent does not map either, unless
the class declares them itself. -/
def excluded (catalog : Catalog) (plan : MappingPlan) (lineage : Lineage)
    (parent : Option MappedClass) : List String :=
  match parent with
  | none => []
  | some p =>
    if lineage.isConcrete then []
    else
      let unmapped :=
        (catalog.tables.columnsOf p.table).filter fun c => (p.propertyOf? c).isNone
      (unmapped.map Column.name ++ p.excluded).filter fun name =>
        !(plan.declared.map Prod.snd).contains name

/-- The properties that a plan names differently from their columns.  Columns that the parent has
under the name come behind the own one. -/
def renamed (plan : MappingPlan) (m : MappedClass) (parent : Option MappedClass) :
    List (String × Property) :=
  let above (name : String) : List Column :=
    if m.lineage.isConcrete then []
    else ((parent.bind fun p => p.properties.lookup name).map Property.columns).getD []
  (plan.declared.filter fun e => e.1 ≠ e.2).map fun e =>
    (e.1, ⟨⟨m.table, e.2⟩ :: above e.1, m.id⟩)

/-- Whether a class may hold two columns in one property because its table is joined by them: by its
key and what this refers to. -/
def isPair (catalog : Catalog) (m : MappedClass) (referred key : Column) : Bool :=
  match m.lineage, catalog.tableOf m with
  | .joined _, some t => t.reference = some referred && t.key.any fun name => key = ⟨m.table, name⟩
  | _, _ => false

def combining (catalog : Catalog) (old new : Column) (name : String) : Error :=
  .implicitCombination (catalog.tables.label old) (catalog.tables.label new) name

/-- What becomes of a property of the parent that the class itself has under a name, too. -/
def reconciled (catalog : Catalog) (m : MappedClass) (name : String) (above own : Property) :
    Except Error Property :=
  match above.columns, own.columns with
  | old :: _, new :: _ =>
    if m.lineage.isConcrete || own.columns.contains old then .ok own
    else if isPair catalog m new old || old = new then
      .ok ⟨new :: above.columns, above.owner⟩
    else .error (combining catalog ((above.columns.getLast?).getD old) new name)
  | _, _ => .ok own

/-- The class with a property of its parent.  A concrete class loses the attribute if the nearest
class above that has it is the one that has defined it, and keeps one that it was given. -/
def adopt (catalog : Catalog) (m : MappedClass) (name : String) (p : Property) : MappedClass :=
  if !m.lineage.isConcrete then { m with properties := Entries.assign m.properties name p }
  else if (m.attributes.lookup name).isSome then m
  else
    match catalog.property? m name with
    | some (c, q) =>
      if !q.isLost && c.id = p.owner then
        { m with properties := Entries.assign m.properties name ⟨[], m.id⟩ }
      else m
    | none => m

/-- The class while its properties are collected, with those that it has under names of its own. -/
structure Draft where
  cls : MappedClass
  own : List (String × Property)

/-- Takes over the properties of the parent. -/
def takeOver (catalog : Catalog) (d : Draft) : List (String × Property) → Except Error Draft
  | [] => .ok d
  | (name, above) :: rest =>
    if d.cls.shadows name || d.cls.excluded.contains name then takeOver catalog d rest
    else
      match d.own.lookup name with
      | some own => do
        let p ← reconciled catalog d.cls name above own
        takeOver catalog { d with own := Entries.assign d.own name p } rest
      | none => takeOver catalog { d with cls := adopt catalog d.cls name above } rest

/-- The name that a column gets: that of the property that holds it in the topmost class. -/
def columnName (catalog : Catalog) (m : MappedClass) (c : Column) : String :=
  ((catalog.ancestry m).foldl (fun name a => ((a.propertyOf? c).map Prod.fst).getD name) c.name)

/-- The property for a column.  One that is there already under the name must be that of another
class, or hold the other column of a pair. -/
def propertyFor (catalog : Catalog) (m : MappedClass) (name : String) (c : Column) :
    Except Error Property :=
  match m.properties.lookup name with
  | some old =>
    match old.columns with
    | [] => .ok ⟨[c], m.id⟩
    | first :: _ =>
      if isPair catalog m first c || first = c || old.owner ≠ m.id then
        .ok ⟨c :: old.columns, m.id⟩
      else .error (combining catalog ((old.columns.getLast?).getD first) c name)
  | none => .ok ⟨[c], m.id⟩

/-- Whether a class leaves out a column.  A column of its own table gives way to an attribute of the
class itself, any other one also to an attribute that the class takes over. -/
def omits (catalog : Catalog) (m : MappedClass) (c : Column) : Bool :=
  m.excluded.contains c.name ||
    (if c.table = m.table then m.shadows c.name else catalog.isShadowed m c.name)

/-- Gives every column a property. -/
def mapColumns (catalog : Catalog) (d : Draft) : List Column → Except Error MappedClass
  | [] => .ok d.cls
  | c :: rest =>
    let m := d.cls
    match d.own.find? fun e => e.2.columns.contains c with
    | some (name, p) =>
      let p : Property := { p with owner := m.id }
      mapColumns catalog
        { d with cls := { m with properties := Entries.assign m.properties name p } } rest
    | none =>
      if (m.propertyOf? c).isSome || omits catalog m c then mapColumns catalog d rest
      else do
        let name := columnName catalog m c
        let p ← propertyFor catalog m name c
        mapColumns catalog
          { d with cls := { m with properties := Entries.assign m.properties name p } } rest

/-- The type column of a class: its own, or else that of the nearest class above that has one, if
it is among the columns of the class. -/
def typeColumn (catalog : Catalog) (plan : MappingPlan) (m : MappedClass)
    (parent : Option MappedClass) : Option TypeColumn :=
  match (plan.ownType? m.table).bind m.propertyOf? with
  | some (member, p) => p.columns.head?.map (⟨·, member⟩)
  | none =>
    let above := (parent.map catalog.ancestry).getD []
    match above.find? fun c => c.typeColumn.isSome with
    | some c =>
      c.typeColumn.filter fun t =>
        c.source = m.source || (catalog.tables.columns m.source).contains t.column
    | none => none

def complete (catalog : Catalog) (plan : MappingPlan) (m : MappedClass)
    (parent : Option MappedClass) : Except Error MappedClass := do
  if m.identity.unhashable?.isSome then throw (.unhashable m.identity)
  let draft : Draft := { cls := m, own := renamed plan m parent }
  let draft ← takeOver catalog draft ((parent.map MappedClass.properties).getD [])
  let m ← mapColumns catalog draft (catalog.tables.columns m.source)
  let above := if m.lineage.isConcrete then none else parent
  let m := { m with
    typeColumn := typeColumn catalog plan m parent
    keys := (above.map MappedClass.keys).getD (catalog.tables.keys m.source) }
  if m.keys.isEmpty then
    throw (.noKeyColumn (catalog.label m) (((catalog.tableOf m).map Table.label).getD ""))
  .ok m

def keyClass (id : Nat) (plan : MappingPlan) (parent : Option MappedClass) : Nat :=
  match parent with
  | some p => if plan.identity.isNull || plan.isConcrete then id else p.keyClass
  | none => id

/-- Maps a class that extends `parent`, or none, and tells its number. -/
def place (plan : MappingPlan) (name : String) (parent : Option MappedClass) : Placing Nat := do
  let (number, lineage) ← table plan name parent
  let source ← source number lineage parent
  let catalog ← get
  let id := catalog.classes.length
  let bare : MappedClass :=
    { id, name, lineage, table := number, source, properties := []
      attributes := plan.attributes
      excluded := excluded catalog plan lineage parent
      typeColumn := none, identity := plan.identity, keys := []
      keyClass := keyClass id plan parent }
  let catalog := { catalog with classes := catalog.classes ++ [bare] }
  set catalog
  match complete catalog plan bare parent with
  | .ok m =>
    set { catalog with classes := catalog.classes.set id m }
    return id
  | .error e => throw e

end Placing

/-- Maps a class; the catalog may have changed even if this fails. -/
def Catalog.place (catalog : Catalog) (plan : MappingPlan) (name : String)
    (parent : Option Nat) : Except Error Nat × Catalog :=
  (Placing.place plan name (parent.bind catalog.find?)).run.run catalog

end NamedQuery
