import NamedQuery.Backend
import NamedQuery.Mapping
import NamedQuery.Text.Colons

/-!
# Backends of mapped classes

The backend of a class that is mapped to a table: it quotes and paginates in the dialect of its
engine and turns the rows that a statement answers with into instances of the classes of the
hierarchy.
-/

namespace NamedQuery

structure StoredRow where
  id : Value
  discriminator : Value
  title : Value
deriving Repr

abbrev Field := StoredRow → Value

namespace StoredRow

def holds (n : Int) : Bool := -9223372036854775808 ≤ n && n ≤ 9223372036854775807

/-- The value as the database gives it back: it has no truth values. -/
def storedValue : Value → Except Error Value
  | .bool b => .ok (.int (if b then 1 else 0))
  | .int n => if holds n then .ok (.int n) else .error .beyondDatabase
  | .float x => .ok (if x = .nan then .null else .float x)
  | v => .ok v

def read (row : StoredRow) : Except Error StoredRow := do
  let id ← storedValue row.id
  let discriminator ← storedValue row.discriminator
  let title ← storedValue row.title
  .ok ⟨id, discriminator, title⟩

end StoredRow

/-- What is needed to make instances of the class that rows were asked for. -/
structure Loader where
  catalog : Catalog
  asked : MappedClass
  /-- The columns of the class that rows have values for. -/
  fields : List (Column × Field)

namespace Loader

/-- The names of the columns of a row.  The second one is called like the column that tells types
apart. -/
def fieldNames (m : MappedClass) : List (String × Field) :=
  [("id", StoredRow.id),
    ((m.typeColumn.map fun t => t.column.name).getD "kind", StoredRow.discriminator),
    ("title", StoredRow.title)]

/-- The loader for a class: only columns of the class itself are looked for in rows. -/
def ofClass (catalog : Catalog) (m : MappedClass) : Loader :=
  { catalog, asked := m
    fields := (m.properties.flatMap fun e => e.2.columns).filterMap fun c =>
      ((fieldNames m).lookup c.name).map (c, ·) }

/-- The value that rows have for a column, which must be among theirs. -/
def need (l : Loader) (c : Column) : Except Error Field :=
  match l.fields.lookup c with
  | some field => .ok field
  | none => .error (.missingColumn (l.catalog.tables.label c))

/-- The values of the keys of a class. -/
def keyFields (l : Loader) (m : MappedClass) : Except Error (List Field) :=
  if m.keys.isEmpty then .error (.missingAttribute (.ofObject "Mapper") "primary_key")
  else m.keys.mapM l.need

/-- The value that tells the types of rows apart, if there is any type to be told. -/
def typeField (l : Loader) : Except Error (Option (TypeColumn × Field)) :=
  match l.asked.typeColumn with
  | some t =>
    if l.catalog.hasIdentities l.asked then (l.need t.column).map fun field => some (t, field)
    else .ok none
  | none => .ok none

/-- What an instance of a class that was made from a row has for a property. -/
def propertyValue (l : Loader) (m : MappedClass) (row : StoredRow) (name : String) (p : Property) :
    Except String Value :=
  if p.isLost then .error ((((l.catalog.find? p.owner).map l.catalog.label)).getD "")
  else
    let columns := ((m.properties.lookup name).map Property.columns).getD []
    .ok ((columns.findSome? fun c => (l.fields.lookup c).map fun field => field row).getD .null)

/-- What an instance of a class that was made from a row has for an attribute; an error if the class
has lost it. -/
def shownValue (l : Loader) (m : MappedClass) (row : StoredRow) (name : String) :
    Except String Value :=
  let held (c : MappedClass) : Option (Except String Value) :=
    match c.properties.lookup name with
    | some p => some (l.propertyValue m row name p)
    | none => (c.attributes.lookup name).map .ok
  ((l.catalog.ancestry m).findSome? held).getD (.ok .null)

def entity (l : Loader) (m : MappedClass) (row : StoredRow) : Row :=
  match l.shownValue m row "id", l.shownValue m row "title" with
  | .ok id, .ok title => .entity m.name id title
  | .error label, _ => .lost m.name label "id"
  | _, .error label => .lost m.name label "title"

/-- An instance that was made from an earlier row. -/
structure Loaded where
  keyClass : Nat
  key : List Value
  row : Row

def sameKey (a b : List Value) : Bool :=
  a.length = b.length && (a.zip b).all fun e => Value.same e.1 e.2

/-- The instance of a class that a row stands for, and all instances so far.  Of several rows with
one key, the first one counts; a row without a key is no instance. -/
def instanceOf (l : Loader) (m : MappedClass) (keys : List Field) (loaded : List Loaded)
    (row : StoredRow) : Row × List Loaded :=
  let key := keys.map fun field => field row
  match loaded.find? fun old => old.keyClass = m.keyClass && sameKey old.key key with
  | some old => (old.row, loaded)
  | none =>
    if key.all Value.isNull then (.value .null, loaded)
    else
      let new := l.entity m row
      (new, ⟨m.keyClass, key, new⟩ :: loaded)

/-- What is told of a row that is no instance of the class that was asked for; a row without a key
is none of any class. -/
def misplaced (l : Loader) (t : TypeColumn) (keys : List Field) (row : StoredRow)
    (cause : MisplacedRow → Error) : Except Error Row :=
  let key := keys.map fun field => field row
  if key.all Value.isNull then .ok (.value .null)
  else
    .error (cause {
      keyClass := ((l.catalog.find? l.asked.keyClass).map MappedClass.name).getD ""
      id := key.head?.getD .null
      column := l.catalog.tables.label t.column })

/-- What a row stands for whose type is told by a column. -/
def typed (l : Loader) (t : TypeColumn) (type : Field) (keys : List Field) (loaded : List Loaded)
    (row : StoredRow) : Except Error (Row × List Loaded) := do
  let v := type row
  if v.isNull then
    let found ← l.misplaced t keys row .rowWithoutType
    .ok (found, loaded)
  else
    match l.catalog.withIdentity? l.asked v with
    | none => .error (.unknownIdentity v)
    | some m =>
      if m.id = l.asked.id then .ok (l.instanceOf l.asked keys loaded row)
      else if (l.catalog.ancestry m).any (·.id = l.asked.id) then do
        let keys ← l.keyFields m
        .ok (l.instanceOf m keys loaded row)
      else do
        let found ← l.misplaced t keys row fun r =>
          .rowOfOtherType r (l.catalog.label m) (l.catalog.label l.asked)
        .ok (found, loaded)

def loadWith (one : List Loaded → StoredRow → Except Error (Row × List Loaded))
    (loaded : List Loaded) : List StoredRow → Except Error (List Row)
  | [] => .ok []
  | row :: rest => do
    let (first, loaded) ← one loaded row
    let others ← loadWith one loaded rest
    .ok (first :: others)

/-- Turns rows into instances of the class that was asked for and of those below it. -/
def load (l : Loader) (rows : List StoredRow) : Except Error (List Row) := do
  let keys ← l.keyFields l.asked
  match ← l.typeField with
  | some (t, type) => loadWith (l.typed t type keys) [] rows
  | none => loadWith (fun loaded row => .ok (l.instanceOf l.asked keys loaded row)) [] rows

end Loader

namespace Catalog

/-- The backend of a mapped class; `stored` are the rows that the database answers with. -/
def toBackend (catalog : Catalog) (dialect : Dialect) (stored : List StoredRow) (m : MappedClass) :
    Backend where
  quote := dialect.quote
  paginate := dialect.paginate
  tableName := catalog.tableName m
  isHierarchyRoot := m.lineage.parent?.isNone
  typeRestriction := catalog.typeRestriction dialect m
  run sql := do
    Traced.emit (.executed (Text.submitted sql).1)
    let stored ← Traced.ofExcept (stored.mapM StoredRow.read)
    let rows ← Traced.ofExcept ((Loader.ofClass catalog m).load stored)
    Traced.log (.rowsMapped rows.length m.name)
    pure rows

end Catalog

end NamedQuery
