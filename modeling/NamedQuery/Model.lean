import NamedQuery.Backend.Fixed
import NamedQuery.Backend.Mapped
import NamedQuery.Entries
import NamedQuery.Finder
import NamedQuery.Model.Nature
import NamedQuery.Prefetch

/-!
# Models

A model is a class that finders can be attached to.  It has attributes of its own and those of the
classes it extends; what it has attached is also kept in a table of its own.
-/

namespace NamedQuery

inductive Member where
  | finder (f : Finder)
  | value (v : Value)
  | operation (o : Operation)
  /-- The operation that lists a class and those it extends. -/
  | lineage
  /-- An operation of its own that changes the options of finders. -/
  | hook (rule : PrefetchRule)
  /-- The attribute of the class `owner` for a column. -/
  | column (owner : String)
  /-- The attribute for a column that the table of the class `owner`, with this label, lacks. -/
  | unmapped (owner label : String)
  | inherent (typeName : String)
  | cls (name : String)
deriving Repr

namespace Member

/-- The name of the kind of an attribute that a class has. -/
def typeName : Member → String
  | finder _ => "BoundFinder"
  | value v => v.longTypeName
  | operation _ => "function"
  | lineage => "builtin_function_or_method"
  | hook _ => "function"
  | column _ => "InstrumentedAttribute"
  | unmapped .. => "NoninheritedConcretePropProxy"
  | inherent typeName => typeName
  | cls _ => "type"

/-- Why an attribute with a name has not what it was asked for. -/
def lacks (name : String) (member : Member) (next : String) : Error :=
  match member with
  | column owner => .missingOnColumn "InstrumentedAttribute" (owner ++ "." ++ name) next
  | unmapped owner _ => .missingOnColumn "NoninheritedConcreteProp" (owner ++ "." ++ name) next
  | cls name => .missingAttribute (.ofClass name) next
  | member => .missingAttribute (.ofObject member.typeName) next

end Member

structure Model where
  id : Nat
  name : String
  ancestors : List Nat
  offersFinders : Bool
  prefetches : Bool
  backend : Option FixedBackend
  /-- The number of the mapped class that it is, if it is one. -/
  mapping : Option Nat
  /-- The attributes of its own, apart from those for columns. -/
  members : List (String × Member)
  /-- The finders defined on the class, in the order in which their names were first used. -/
  finders : List (String × Finder)
deriving Repr

namespace Model

def attach (m : Model) (f : Finder) : Model :=
  { m with
    members := Entries.assign m.members f.name (.finder f)
    finders := Entries.assign m.finders f.name f }

def member? (m : Model) (name : String) : Option Member := m.members.lookup name

/-- The attributes that come with what a class offers and takes part in. -/
def offered (m : Model) : List (String × Member) :=
  (if m.offersFinders then
    [("finder_backend", .operation .backend), ("define_finder", .operation .define),
      ("finders", .operation .finders)]
  else []) ++
  (if m.prefetches then [("apply_prefetch", .operation .prefetch)] else [])

/-- The name of the kind of class that it is. -/
def kind (m : Model) : String :=
  if m.mapping.isSome then "DeclarativeAttributeIntercept" else "type"

/-- The name of the class that a class without a parent is made from. -/
def baseName (m : Model) : String :=
  if m.offersFinders then "FinderMixin"
  else if m.mapping.isSome then "Base"
  else if m.prefetches then "PrefetchCapable" else "object"

end Model

/-- All models, each one at the place of its id, and the classes among them that are mapped to
tables. -/
structure Models where
  list : List Model
  catalog : Catalog
deriving Repr

namespace Models

def empty : Models := ⟨[], Catalog.empty⟩

def get? (ms : Models) (id : Nat) : Option Model := ms.list[id]?

/-- The model with a name that was created last. -/
def find? (ms : Models) (name : String) : Option Model := ms.list.reverse.find? (·.name = name)

def mappedClass? (ms : Models) (m : Model) : Option MappedClass := m.mapping.bind ms.catalog.find?

def column? (ms : Models) (m : Model) (name : String) : Option Member := do
  let c ← ms.mappedClass? m
  let p ← c.properties.lookup name
  if p.isLost then
    let owner := (ms.catalog.find? p.owner).getD c
    some (.unmapped owner.name (ms.catalog.label owner))
  else some (.column m.name)

def ownMember? (ms : Models) (m : Model) (name : String) : Option Member :=
  (ms.column? m name).orElse fun _ => m.member? name

/-- A class and those it extends, the nearest first. -/
def chain (ms : Models) (m : Model) : List Model := m :: m.ancestors.filterMap ms.get?

/-- The attribute that the classes of the chain have themselves under a name, and the class that has
it. -/
def source? (ms : Models) (m : Model) (name : String) : Option (Model × Member) :=
  (ms.chain m).findSome? fun c => (ms.ownMember? c name).map (c, ·)

/-- The attributes that a mapped class has by its nature. -/
def ofMapping (ms : Models) (m : Model) : List (String × Member) :=
  match ms.mappedClass? m with
  | none => []
  | some c =>
    let shape := ((ms.catalog.tableOf c).map Table.shape).getD .plain
    let table := match shape with
      | .plain => "Table"
      | .join => "Join"
      | .subquery => "Subquery"
    [("metadata", .inherent "MetaData"), ("registry", .inherent "registry"),
      ("__mapper__", .inherent "Mapper"), ("__table__", .inherent table),
      ("_sa_registry", .inherent "registry"), ("_sa_class_manager", .inherent "ClassManager"),
      ("__class_getitem__", .inherent "method"), ("__init__", .inherent "function"),
      ("__orig_bases__", .inherent "tuple"), ("__parameters__", .inherent "tuple"),
      ("_is_protocol", .inherent "bool")] ++
    (if shape = .plain then [("__tablename__", .inherent "str")] else [])

/-- The attribute that a class and its instances share under a name. -/
def sharedAttribute? (ms : Models) (m : Model) (name : String) : Option Member :=
  ((ms.source? m name).map Prod.snd).orElse fun _ =>
    (m.offered ++ ms.ofMapping m).lookup name

/-- The class that the nearest class above is, or what takes its place. -/
def base (ms : Models) (m : Model) : String :=
  ((m.ancestors.head?.bind ms.get?).map Model.name).getD m.baseName

def natural (ms : Models) (m : Model) : List (String × Member) :=
  [("mro", .lineage), ("__base__", .cls (ms.base m)),
    ("__class__", .cls m.kind)] ++
  Nature.ofClass.map fun e => (e.1, .inherent e.2)

def attribute? (ms : Models) (m : Model) (name : String) : Option Member :=
  (ms.sharedAttribute? m name).orElse fun _ => (ms.natural m).lookup name

/-- The identity that an instance of a class holds in the attribute for the column that tells types
apart, if this is the attribute with a name. -/
def typeHeld? (ms : Models) (m : Model) (name : String) : Option Value :=
  (ms.mappedClass? m).bind fun c =>
    if c.typeColumn.any (·.member = name) then some c.identity else none

/-- What an instance of a class has for an attribute of the class.  A new instance holds nothing in
its columns but the identity of its type, which it holds even where another attribute hides the
column. -/
def onInstance (ms : Models) (m : Model) (name : String) (member : Member) : Except Error Member :=
  match ms.typeHeld? m name, member with
  | _, .unmapped _ label => .error (.notMapped label name)
  | some identity, _ => .ok (.value identity)
  | none, .column _ => .ok (.value .null)
  | none, member => .ok member

/-- The attribute that the instances of a class have under a name, if there is one. -/
def instanceAttribute? (ms : Models) (m : Model) (name : String) :
    Except Error (Option Member) :=
  match ms.sharedAttribute? m name with
  | some member => (ms.onInstance m name member).map some
  | none =>
    if name = "__class__" then .ok (some (.cls m.name))
    else .ok ((Nature.ofInstance.lookup name).map .inherent)

def newInstance (ms : Models) (m : Model) : Except Error Row := do
  let held (name : String) : Except Error Value := do
    match ← ms.instanceAttribute? m name with
    | some (.value v) => .ok v
    | _ => .ok .null
  if m.mapping.isSome then
    let id ← held "id"
    let title ← held "title"
    .ok (.entity m.name id title)
  else .ok (.value (.object m.name))

/-- The classes that extend a class directly, in the order of their creation. -/
def heirs (ms : Models) (m : Model) : List Model :=
  ms.list.filter fun c => c.ancestors.head? = some m.id

/-- The finder that an instance of a class gets from what the class has under a name, where only the
name is looked for and what is found is bound to the instance. -/
def bound (ms : Models) (m : Model) (name : String) : Except Error Finder :=
  let lacking (typeName next : String) : Except Error Finder :=
    .error (.missingAttribute (.ofObject typeName) next)
  match ms.sharedAttribute? m name with
  | some (.finder f) => .ok f
  | some (.operation _) | some (.hook _) | some (.inherent "function")
  | some (.inherent "method") => lacking "function" "model"
  | some (.column _) => .error (.ownerMissing "InstrumentedAttribute")
  | some (.unmapped ..) => .error (.ownerMissing "create_proxied_attribute.<locals>.Proxy")
  | some member => lacking member.typeName "__get__"
  | none =>
    if name = "__class__" then .error (.missingAttribute (.ofClass m.name) "model")
    else if name = "__base__" || name = "mro" || (Nature.ofClassAlone.lookup name).isSome then
      .error (.notForInstances name m.name)
    else
      match Nature.unbound.lookup name, Nature.ofInstance.lookup name with
      | some typeName, _ => lacking typeName "__get__"
      | none, some typeName => lacking typeName "model"
      | none, none => .error (.unknownAttribute name)

/-- The kinds of the classes that a class goes through for its attributes, itself included.  A
mapped class goes through the common base of all mapped classes and the three classes behind it. -/
def lineage (ms : Models) (m : Model) : List String :=
  (ms.chain m).map Model.kind ++ (if m.offersFinders then ["type"] else []) ++
    (if m.mapping.isSome then [m.kind, m.kind, "type", "type"] else []) ++
    (if m.prefetches then ["type"] else []) ++ ["type"]

/-- The backend that a class brings along or takes over.  Only classes that offer finders do. -/
def fixedBackend? (ms : Models) (m : Model) : Option FixedBackend :=
  if m.offersFinders then
    match ms.source? m "finder_backend" with
    | some (owner, .operation _) => owner.backend
    | _ => none
  else none

def mappedBackend (ms : Models) (dialect : Dialect) (stored : List StoredRow) (m : Model) :
    Except Error Backend :=
  match ms.mappedClass? m with
  | some c => .ok (ms.catalog.toBackend dialect stored c)
  | none => .error (.unmapped m.name)

/-- The backend of a class: its own, or else the one for its table.  A finder in the place of the
operation that gives the backend would need the backend itself. -/
def backendOf (ms : Models) (dialect : Dialect) (stored : List StoredRow) (m : Model) :
    Except Error Backend :=
  match ms.fixedBackend? m with
  | some f => .ok f.toBackend
  | none =>
    if m.offersFinders then
      match ms.source? m "finder_backend" with
      | some (_, .value v) => .error (.notCallable v.longTypeName)
      | some (_, .finder _) => .error .endless
      | _ => ms.mappedBackend dialect stored m
    else ms.mappedBackend dialect stored m

/-- Puts a model in the place of the one with its id. -/
def replace (ms : Models) (m : Model) : Models := { ms with list := ms.list.set m.id m }

end Models

end NamedQuery
