import NamedQuery.Definition
import NamedQuery.Finder.Arguments
import NamedQuery.Finder.Call
import NamedQuery.Model.Creation
import NamedQuery.Spec

/-!
# Steps of a session

What can be asked for in a session, and what is answered.  Models are named by the names of their
classes.
-/

namespace NamedQuery

/-- The attribute of a class, or of an instance of it. -/
structure Target where
  model : String
  name : String
  ofInstance : Bool
deriving Repr

structure OwnFinder where
  model : String
  finder : String
deriving Repr

/-- Fields of a fixed backend that are changed. -/
structure BackendChange where
  table : Option String
  rows : Option (List Value)
  root : Option Bool
  predicate : Option (Option String)
  pagination : Option PaginationStyle
deriving Repr

/-- How the models that definitions may name are given. -/
inductive KnownModels where
  | classes (names : List String)
  /-- Each one under a name of its own. -/
  | named (entries : List (String × String))
deriving Repr

/-- A definition of a finder that is asked for. -/
structure Request where
  /-- The model that receives the finder, unless something else was given. -/
  model : Option String
  /-- What receives the finder instead. -/
  given : Option Value
  name : Value
  arity : Value
  options : Value
  /-- Whether the options are checked beforehand. -/
  checked : Bool
  /-- Whether the definition goes through the operation of the class, with options by keyword. -/
  through : Bool
deriving Repr

inductive Step where
  /-- Creates a class that may extend another one. -/
  | create (plan : ModelPlan) (parent : Option String)
  | define (request : Request)
  | call (target : Target) (args : Arguments) (stored : List StoredRow)
  | preview (target : Target) (args : Arguments)
  | render (finder : OwnFinder) (args : Arguments)
  | bind (finder : OwnFinder) (args : Arguments)
  | finders (model : String)
  | has (model name : String)
  | describe (target : Target)
  /-- Asks an instance for a finder, where only the name is looked for in its class. -/
  | describeBound (model name : String)
  | compare (a b : OwnFinder)
  | change (model : String) (changes : BackendChange)
  | contract (model : String)
  /-- Writes a file, if there is a text, and reads definitions. -/
  | load (file : String) (text : Option String) (path : Option String)
      (configured : Option String)
  /-- Defines the finders of a document, or those that were read last. -/
  | apply (document : Option Value) (known : KnownModels)
deriving Repr

structure Description where
  model : String
  finder : Finder
deriving Repr

/-- What a backend says about its model. -/
structure Contract where
  tableName : Except Error String
  isHierarchyRoot : Bool
  typeRestriction : Except Error (Option String)

structure Comparison where
  equal : Bool
  sameHash : Bool
  identical : Bool
deriving Repr

inductive Outcome where
  | done
  | finder (f : Finder)
  | finders (fs : List Finder)
  /-- Names with statements. -/
  | statements (entries : List (String × String))
  | answer (a : Answer)
  | value (v : Value)
  | text (s : String)
  | bindings (b : Bindings)
  | truth (b : Bool)
  | description (d : Description)
  | comparison (c : Comparison)
  | contract (c : Contract)
  | definitions (ds : List Definition)

namespace Description

def label (d : Description) : String := d.model ++ "." ++ d.finder.name

def doc (d : Description) : String := d.finder.arity.word ++ ": " ++ d.finder.sql

def display (d : Description) : String := "<finder " ++ d.label ++ d.finder.signature ++ ">"

end Description

def BackendChange.applyTo (c : BackendChange) (f : FixedBackend) : FixedBackend :=
  { table := c.table.getD f.table
    rows := c.rows.getD f.rows
    root := c.root.getD f.root
    predicate := c.predicate.getD f.predicate
    pagination := c.pagination.getD f.pagination }

end NamedQuery
