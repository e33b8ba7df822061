import NamedQuery.Finder.Arguments
import NamedQuery.Log.Statement

/-!
# Running finders

A call fills the slots of the template with quoted values, reports the statement, runs it and shapes
the rows: a finder for a single row answers with the first one, if there is any, the others with all
rows.  A preview stops before the statement is reported.
-/

namespace NamedQuery

inductive Answer where
  | first (row : Option Row)
  | all (rows : List Row)
deriving Repr

/-- Why an answer cannot be shown. -/
def Answer.fault? : Answer → Option Error
  | first row => row.bind Row.fault?
  | all rows => rows.findSome? Row.fault?

/-- The names of the parameters of an operation.  The first one stands for the class itself, which
no call gives. -/
def Operation.ownNames : Operation → List String
  | define => ["cls", "name", "arity"]
  | finders => ["cls"]
  | backend => ["cls"]
  | prefetch => ["cls", "options"]

/-- Whether an operation takes keywords beside its own names. -/
def Operation.takesOthers (o : Operation) : Bool := o = define

/-- The values that a call gives the parameters of an operation, and the other keywords. -/
def Operation.bind (o : Operation) (a : Arguments) :
    Except Error (List Value × List (String × Value)) := do
  let given := o.ownNames.take (a.positional.length + 1)
  let left := o.ownNames.drop (a.positional.length + 1)
  a.keywords.forM fun e =>
    if given.contains e.1 then .error (.repeatedArgument (.operation o) e.1)
    else if left.contains e.1 || o.takesOthers then .ok ()
    else .error (.unexpectedArgument o e.1)
  if o.ownNames.length ≤ a.positional.length then
    throw (.excessArguments o o.ownNames.length (a.positional.length + 1))
  let missing := left.filter fun name => (Arguments.keyword? a.keywords name).isNone
  if missing.isEmpty then
    .ok (a.positional ++ left.filterMap (Arguments.keyword? a.keywords),
      a.keywords.filter fun e => !left.contains e.1)
  else .error (.missingArguments o missing)

/-- The names that are taken beside the arguments of a finder.  No keyword can have them. -/
def Entrance.ownNames : Entrance → List String
  | operation o => o.ownNames
  | call => ["self"]
  | preview => ["self"]
  | render => ["self", "backend"]

/-- Refuses the first keyword that there is already a value for. -/
def Entrance.checkKeywords (entrance : Entrance) (keywords : List (String × Value)) :
    Except Error Unit :=
  match keywords.find? fun e => entrance.ownNames.contains e.1 with
  | some e => .error (.repeatedArgument entrance e.1)
  | none => .ok ()

namespace Finder

def valueAt (f : Finder) (s : Slot) : Bindings → Except Error Value
  | .row values =>
    match values[s.position.toNat]? with
    | some v => .ok v
    | none => .error (.missingValue f.name s.name)
  | .mapping entries =>
    match Value.lookup (.str s.name) entries with
    | some v => .ok v
    | none => .error (.missingValue f.name s.name)

/-- The literal for a slot.  That the value was quoted is noted even if it has no literal. -/
def resolve (f : Finder) (backend : Backend) (bindings : Bindings) (s : Slot) : Traced String := do
  let v ← Traced.ofExcept (f.valueAt s bindings)
  Traced.emit (.quoted v)
  Traced.ofExcept (backend.quote v)

def fill (f : Finder) (backend : Backend) (bindings : Bindings) : Traced String :=
  f.template.render (f.resolve backend bindings)

def render (f : Finder) (backend : Backend) (a : Arguments) : Traced String := do
  Traced.ofExcept (Entrance.render.checkKeywords a.keywords)
  let bindings ← Traced.ofExcept (f.bindArguments a)
  f.fill backend bindings

/-- The rows as the arity asks for. -/
def shape (f : Finder) (rows : List Row) : Answer :=
  match f.arity with
  | .single => .first rows.head?
  | .many => .all rows

/-- Runs the statement for the arguments; `label` names the finder in the log.  Between rendering
and running the settings are asked for, and the run fails there if they cannot be read. -/
def run (f : Finder) (settings : Except Error Settings) (label : String) (backend : Backend)
    (a : Arguments) : Traced Answer := do
  let sql ← f.render backend a
  Traced.announce settings label sql
  let rows ← backend.run sql
  Traced.log (.returned label rows.length)
  pure (f.shape rows)

end Finder

end NamedQuery
