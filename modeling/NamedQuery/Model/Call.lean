import NamedQuery.Model
import NamedQuery.Finder.Call

/-!
# Calling finders through models

A finder that is reached through a class, or through an instance of it, runs on the backend of that
class, wherever it was defined.
-/

namespace NamedQuery

/-- What all models have in common when a finder is used: the dialect of the shared engine and the
settings, which may be unreadable. -/
structure Surroundings where
  dialect : Dialect
  settings : Except Error Settings

namespace Models

/-- The name of a finder in the log, behind that of the class it is called on. -/
def label (m : Model) (f : Finder) : String := m.name ++ "." ++ f.name

/-- Calls a finder on a class; `stored` are the rows that a database would answer with. -/
def call (ms : Models) (here : Surroundings) (stored : List StoredRow) (m : Model) (f : Finder)
    (args : Arguments) : Traced Answer := do
  Traced.ofExcept (Entrance.call.checkKeywords args.keywords)
  let backend ← Traced.ofExcept (ms.backendOf here.dialect stored m)
  f.run here.settings (label m f) backend args

def preview (ms : Models) (dialect : Dialect) (m : Model) (f : Finder) (args : Arguments) :
    Traced String := do
  Traced.ofExcept (Entrance.preview.checkKeywords args.keywords)
  let backend ← Traced.ofExcept (ms.backendOf dialect [] m)
  f.render backend args

/-- Leaves out the values that a class has quoted, unless its fixed backend saw them. -/
def reported {α : Type} (ms : Models) (m : Model) (t : Traced α) : Traced α :=
  if (ms.fixedBackend? m).isSome then t else t.withoutQuoted

end Models

end NamedQuery
