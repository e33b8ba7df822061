import NamedQuery.Template

/-!
# Backends

What a finder needs from the side of the database.  A backend is bound to one model: it knows the
table of the model and its place in a hierarchy of types, writes values and bounds in its own
dialect and runs statements.
-/

namespace NamedQuery

/-- One row that a statement answers with. -/
inductive Row where
  | value (v : Value)
  | entity (model : String) (id title : Value)
  /-- An instance of a model that has lost an attribute to show; the class with this label has none
  of its own. -/
  | lost (model label member : String)
deriving Repr

/-- Why a row cannot be shown. -/
def Row.fault? : Row → Option Error
  | lost _ label member => some (.notMapped label member)
  | _ => none

structure Backend where
  quote : Value → Except Error String
  paginate : Template → Option Template → Option Template → Template
  /-- The table that a statement reads from unless it names others. -/
  tableName : Except Error String
  isHierarchyRoot : Bool
  /-- The condition that holds for the rows of the model only, where its table holds others too. -/
  typeRestriction : Except Error (Option String)
  run : String → Traced (List Row)

end NamedQuery
