import NamedQuery.Backend
import NamedQuery.Text.Doubled

/-!
# Backends with fixed answers

A backend that needs no database: every answer it gives is one of its fields.  It serves models that
bring their own rows, and shows what a finder asks of a backend.
-/

namespace NamedQuery

inductive PaginationStyle where
  /-- `LIMIT l OFFSET o`. -/
  | suffix
  /-- The same, around the statement as a subquery. -/
  | wrap
  /-- `LIMIT o, l`. -/
  | comma
deriving DecidableEq, Repr

structure FixedBackend where
  table : String
  rows : List Value
  root : Bool
  predicate : Option String
  pagination : PaginationStyle
deriving Repr

namespace FixedBackend

def standard : FixedBackend :=
  { table := "recipes", rows := [], root := true, predicate := none, pagination := .suffix }

/-- Numbers, truth values and nothing have words of their own; all else is quoted text. -/
def literal : Value → String
  | .null => "NULL"
  | .bool b => if b then "TRUE" else "FALSE"
  | .int n => toString n
  | .float x => x.toText
  | v => Text.enclosed (Text.doubled (· = '\'') v.text.toList)

def boundText (keyword : String) : Option Template → Template
  | some t => Template.literal keyword ++ t
  | none => Template.empty

def suffixed (t : Template) (limit offset : Option Template) : Template :=
  t ++ boundText " LIMIT " limit ++ boundText " OFFSET " offset

def paginate (style : PaginationStyle) (t : Template) (limit offset : Option Template) : Template :=
  match style, limit, offset with
  | .suffix, limit, offset => suffixed t limit offset
  | .wrap, limit, offset =>
    suffixed (Template.literal "SELECT * FROM (" ++ t ++ Template.literal ") q") limit offset
  | .comma, some l, some o =>
    t ++ Template.literal " LIMIT " ++ o ++ Template.literal ", " ++ l
  | .comma, limit, offset => suffixed t limit offset

def toBackend (f : FixedBackend) : Backend where
  quote v := v.written literal
  paginate := paginate f.pagination
  tableName := .ok f.table
  isHierarchyRoot := f.root
  typeRestriction := .ok f.predicate
  run sql := do
    Traced.emit (.executed sql)
    pure (f.rows.map .value)

end FixedBackend

end NamedQuery
