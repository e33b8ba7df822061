import NamedQuery.Backend
import NamedQuery.Options
import NamedQuery.Template.Binder

/-!
# Assembly of statements

A statement is put together from clauses in a fixed order: SELECT, FROM, JOIN, WHERE, GROUP BY,
ORDER BY, limit and offset.  The first three are copied as they are; the others are scanned for
markers, all by one binder, which therefore ends up with the parameters in the order of their first
appearance.
-/

namespace NamedQuery

/-- What a prefetch hook makes of options. -/
inductive HookAnswer where
  | options (c : Clauses)
  | other (v : Value)

/-- A hook that may replace the options of a finder before its statement is assembled.  What it does
on the way is told like everything else. -/
abbrev Hook := Options → Traced HookAnswer

namespace Clauses

/-- A clause that is copied as it is; an absent one adds nothing. -/
def verbatim (clause : Value) : Except Error (List Template) :=
  if clause.truthy then
    match clause.content? with
    | some c => .ok [Template.ofContent c]
    | none => .error (.unsupportedPart clause)
  else .ok []

/-- A clause whose markers become slots; an absent one adds nothing. -/
def scanned (clause : Value) (b : Binder) : Except Error (List Template × Binder) :=
  if clause.truthy then
    match clause.content? with
    | some c => .ok ([(b.bindContent c).1], (b.bindContent c).2)
    | none => .error (.notScannable clause)
  else .ok ([], b)

def selectClause (c : Clauses) : Template :=
  Template.literal "SELECT " ++ Template.ofContent (c.select.orElse (.str "*")).content

/-- The table of the backend is asked for only if the options name none. -/
def tablesClause (c : Clauses) (backend : Backend) : Except Error Template :=
  if c.tables.truthy then .ok (Template.literal "FROM " ++ Template.ofContent c.tables.content)
  else backend.tableName.map fun name => Template.literal "FROM " ++ Template.literal name

/-- The restriction to the type of the model; the root of a hierarchy needs none. -/
def restriction (backend : Backend) : Except Error (List Template) :=
  if backend.isHierarchyRoot then .ok []
  else
    backend.typeRestriction.map fun
      | some s => if s.isEmpty then [] else [Template.literal s]
      | none => []

def parenthesized (t : Template) : Template := Template.literal "(" ++ t ++ Template.literal ")"

/-- All conditions, each one in parentheses; without a condition there is no clause. -/
def whereClause (conditions : List Template) : List Template :=
  if conditions.isEmpty then []
  else
    [Template.literal "WHERE " ++
      Template.join (Template.literal " AND ") (conditions.map parenthesized)]

/-- A clause that begins with a keyword. -/
def headed (keyword : String) (clause : List Template) : List Template :=
  clause.map (Template.literal keyword ++ ·)

/-- A limit or an offset; here even empty text counts. -/
def bound (v : Value) (b : Binder) : Except Error (Option Template × Binder) :=
  if v.isNull then .ok (none, b)
  else v.written fun v => (some (b.bindContent v.content).1, (b.bindContent v.content).2)

def body (c : Clauses) (backend : Backend) (b : Binder) :
    Except Error (List Template × Binder) := do
  let tables ← c.tablesClause backend
  let joins ← verbatim c.joins
  let (conditions, b) ← scanned c.conditions b
  let restriction ← restriction backend
  let (group, b) ← scanned c.group b
  let (order, b) ← scanned c.order b
  .ok (c.selectClause :: tables :: joins ++ whereClause (conditions ++ restriction) ++
    headed "GROUP BY " group ++ headed "ORDER BY " order, b)

/-- The template of the statement, and the binder that knows its parameters. -/
def statement (c : Clauses) (backend : Backend) (b : Binder) :
    Except Error (Template × Binder) := do
  let (clauses, b) ← c.body backend b
  let t := Template.join (Template.literal " ") clauses
  let (limit, b) ← bound c.limit b
  let (offset, b) ← bound c.offset b
  .ok (if limit.isNone && offset.isNone then t else backend.paginate t limit offset, b)

end Clauses

namespace Options

/-- The clauses in effect for a model: those of the options, or what the hook makes of them. -/
def prefetched (o : Options) (model : String) : Option Hook → Traced Clauses
  | none => pure o.clauses
  | some hook => do
    match ← hook o with
    | .options c =>
      Traced.log (.prefetched model)
      pure c
    | .other v => Traced.fail (.hookAnswer model v)

/-- Assembles the statement of a finder of `model`. -/
def assemble (o : Options) (model : String) (hook : Option Hook) (backend : Backend) (b : Binder) :
    Traced (Template × Binder) := do
  let c ← o.prefetched model hook
  Traced.ofExcept (c.statement backend b)

end Options

end NamedQuery
