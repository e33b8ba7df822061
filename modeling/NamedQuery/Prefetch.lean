import NamedQuery.Statement

/-!
# Prefetch rules

Hooks as data: what a model does with the options of a finder before the statement is assembled.  A
rule may put any value into a clause; nothing is checked again.  It has no effects of its own: it
changes no model, asks for no settings and leaves nothing in the trace.
-/

namespace NamedQuery

inductive PrefetchRule where
  | update (changes : List (String × Value))
  | columns
  /-- Answers with a value that is no option set. -/
  | answer (v : Value)
deriving Repr

namespace PrefetchRule

/-- Replaces one clause; the name of no clause has no effect. -/
def replace (c : Clauses) (field : String) (v : Value) : Clauses :=
  match field with
  | "select" => { c with select := v }
  | "from_" => { c with tables := v }
  | "joins" => { c with joins := v }
  | "conditions" => { c with conditions := v }
  | "group" => { c with group := v }
  | "order" => { c with order := v }
  | "limit" => { c with limit := v }
  | "offset" => { c with offset := v }
  | _ => c

/-- The items of a collection: a text has its characters, a mapping its keys. -/
def itemsOf (collection : Value) : Except Error (List Value) :=
  match collection.opened with
  | .list items => .ok items
  | .tuple items => .ok items
  | .set items => .ok items
  | .dict entries => .ok (entries.map Prod.fst)
  | .bytes content => .ok (content.map fun b => .int b.toNat)
  | .broken points => .ok (points.map fun point => .broken [point])
  | v =>
    match v.text? with
    | some s => .ok (s.toList.map fun c => .str (String.singleton c))
    | none => .error (.notIterable v)

/-- The clauses with the columns of the users' table. -/
def withColumns (model : String) (c : Clauses) (prefetch : Value) : Except Error Clauses := do
  let items ← itemsOf prefetch
  let column (v : Value) := "u." ++ v.text ++ " AS user_" ++ v.text
  .ok { c with
    select := .str (model ++ ".*, " ++ String.intercalate ", " (items.map column))
    joins := .str "JOIN users u ON u.id = user_id" }

/-- What the hook of a model that takes part in prefetching makes of options.  It fails if there is
no rule for it. -/
def apply (rule : Option PrefetchRule) (model : String) (o : Options) : Except Error HookAnswer :=
  match rule with
  | some (update changes) =>
    .ok (.options (changes.foldl (fun c change => replace c change.1 change.2) o.clauses))
  | some columns =>
    if o.prefetch.truthy then (withColumns model o.clauses o.prefetch).map .options
    else .ok (.options o.clauses)
  | some (answer v) => .ok (.other v)
  | none => .error .hookUndefined

def toHook (rule : Option PrefetchRule) (model : String) : Hook := fun o =>
  Traced.ofExcept (apply rule model o)

end PrefetchRule

end NamedQuery
