import NamedQuery.Model.Call

/-!
# Hooks of models

A class that takes part in prefetching has its options rewritten by whatever it has under the name
of that operation: a rule, the operation that is left undefined, or something else by accident.
-/

namespace NamedQuery

def Answer.toValue : Answer → Value
  | first none => .null
  | first (some row) => ofRow row
  | all rows => .list (rows.map ofRow)
where
  ofRow : Row → Value
    | .value v => v
    | .entity model _ _ => .object model
    | .lost model .. => .object model

namespace Models

/-- A finder in the place of a hook, which is called with the options. -/
def finderHook (ms : Models) (here : Surroundings) (m : Model) (f : Finder) : Hook := fun o => do
  let answer ← ms.reported m (ms.call here [] m f ⟨[o.toValue], []⟩)
  pure (.other answer.toValue)

/-- The hook of a class, if it takes part in prefetching. -/
def hookOf (ms : Models) (here : Surroundings) (m : Model) : Option Hook :=
  if m.prefetches then
    match ms.source? m "apply_prefetch" with
    | some (_, .hook rule) => some (PrefetchRule.toHook (some rule) m.name)
    | some (_, .finder f) => some (ms.finderHook here m f)
    | some (_, .value v) => some fun _ => Traced.fail (.notCallable v.longTypeName)
    | _ => some (PrefetchRule.toHook none m.name)
  else none

end Models

end NamedQuery
