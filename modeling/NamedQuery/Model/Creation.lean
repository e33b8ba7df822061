import NamedQuery.Mapping.Placing
import NamedQuery.Model

/-!
# Creation of models

A model is created from a plan.  It takes over what the class it extends offers and takes part in,
and a mapped class is placed in the hierarchy of that class.
-/

namespace NamedQuery

structure ModelPlan where
  name : String
  parent : Option Nat
  /-- Whether a class that extends none offers finders. -/
  offersFinders : Bool
  prefetches : Bool
  rule : Option PrefetchRule
  backend : Option FixedBackend
  mapping : Option MappingPlan
  attributes : List (String × Value)
deriving Repr

namespace ModelPlan

/-- The attributes that a plan gives the class itself.  Those for columns are columns only if the
class is mapped. -/
def members (plan : ModelPlan) (isMapped : Bool) : List (String × Member) :=
  plan.attributes.map (fun e => (e.1, Member.value e.2)) ++
    (if plan.backend.isSome then [("finder_backend", .operation .backend)] else []) ++
    (plan.rule.map fun rule => ("apply_prefetch", Member.hook rule)).toList ++
    (if isMapped then []
    else ((plan.mapping.map MappingPlan.declared).getD []).map fun e =>
      (e.1, .inherent "MappedColumn"))

/-- The plan by which the class is mapped, if it is.  A class that extends a mapped one is mapped
itself, and one that extends another class is not. -/
def mappingPlan? (plan : ModelPlan) (parent : Option Model) : Option MappingPlan :=
  let mapping : Option MappingPlan :=
    match parent with
    | none => plan.mapping
    | some p => if p.mapping.isSome then some (plan.mapping.getD MappingPlan.inherited) else none
  mapping.map fun mapping => { mapping with attributes := plan.attributes }

def create (plan : ModelPlan) (id : Nat) (parent : Option Model) (mapping : Option Nat) : Model :=
  { id, name := plan.name
    ancestors := match parent with
      | some p => p.id :: p.ancestors
      | none => []
    offersFinders := match parent with
      | some p => p.offersFinders
      | none => plan.offersFinders
    prefetches := plan.prefetches || (parent.map Model.prefetches).getD false
    backend := plan.backend
    mapping
    members := plan.members mapping.isSome
    finders := [] }

end ModelPlan

namespace Models

/-- Maps the class of a plan, if it is to be mapped.  Tables may stay behind even if this fails. -/
def place (ms : Models) (plan : ModelPlan) (parent : Option Model) :
    Except Error (Option Nat) × Models :=
  match plan.mappingPlan? parent with
  | none => (.ok none, ms)
  | some mapping =>
    let (placed, catalog) := ms.catalog.place mapping plan.name (parent.bind Model.mapping)
    (placed.map some, { ms with catalog })

/-- Creates a model after all the others. -/
def add (ms : Models) (plan : ModelPlan) : Except Error Unit × Models :=
  if plan.name.toList.contains '\x00' then (.error .nullInClassName, ms)
  else
    let parent := plan.parent.bind ms.get?
    let (placed, ms) := ms.place plan parent
    match placed with
    | .error e => (.error e, ms)
    | .ok mapping =>
      (.ok (), { ms with list := ms.list ++ [plan.create ms.list.length parent mapping] })

end Models

end NamedQuery
