import NamedQuery.Model.Hook
import NamedQuery.Spec
import NamedQuery.Definition

/-!
# Defining finders on models

A definition is checked, its statement is assembled with the backend of the model, and the finder is
attached.  Nothing is attached unless all of this succeeds.
-/

namespace NamedQuery

namespace Models

/-- Whether a finder may take the place of what has its name now: nothing, a finder, or the value
that stands for nothing. -/
def isFree : Option Member → Bool
  | none => true
  | some (.finder _) => true
  | some (.value .null) => true
  | _ => false

/-- Compiles the finder of a definition, whose options go through `hook` if there is one. -/
def compileWith (ms : Models) (hook : Option Hook) (dialect : Dialect) (m : Model)
    (name arity : Value) (options : GivenOptions) : Traced Finder := do
  let spec ← Traced.ofExcept (Spec.build name arity options)
  if isFree (ms.attribute? m spec.name) then
    let backend ← Traced.ofExcept (ms.backendOf dialect [] m)
    let (template, binder) ← spec.normalized.assemble m.name hook backend Binder.empty
    Traced.ofExcept
      (Finder.make spec.name spec.arity template binder.order spec.options.positional)
  else Traced.fail (.shadows spec.name m.name)

def defineWith (ms : Models) (hook : Option Hook) (dialect : Dialect) (m : Model)
    (name arity : Value) (options : GivenOptions) : Traced Finder × Models :=
  let compiled := ms.compileWith hook dialect m name arity options
  match compiled.result with
  | .error _ => (compiled, ms)
  | .ok f =>
    let record := Log.Record.defined m.name f.name f.arity f.order.length f.positional
    (⟨compiled.events ++ [.logged record], .ok f⟩, ms.replace (m.attach f))

def define (ms : Models) (here : Surroundings) (m : Model) (name arity : Value)
    (options : GivenOptions) : Traced Finder × Models :=
  ms.defineWith (ms.hookOf here m) here.dialect m name arity options

/-- Defines finders one after the other, up to the first failure.  Each definition names its model
by its id. -/
def defineAll (ms : Models) (here : Surroundings) :
    List (Nat × Definition) → Traced (List Finder) × Models
  | [] => (pure [], ms)
  | (id, d) :: rest =>
    match ms.get? id with
    | none => (Traced.fail (.missingKey d.model.text), ms)
    | some m =>
      let (first, after) :=
        ms.define here m d.name d.arity (.value (.dict d.options))
      match first.result with
      | .error e => (⟨first.events, .error e⟩, after)
      | .ok f =>
        let (others, last) := after.defineAll here rest
        (⟨first.events ++ others.events, others.result.map (f :: ·)⟩, last)

/-- The models that definitions may name, by the names they have there. -/
abbrev Known := List (String × Nat)

/-- The definitions with their models, if all of these are known. -/
def locate (known : Known) : List Definition → Except Error (List (Nat × Definition))
  | [] => .ok []
  | d :: rest =>
    match d.model.text?.bind fun name => known.lookup name with
    | none =>
      .error (.unknownModel d.model d.name
        ((known.map Prod.fst).mergeSort (fun a b => decide (a ≤ b))))
    | some id => (locate known rest).map ((id, d) :: ·)

/-- Defines the finders of a document.  No finder is defined unless all models are known. -/
def applyAll (ms : Models) (here : Surroundings) (known : Known) (definitions : List Definition) :
    Traced (List Finder) × Models :=
  match locate known definitions with
  | .error e => (Traced.fail e, ms)
  | .ok located => ms.defineAll here located

end Models

end NamedQuery
