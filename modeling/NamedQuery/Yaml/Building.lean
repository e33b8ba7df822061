import NamedQuery.Yaml.Node.Reading
import NamedQuery.Yaml.Scalar

/-!
# Building the values of nodes

The values of a document are built from its root on, level by level.  A scalar has its value at
once; a collection is an empty place at first, and waits in a queue until its items are built.  So
collections can hold themselves, and of several faults the one nearest to the root shows.  A mapping
may take over the entries of others, which its own entries then replace.
-/

namespace NamedQuery.Yaml

inductive Collection where
  | list
  | mapping
  | set
  | pairs
deriving DecidableEq, Repr

def Collection.ofTag? (t : String) : Option Collection :=
  if t = Tag.seq then some list
  else if t = Tag.map then some mapping
  else if t = Tag.set then some set
  else if t = Tag.omap || t = Tag.pairs then some pairs
  else none

structure Building where
  nodes : Array Node
  /-- The values of the nodes that have been met; that of a collection is a link. -/
  values : Array (Option Value)
  /-- The collections that have been filled, by the numbers of their nodes. -/
  heap : Array Value
  /-- The collections that are still to be filled. -/
  queue : List Nat

abbrev Build := StateT Building (Except Fault)

namespace Building

def start (nodes : Array Node) : Building :=
  { nodes, values := Array.replicate nodes.size none, heap := Array.replicate nodes.size .null,
    queue := [] }

def refuse {α : Type} : Build α := throw .malformed

def node (id : Nat) : Build Node := do
  match (← get).nodes[id]? with
  | some n => return n
  | none => refuse

def tag (id : Nat) : Build String := return (← node id).tag

def put (id : Nat) (n : Node) : Build Unit :=
  modify fun b => { b with nodes := b.nodes.setIfInBounds id n }

/-! ## Scalars -/

/-- The content of a node that stands for a text: that of a scalar, or of the first entry of a
mapping whose key is an equals sign. -/
def content : Nat → Nat → Build Content
  | 0, _ => throw (.meaningless .endless)
  | depth + 1, id => do
    match ← node id with
    | .scalar _ c => return c
    | .sequence .. => refuse
    | .mapping _ entries =>
      let isText (e : Nat × Nat) : Build Bool := return (← tag e.1) = Tag.value
      match ← entries.findM? isText with
      | some e => content depth e.2
      | none => refuse

/-- The value of a text under a tag of scalars. -/
def scalarOf (t : String) (c : Content) : Except Fault Value :=
  if t = Tag.str then .ok c.toValue
  else if t = Tag.null then .ok .null
  else if t = Tag.bool then Scalar.bool c
  else if t = Tag.int then Scalar.int c
  else if t = Tag.float then Scalar.float c
  else if t = Tag.timestamp then Scalar.timestamp c.toText
  else if t = Tag.binary then Scalar.binary c.toText
  else .error .malformed

def scalarTags : List String :=
  [Tag.str, Tag.null, Tag.bool, Tag.int, Tag.float, Tag.timestamp, Tag.binary]

def scalarValue (id : Nat) : Build Value := do
  let n ← node id
  if !scalarTags.contains n.tag then refuse
  let c ← content ((← get).nodes.size + 1) id
  match n with
  | .scalar .. => pure ()
  | _ => if n.tag = Tag.timestamp then throw (.meaningless (.notScannable (.list [])))
  match scalarOf n.tag c with
  | .ok v => return v
  | .error fault => throw fault

/-- The value of a node.  A collection joins the queue when it is first met. -/
def value (id : Nat) : Build Value := do
  let b ← get
  if let some (some v) := b.values[id]? then return v
  if (Collection.ofTag? (← tag id)).isSome then
    let v := Value.link id
    set { b with values := b.values.setIfInBounds id (some v), queue := b.queue ++ [id] }
    return v
  else
    let v ← scalarValue id
    modify fun b => { b with values := b.values.setIfInBounds id (some v) }
    return v

/-! ## Entries that are taken over -/

/-- The entries of the mappings that a node stands for, of which those of the first one count most.
`flatten` completes the entries of a mapping. -/
def sources (flatten : Nat → Build Unit) (id : Nat) : Build (List (Nat × Nat)) := do
  let complete (id : Nat) : Build (List (Nat × Nat)) := do
    match ← node id with
    | .mapping .. =>
      flatten id
      return (← node id).entries
    | _ => refuse
  match ← node id with
  | .mapping .. => complete id
  | .sequence _ items =>
    let found ← items.mapM complete
    return found.reverse.flatten
  | .scalar .. => refuse

/-- Completes the entries of a mapping: of those that are `left` after the ones that are `kept`,
each one that takes over others is left out, and what it takes over is put in front.  An equals sign
as a key becomes a plain text. -/
def complete (flatten : Nat → Build Unit) (id : Nat) (kept taken : List (Nat × Nat)) :
    List (Nat × Nat) → Build Unit
  | [] => do
    let n ← node id
    put id (.mapping n.tag (taken ++ kept))
  | (key, value) :: left => do
    let k ← node key
    if k.tag = Tag.merge then
      let n ← node id
      put id (.mapping n.tag (kept ++ left))
      let more ← sources flatten value
      let now := (← node id).entries
      if now = kept ++ left then complete flatten id kept (taken ++ more) left
      else put id (.mapping n.tag (taken ++ more ++ now))
    else
      if k.tag = Tag.value then put key (k.retag Tag.str)
      complete flatten id (kept ++ [(key, value)]) taken left

/-- Completes the entries of a mapping and of those that it takes over, which are at most `depth`
times removed. -/
def flatten : Nat → Nat → Build Unit
  | 0, _ => refuse
  | depth + 1, id => do
    let n ← node id
    complete (flatten depth) id [] [] n.entries

def entryCount (nodes : Array Node) : Nat := nodes.foldl (fun n x => n + x.entries.length) 0

/-! ## Collections -/

/-- An entry and which value that is no number its key is, if it is one. -/
structure Entry where
  nanId : Option Nat
  key : Value
  value : Value

/-- Which value that is no number the scalar of a node is. -/
def nanId (id : Nat) (v : Value) : Build (Option Nat) := do
  match v, ← node id with
  | .float .nan, .scalar _ c => return some (if Scalar.isNanWord c then 0 else id + 1)
  | _, _ => return none

/-- Whether two keys are the same; a value that is no number is the same as itself. -/
def Entry.sameKey (a b : Entry) : Bool :=
  (a.nanId.isSome && a.nanId = b.nanId) || Value.same a.key b.key

/-- Entries with one more.  A key that comes again keeps its place and gets the new value. -/
def insert (entries : List Entry) (e : Entry) : List Entry :=
  if entries.any (·.sameKey e) then
    entries.map fun old => if old.sameKey e then { old with value := e.value } else old
  else entries ++ [e]

/-- The entry that two nodes make; a collection is no key. -/
def entry (e : Nat × Nat) : Build Entry := do
  let key ← value e.1
  if !key.isKey then refuse
  let v ← value e.2
  return { nanId := ← nanId e.1 key, key, value := v }

/-- The entries of a mapping, each key once. -/
def entries (id : Nat) : Build (List Entry) := do
  match ← node id with
  | .mapping .. =>
    flatten (entryCount (← get).nodes + 1) id
    (← node id).entries.foldlM (fun done e => return insert done (← entry e)) []
  | _ => refuse

def pair (id : Nat) : Build Value := do
  match ← node id with
  | .mapping _ [(k, v)] =>
    let key ← value k
    return .tuple [key, ← value v]
  | _ => refuse

/-- The value of a collection with its items. -/
def contents (c : Collection) (id : Nat) : Build Value := do
  match c, ← node id with
  | .list, .sequence _ items => return .list (← items.mapM value)
  | .pairs, .sequence _ items => return .list (← items.mapM pair)
  | .mapping, .mapping .. => return .dict ((← entries id).map fun e => (e.key, e.value))
  | .set, .mapping .. => return .set (Value.arrangedAtOnce ((← entries id).map (·.key)))
  | _, _ => refuse

def fill (id : Nat) : Build Unit := do
  match Collection.ofTag? (← tag id) with
  | some c =>
    let v ← contents c id
    modify fun b => { b with heap := b.heap.setIfInBounds id v }
  | none => refuse

/-- Fills collections in the order of the queue.  Each one joins it once. -/
def fillAll : Nat → Build Unit
  | 0 => pure ()
  | count + 1 => do
    match (← get).queue with
    | [] => pure ()
    | id :: rest =>
      modify fun b => { b with queue := rest }
      fill id
      fillAll count

end Building

/-- The value of the root, and the heap that links in it lead to. -/
def Graph.build (g : Graph) : Except Fault (Value × List Value) := do
  let (v, b) ← (do
    let v ← Building.value g.root
    Building.fillAll g.nodes.size
    return v : Build Value).run (Building.start g.nodes)
  .ok (v, b.heap.toList)

end NamedQuery.Yaml
