import NamedQuery.Yaml.Node
import NamedQuery.Yaml.Token.Reading

/-!
# Nodes of tokens

The tokens of a document are read by recursive descent.  An anchor names the node that it stands
before; an alias stands for the node with its name, which must come earlier or around it.
-/

namespace NamedQuery.Yaml

structure NodeReader where
  tokens : List Token
  fault : Option Fault
  anchors : List (String × Nat)
  /-- The meanings of the handles of tags. -/
  handles : List (String × String)
  nodes : Array Node
  depth : Nat

abbrev NodeReading := StateT NodeReader (Except Fault)

namespace NodeReader

def refuse {α : Type} : NodeReading α := throw .malformed

/-- The next token; a fault behind the last one shows when it is reached. -/
def peek : NodeReading (Option Token) := do
  let r ← get
  match r.tokens, r.fault with
  | [], some fault => throw fault
  | tokens, _ => return tokens.head?

def drop : NodeReading Unit := modify fun r => { r with tokens := r.tokens.drop 1 }

def add (n : Node) : NodeReading Nat := do
  let r ← get
  set { r with nodes := r.nodes.push n }
  return r.nodes.size

def put (id : Nat) (n : Node) : NodeReading Nat := do
  modify fun r => { r with nodes := r.nodes.setIfInBounds id n }
  return id

def take? (t : Token) : NodeReading Bool := do
  if (← peek) = some t then
    drop
    return true
  else return false

def expect (t : Token) : NodeReading Unit := do
  if !(← take? t) then refuse

def nextIn (ts : List Token) : NodeReading Bool := do
  match ← peek with
  | some t => return ts.contains t
  | none => return false

def anchor? : NodeReading (Option String) := do
  match ← peek with
  | some (.anchor name) =>
    drop
    return some name
  | _ => return none

/-- The handle and the suffix of a tag, if there is one. -/
def tag? : NodeReading (Option (Option String × String)) := do
  match ← peek with
  | some (.tag handle suffix) =>
    drop
    return some (handle, suffix)
  | _ => return none

/-- A tag in full.  Its handle must have a meaning. -/
def fullTag : Option String × String → NodeReading String
  | (none, suffix) => return suffix
  | (some handle, suffix) => do
    match (← get).handles.lookup handle with
    | some meaning => return meaning ++ suffix
    | none => refuse

/-- The anchor and the tag before a node, in either order. -/
def properties : NodeReading (Option String × Option String) := do
  match ← anchor? with
  | some name => return (some name, ← (← tag?).mapM fullTag)
  | none =>
    match ← tag? with
    | some t =>
      let anchor ← anchor?
      return (anchor, some (← fullTag t))
    | none => return (none, none)

def define (name : Option String) (id : Nat) : NodeReading Unit :=
  match name with
  | some name => modify fun r => { r with anchors := (name, id) :: r.anchors }
  | none => pure ()

/-- Adds the node that an empty place stands for. -/
def absent : NodeReading Nat := add (.scalar Tag.null (.text ""))

/-- Adds a node under a name that it may have. -/
def named (name : Option String) (n : Node) : NodeReading Nat := do
  let id ← add n
  define name id
  return id

/-- The greatest number of collections that may stand within each other. -/
def deepest : Nat := 488

/-- Reads what stands within a collection. -/
def within {α : Type} (read : NodeReading α) : NodeReading α := do
  let depth := (← get).depth
  if depth = deepest then throw (.meaningless .endless)
  modify fun r => { r with depth := depth + 1 }
  let found ← read
  modify fun r => { r with depth := depth }
  return found

/-- The tag of a collection: the one it is given, or else the usual one. -/
def collectionTag (tag : Option String) (usual : String) : String :=
  match tag with
  | some "!" => usual
  | some t => t
  | none => usual

/-- The tag of a scalar: the one it is given, or the one that its form gives it. -/
def scalarTag (tag : Option String) (content : Content) (plain : Bool) : String :=
  match tag with
  | some "!" => Form.tagOf content
  | some t => t
  | none => if plain then Form.tagOf content else Tag.str

mutual

/-- A node.  Block collections are allowed only outside of brackets, and a sequence without an
indentation of its own only as a part of a mapping. -/
def node (block unindented : Bool) : Nat → NodeReading Nat
  | 0 => refuse
  | fuel + 1 => do
    if let some (.alias name) ← peek then
      drop
      match (← get).anchors.lookup name with
      | some id => return id
      | none => refuse
    else
      let (anchor, tag) ← properties
      let next ← peek
      if let some name := anchor then
        if ((← get).anchors.lookup name).isSome then refuse
      let seq := collectionTag tag Tag.seq
      let map := collectionTag tag Tag.map
      if unindented && next = some .item then
        let id ← named anchor (.sequence seq [])
        put id (.sequence seq (← within (unindentedItems fuel)))
      else
        match next with
        | some (.scalar content plain) =>
          drop
          named anchor (.scalar (scalarTag tag content plain) content)
        | some .openSequence =>
          drop
          let id ← named anchor (.sequence seq [])
          put id (.sequence seq (← within (flowItems true fuel)))
        | some .openMapping =>
          drop
          let id ← named anchor (.mapping map [])
          put id (.mapping map (← within (flowEntries true fuel)))
        | some .blockSequence =>
          if !block then refuse
          drop
          let id ← named anchor (.sequence seq [])
          put id (.sequence seq (← within (blockItems fuel)))
        | some .blockMapping =>
          if !block then refuse
          drop
          let id ← named anchor (.mapping map [])
          put id (.mapping map (← within (blockEntries fuel)))
        | _ =>
          if anchor.isNone && tag.isNone then refuse
          named anchor (.scalar (scalarTag tag (.text "") true) (.text ""))

/-- A node, or nothing if one of the tokens comes next. -/
def nodeUnless (ends : List Token) (block unindented : Bool) : Nat → NodeReading Nat
  | 0 => refuse
  | fuel + 1 => do
    if ← nextIn ends then absent else node block unindented fuel

/-- The items of a block sequence, up to its end. -/
def blockItems : Nat → NodeReading (List Nat)
  | 0 => refuse
  | fuel + 1 => do
    if ← take? .item then
      let n ← nodeUnless [.item, .blockEnd] true false fuel
      return n :: (← blockItems fuel)
    else
      expect .blockEnd
      return []

/-- The items of a sequence that has no indentation of its own. -/
def unindentedItems : Nat → NodeReading (List Nat)
  | 0 => refuse
  | fuel + 1 => do
    if ← take? .item then
      let n ← nodeUnless [.item, .key, .value, .blockEnd] true false fuel
      return n :: (← unindentedItems fuel)
    else return []

/-- The value behind a key, if a colon comes next. -/
def valueUnless (ends : List Token) (block : Bool) : Nat → NodeReading Nat
  | 0 => refuse
  | fuel + 1 => do
    if ← take? .value then nodeUnless ends block block fuel else absent

/-- The entries of a block mapping, up to its end. -/
def blockEntries : Nat → NodeReading (List (Nat × Nat))
  | 0 => refuse
  | fuel + 1 => do
    if ← take? .key then
      let ends := [Token.key, .value, .blockEnd]
      let k ← nodeUnless ends true true fuel
      let v ← valueUnless ends true fuel
      return (k, v) :: (← blockEntries fuel)
    else
      expect .blockEnd
      return []

/-- The items of a sequence in brackets.  A single entry of a mapping may stand for the mapping. -/
def flowItems (first : Bool) : Nat → NodeReading (List Nat)
  | 0 => refuse
  | fuel + 1 => do
    if ← take? .closeSequence then return []
    else
      if !first then expect .comma
      if ← take? .key then
        let k ← within (nodeUnless [.value, .comma, .closeSequence] false false fuel)
        let v ← within (valueUnless [.comma, .closeSequence] false fuel)
        let n ← add (.mapping Tag.map [(k, v)])
        return n :: (← flowItems false fuel)
      else if ← take? .closeSequence then return []
      else
        let n ← node false false fuel
        return n :: (← flowItems false fuel)

/-- The entries of a mapping in braces.  A key may stand without a value. -/
def flowEntries (first : Bool) : Nat → NodeReading (List (Nat × Nat))
  | 0 => refuse
  | fuel + 1 => do
    if ← take? .closeMapping then return []
    else
      if !first then expect .comma
      if ← take? .key then
        let k ← nodeUnless [.value, .comma, .closeMapping] false false fuel
        let v ← valueUnless [.comma, .closeMapping] false fuel
        return (k, v) :: (← flowEntries false fuel)
      else if ← take? .closeMapping then return []
      else
        let k ← node false false fuel
        let v ← absent
        return (k, v) :: (← flowEntries false fuel)

end

/-- The handles of a document without directives. -/
def usualHandles : List (String × String) := [("!", "!"), ("!!", Tag.standard)]

/-- Reads the directives of a document.  The version may be given once. -/
def directives (versioned : Bool) : Nat → NodeReading Unit
  | 0 => refuse
  | fuel + 1 => do
    match ← peek with
    | some (.directive d) =>
      drop
      match d with
      | .version major =>
        if versioned || major ≠ 1 then refuse
        directives true fuel
      | .abbreviation handle meaning =>
        if ((← get).handles.lookup handle).isSome then refuse
        modify fun r => { r with handles := (handle, meaning) :: r.handles }
        directives versioned fuel
      | .other => directives versioned fuel
    | _ => pure ()

/-- Reads the marks at the end of a document; no second document may follow, of which the
directives are still read. -/
def finish (fuel : Nat) : NodeReading Unit := do
  let rest := (← get).tokens.dropWhile (· = .documentEnd)
  modify fun r => { r with tokens := rest, handles := [] }
  if (← peek).isSome then
    directives false fuel
    refuse

/-- The node of a document; a text without one holds none. -/
def document (fuel : Nat) : NodeReading (Option Nat) := do
  match ← peek with
  | none => return none
  | some (.directive _) | some .documentStart =>
    directives false fuel
    modify fun r => { r with handles := r.handles ++ usualHandles }
    expect .documentStart
    let next ← peek
    let id ←
      if next.isNone || next = some .documentStart || next = some .documentEnd then absent
      else node true false fuel
    finish fuel
    return some id
  | some _ =>
    modify fun r => { r with handles := usualHandles }
    let id ← node true false fuel
    finish fuel
    return some id

end NodeReader

structure Graph where
  nodes : Array Node
  root : Nat

def Graph.ofText (cs : List Char) : Except Fault (Option Graph) := do
  let t := Tokens.ofText cs
  let start : NodeReader :=
    { tokens := t.tokens, fault := t.fault, anchors := [], handles := [], nodes := #[], depth := 0 }
  let (root, r) ← (NodeReader.document (4 * t.tokens.length + 4)).run start
  .ok (root.map fun root => { nodes := r.nodes, root })

end NamedQuery.Yaml
