import NamedQuery.Value

/-!
# Values of heaps

The collections of a document may hold one another in any way.  Each one has a place in a heap, in
which a link leads from one place to another.  A collection from which no way leads back to itself
is a tree; the others stay in the heap.
-/

namespace NamedQuery.Value

mutual

/-- A value in which every link is replaced by what `follow` finds for it. -/
def unfold (follow : Nat → Option Value) : Value → Option Value
  | link place => follow place
  | list items => (unfoldItems follow items).map list
  | tuple items => (unfoldItems follow items).map tuple
  | dict entries => (unfoldEntries follow entries).map dict
  | v => some v

def unfoldItems (follow : Nat → Option Value) : List Value → Option (List Value)
  | [] => some []
  | item :: rest => do
    let first ← unfold follow item
    let others ← unfoldItems follow rest
    some (first :: others)

def unfoldEntries (follow : Nat → Option Value) :
    List (Value × Value) → Option (List (Value × Value))
  | [] => some []
  | (key, value) :: rest => do
    let first ← unfold follow value
    let others ← unfoldEntries follow rest
    some ((key, first) :: others)

end

/-- The value at a place as a tree, unless it is nested deeper than `depth`. -/
def treeAt (heap : List Value) : Nat → Nat → Option Value
  | 0, _ => none
  | depth + 1, place => (heap[place]?).bind (unfold (treeAt heap depth))

/-- The value at a place.  One that is nested deeper than the heap has places leads to a value that
holds itself. -/
def settle (heap : List Value) (place : Nat) : Value :=
  (treeAt heap (heap.length + 1) place).getD (looped heap place)

/-- The value itself; one in a heap as a collection, whose items may be in the heap again. -/
def opened : Value → Value
  | looped heap place =>
    let here := (heap[place]?).getD null
    (unfold (fun next => some (settle heap next)) here).getD here
  | v => v

mutual

/-- The places that a value leads to by one link. -/
def links : Value → List Nat
  | link place => [place]
  | list items => linksOf items
  | tuple items => linksOf items
  | dict entries => linksOfEntries entries
  | _ => []

def linksOf : List Value → List Nat
  | [] => []
  | item :: rest => links item ++ linksOf rest

def linksOfEntries : List (Value × Value) → List Nat
  | [] => []
  | (_, value) :: rest => links value ++ linksOfEntries rest

end

/-- Places with all those that lie up to `steps` links behind them. -/
def reached (heap : List Value) : Nat → List Nat → List Nat
  | 0, places => places
  | steps + 1, places =>
    let next := places.flatMap fun place => links ((heap[place]?).getD null)
    reached heap steps (places ++ next).eraseDups

end NamedQuery.Value
