import NamedQuery.Value.Residue

/-!
# The order of sets

A set keeps its items in places.  Where an item comes depends on its residue and on the places that
are taken already, and a set is shown in the order of the places.  When too few places are left, all
items move to a larger row of them.
-/

namespace NamedQuery

structure Placed where
  residue : UInt64
  item : Value

/-- The places of a set; their number is a power of two. -/
abbrev Places := List (Option Placed)

namespace Places

def least : Nat := 8

/-- How many places behind the first one are looked at together with it. -/
def neighbours : Nat := 9

/-- Empty places, more than `n`. -/
def above (n : Nat) : Places :=
  List.replicate (if n < least then least else Nat.pow 2 (n.log2 + 1)) none

def isFree (places : Places) (i : Nat) : Bool :=
  match places[i]? with
  | some none => true
  | _ => false

/-- A free place, looked for at `i` and then wherever the rest of the residue leads. -/
def freeFrom (places : Places) : Nat → Nat → Nat → Option Nat
  | 0, _, _ => none
  | fuel + 1, i, rest =>
    let run := if i + neighbours < places.length then List.range' i (neighbours + 1) else [i]
    match run.find? (isFree places) with
    | some place => some place
    | none => freeFrom places fuel ((i * 5 + 1 + rest / 32) % places.length) (rest / 32)

/-- Puts an item at a free place.  Thirteen steps use up a residue, after which the search comes by
all places. -/
def put (places : Places) (p : Placed) : Places :=
  let residue := p.residue.toNat
  match freeFrom places (places.length + 14) (residue % places.length) residue with
  | some place => places.set place (some p)
  | none => places

def items (places : Places) : List Placed := places.filterMap id

/-- The items in a row of more than `n` places. -/
def moved (places : Places) (n : Nat) : Places := places.items.foldl put (above n)

/-- Whether three fifths of the places are taken. -/
def isCrowded (places : Places) (used : Nat) : Bool := (places.length - 1) * 3 ≤ used * 5

/-- Adds an item, and makes room for others if it is needed. -/
def add (places : Places) (p : Placed) : Places :=
  let places := places.put p
  let used := places.items.length
  if places.isCrowded used then places.moved (used * 4) else places

end Places

namespace Value

def placed? (items : List Value) : Option (List Placed) :=
  items.mapM fun v => v.residue?.map fun w => ⟨w, v⟩

/-- The items of a set that come into these places one after the other. -/
def arrangedIn (places : Places) (items : List Value) : List Value :=
  match placed? items with
  | some placed => ((placed.foldl Places.add places).items).map Placed.item
  | none => items

/-- The items of a set in order, when they come one after the other. -/
def arranged (items : List Value) : List Value := arrangedIn (Places.above 0) items

/-- The items of a set in order, when room is made for all of them beforehand. -/
def arrangedAtOnce (items : List Value) : List Value :=
  let n := items.length
  arrangedIn (Places.above (if (Places.above 0).isCrowded n then n * 2 else 0)) items

end Value

end NamedQuery
