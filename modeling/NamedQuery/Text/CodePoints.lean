/-!
# Sets of code points

A set of characters is written as the increasing list of the code points at which membership
changes: the first number opens a range, the second closes it (and is itself outside), and so on.
-/

namespace NamedQuery.Text

/-- A set of code points, given by the increasing list of its range boundaries. -/
structure CodePoints where
  boundaries : List Nat

/-- Whether `n` lies in a range, when the flag tells whether the numbers before the first boundary
belong to the set. -/
def CodePoints.within (n : Nat) : Bool → List Nat → Bool
  | inside, [] => inside
  | inside, boundary :: rest => if n < boundary then inside else within n (!inside) rest

def CodePoints.contains (set : CodePoints) (c : Char) : Bool :=
  within c.toNat false set.boundaries

/-- The distance of `n` from the beginning of the range that holds it. -/
def CodePoints.distanceWithin (n : Nat) : List Nat → Option Nat
  | first :: last :: rest =>
    if n < first then none
    else if n < last then some (n - first)
    else distanceWithin n rest
  | _ => none

/-- The place of a character within its range. -/
def CodePoints.distance? (set : CodePoints) (c : Char) : Option Nat :=
  distanceWithin c.toNat set.boundaries

end NamedQuery.Text
