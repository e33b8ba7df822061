import NamedQuery.Value.Equality

/-!
# Residues of values

The residue of a value is a word of 64 bits that equal values share.  That of a number is the number
itself modulo a prime, so that it does not depend on the kind of the number.  Most values have no
residue that could be told in advance.
-/

namespace NamedQuery

namespace Residue

/-- The prime that residues of numbers are taken by. -/
def modulus : Nat := 0x1FFFFFFFFFFFFFFF

def power (base exponent : Nat) : Nat :=
  if exponent = 0 then 1
  else
    let half := power (base * base % modulus) (exponent / 2)
    if exponent % 2 = 1 then base * half % modulus else half
termination_by exponent
decreasing_by omega

/-- The number by which a product with `n` is one, modulo the prime. -/
def inverse (n : Nat) : Nat := power (n % modulus) (modulus - 2)

def powerOfTen (exponent : Int) : Nat :=
  if exponent < 0 then power (inverse 10) exponent.natAbs else power 10 exponent.natAbs

/-- A number as a word; no residue is minus one. -/
def word (n : Int) : UInt64 :=
  let n := if n = -1 then -2 else n
  (n % 0x10000000000000000).toNat.toUInt64

/-- A residue with the sign of a number. -/
def signed (negative : Bool) (size : Nat) : UInt64 :=
  word (if negative then -(size : Int) else size)

def ofQuantity : Value.Quantity → UInt64
  | .finite num den exponent =>
    signed (num < 0)
      (num.natAbs % modulus * inverse den % modulus * powerOfTen exponent % modulus)
  | .infinite negative => signed negative 314159

def ofInt (n : Int) : UInt64 := ofQuantity (.finite n 1 0)

/-- A word with its bits moved to the left by 31 places; those that leave it come back on the
right. -/
def rotated (w : UInt64) : UInt64 := (w <<< 31) ||| (w >>> 33)

/-- The residue of a row of values with these residues. -/
def ofRow (words : List UInt64) : UInt64 :=
  let mixed := words.foldl
    (fun acc w => rotated (acc + w * 14029467366897019727) * 11400714785074694791)
    2870177450012600261
  let result := mixed + (words.length.toUInt64 ^^^ (2870177450012600261 ^^^ 3527539))
  if result = 0xFFFFFFFFFFFFFFFF then 1546275796 else result

/-- A length of time counts as the row of its days, seconds and microseconds. -/
def ofDuration (d : Duration) : UInt64 :=
  let seconds := d.microseconds / 1000000
  ofRow ([seconds / 86400, seconds % 86400, d.microseconds % 1000000].map ofInt)

end Residue

namespace Value

mutual

def residue? : Value → Option UInt64
  | tuple items => (residues? items).map Residue.ofRow
  | duration d => some (Residue.ofDuration d)
  | uuid u => some (Residue.ofInt u.number)
  | str s => if s.isEmpty then some 0 else none
  | bytes content => if content.isEmpty then some 0 else none
  | v => v.quantity?.map Residue.ofQuantity

def residues? : List Value → Option (List UInt64)
  | [] => some []
  | item :: rest =>
    match residue? item, residues? rest with
    | some w, some words => some (w :: words)
    | _, _ => none

end

end Value

end NamedQuery
