import NamedQuery.Number.Numeral

/-!
# Universally unique identifiers

An identifier is a number of 128 bits, written in 32 hexadecimal digits.  When it is read, dashes,
braces around it and the names of its two schemes do not count.
-/

namespace NamedQuery

structure Uuid where
  number : Nat
deriving DecidableEq, Repr

namespace Uuid

def hex (u : Uuid) : List Char := Text.hexDigits 32 u.number

/-- The digits in groups of 8, 4, 4, 4 and 12. -/
def dashed (u : Uuid) : String :=
  let cs := u.hex
  let group (start size : Nat) := String.ofList ((cs.drop start).take size)
  String.intercalate "-" [group 0 8, group 8 4, group 12 4, group 16 4, group 20 12]

/-- Why a text is no identifier. -/
inductive Fault where
  | malformed
  | numeral (fault : NumeralFault)
deriving DecidableEq, Repr

/-- Leaves out every occurrence of a word; `skip` characters still belong to one. -/
def without (word : List Char) : Nat → List Char → List Char
  | _, [] => []
  | skip + 1, _ :: rest => without word skip rest
  | 0, c :: rest =>
    if word.isPrefixOf (c :: rest) then without word (word.length - 1) rest
    else c :: without word 0 rest

def isBrace (c : Char) : Bool := c = '\x7b' || c = '\x7d'

def digitsOf (cs : List Char) : List Char :=
  let cs := without "uuid:".toList 0 (without "urn:".toList 0 cs)
  let cs := ((cs.dropWhile isBrace).reverse.dropWhile isBrace).reverse
  cs.filter (· ≠ '-')

/-- The identifier that a text writes. -/
def ofText (s : String) : Except Fault Uuid :=
  let digits := digitsOf s.toList
  if digits.length ≠ 32 then .error .malformed
  else
    match Numeral.whole 16 (String.ofList digits) with
    | .ok n => .ok ⟨n.toNat⟩
    | .error fault => .error (.numeral fault)

end Uuid

end NamedQuery
