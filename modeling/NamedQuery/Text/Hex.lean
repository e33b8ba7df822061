import NamedQuery.Text.Quoted

/-!
# Hexadecimal text

Bytes in a text are written as two hexadecimal digits each; spaces may stand between them.
-/

namespace NamedQuery.Text

/-- The value of a hexadecimal digit in either case. -/
def hexValue? (c : Char) : Option Nat :=
  if c.isDigit then some (c.toNat - 48)
  else if 'a' ≤ c && c ≤ 'f' then some (c.toNat - 87)
  else if 'A' ≤ c && c ≤ 'F' then some (c.toNat - 55)
  else none

/-- Spaces and controls that act as such, within the first 128 characters. -/
def isGapBetweenBytes (c : Char) : Bool := c = ' ' || (9 ≤ c.toNat && c.toNat ≤ 13)

/-- The bytes of the text that begins at a place, or the place of the first character that should be
a digit and is none. -/
def bytesFrom (place : Nat) : List Char → Except Nat (List UInt8)
  | [] => .ok []
  | c :: rest =>
    if isGapBetweenBytes c then bytesFrom (place + 1) rest
    else
      match hexValue? c, rest with
      | none, _ => .error place
      | some _, [] => .error (place + 1)
      | some high, d :: rest =>
        match hexValue? d with
        | none => .error (place + 1)
        | some low =>
          (bytesFrom (place + 2) rest).map fun bytes => (16 * high + low).toUInt8 :: bytes

/-- The bytes of a text, or the place of a fault in it.  A character that is not ASCII shows before
any other fault. -/
def bytesOfHex (s : String) : Except Nat (List UInt8) :=
  match s.toList.findIdx? fun c => 128 ≤ c.toNat with
  | some place => .error place
  | none => bytesFrom 0 s.toList

end NamedQuery.Text
