/-!
# Characters of bytes

A character beyond the first 128 is written as up to four bytes, of which the first one tells how
many follow.  Bytes that write no character are read as the replacement character: one for every
first byte together with those behind it that could still belong to a character.
-/

namespace NamedQuery.Text

structure Begun where
  /-- The number that the bytes write so far. -/
  value : Nat
  /-- How many bytes follow behind the next one. -/
  further : Nat
  /-- The next byte lies between these two. -/
  least : UInt8
  greatest : UInt8
deriving DecidableEq, Repr

def replacement : Char := '\uFFFD'

/-- The character that begins with a byte beyond the first 128.  The bounds of the second byte rule
out numbers that fewer bytes write, halves of characters and numbers behind the last character. -/
def begun? (b : UInt8) : Option Begun :=
  if 0xC2 ≤ b && b ≤ 0xDF then some ⟨b.toNat - 0xC0, 0, 0x80, 0xBF⟩
  else if 0xE0 ≤ b && b ≤ 0xEF then
    some ⟨b.toNat - 0xE0, 1, if b = 0xE0 then 0xA0 else 0x80, if b = 0xED then 0x9F else 0xBF⟩
  else if 0xF0 ≤ b && b ≤ 0xF4 then
    some ⟨b.toNat - 0xF0, 2, if b = 0xF0 then 0x90 else 0x80, if b = 0xF4 then 0x8F else 0xBF⟩
  else none

/-- What a byte is that begins a character: the character, or the beginning of one. -/
def readFirst (b : UInt8) : List Char × Option Begun :=
  if b < 0x80 then ([Char.ofNat b.toNat], none)
  else
    match begun? b with
    | some begun => ([], some begun)
    | none => ([replacement], none)

/-- What a byte adds behind the beginning of a character. -/
def readByte (begun : Option Begun) (b : UInt8) : List Char × Option Begun :=
  match begun with
  | none => readFirst b
  | some begun =>
    if begun.least ≤ b && b ≤ begun.greatest then
      let value := begun.value * 64 + (b.toNat - 0x80)
      match begun.further with
      | 0 => ([Char.ofNat value], none)
      | further + 1 => ([], some ⟨value, further, 0x80, 0xBF⟩)
    else
      let (cs, next) := readFirst b
      (replacement :: cs, next)

/-- What is left of a character whose other bytes are missing. -/
def unfinished (begun : Option Begun) : List Char :=
  if begun.isSome then [replacement] else []

/-- The characters whose bytes are among the first `room` ones.  One that is cut in two is
replaced. -/
def cut : Nat → List Char → List Char
  | _, [] => []
  | room, c :: rest =>
    if c.utf8Size ≤ room then c :: cut (room - c.utf8Size) rest
    else if room = 0 then []
    else [replacement]

end NamedQuery.Text
