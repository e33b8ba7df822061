import NamedQuery.Text.Hex
import NamedQuery.Text.Quoted
import NamedQuery.Text.Utf8

/-!
# Percent signs

A character that has a meaning of its own in some place is written there as its bytes: each one as a
percent sign and two hexadecimal digits.
-/

namespace NamedQuery.Text

/-- The bytes that a text writes, and the characters that stand between them. -/
def percentUnits : List Char → List (UInt8 ⊕ Char)
  | [] => []
  | '%' :: high :: low :: rest =>
    match hexValue? high, hexValue? low with
    | some h, some l => .inl (16 * h + l).toUInt8 :: percentUnits rest
    | _, _ => .inl 0x25 :: percentUnits (high :: low :: rest)
  | c :: rest =>
    (if c.toNat < 128 then .inl c.toNat.toUInt8 else .inr c) :: percentUnits rest

/-- The characters of bytes and of characters that stand between them, behind the beginning of a
character. -/
def charactersFrom (begun : Option Begun) : List (UInt8 ⊕ Char) → List Char
  | [] => unfinished begun
  | .inl b :: rest =>
    let (cs, next) := readByte begun b
    cs ++ charactersFrom next rest
  | .inr c :: rest => unfinished begun ++ c :: charactersFrom none rest

def percentDecoded (s : String) : String :=
  String.ofList (charactersFrom none (percentUnits s.toList))

/-- The characters that stand for themselves everywhere. -/
def isPlain (c : Char) : Bool := c.isAlphanum || ['_', '.', '-', '~'].contains c

/-- A byte as a percent sign and two digits. -/
def percentByte (b : UInt8) : List Char :=
  '%' :: (hexDigits 2 b.toNat).map Char.toUpper

/-- A text in which only plain characters and those of `kept` stand for themselves. -/
def percentEncoded (kept : List Char) (s : String) : String :=
  String.ofList (s.toList.flatMap fun c =>
    if isPlain c || kept.contains c then [c]
    else (String.utf8EncodeChar c).flatMap percentByte)

end NamedQuery.Text
