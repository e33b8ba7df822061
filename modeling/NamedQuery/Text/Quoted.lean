import NamedQuery.Text.Unassigned

/-!
# Quoted text

How messages show a text or a row of bytes: between quotes, with the quote, the backslash and
everything that has no glyph written as an escape.  Single quotes are used unless the text holds a
single quote and no double one.
-/

namespace NamedQuery.Text

/-- The assigned code points without a glyph of their own: controls, format characters, private
use and every blank but the plain space. -/
def invisible : CodePoints := ⟨[
  0, 0x20, 0x7F, 0xA1, 0xAD, 0xAE, 0x600, 0x606, 0x61C, 0x61D, 0x6DD, 0x6DE, 0x70F, 0x710,
  0x890, 0x892, 0x8E2, 0x8E3, 0x1680, 0x1681, 0x180E, 0x180F, 0x2000, 0x2010, 0x2028, 0x2030,
  0x205F, 0x2065, 0x2066, 0x2070, 0x3000, 0x3001, 0xE000, 0xF900, 0xFEFF, 0xFF00, 0xFFF9, 0xFFFC,
  0x110BD, 0x110BE, 0x110CD, 0x110CE, 0x13430, 0x13439, 0x1BCA0, 0x1BCA4, 0x1D173, 0x1D17B,
  0xE0001, 0xE0002, 0xE0020, 0xE0080, 0xF0000, 0xFFFFE, 0x100000, 0x10FFFE]⟩

def isPrintable (c : Char) : Bool :=
  !(invisible.contains c || (128 ≤ c.toNat && unassigned.contains c))

/-- The digit of a number below 16, in lower case. -/
def hexDigit (n : Nat) : Char :=
  if n < 10 then Char.ofNat (48 + n) else Char.ofNat (87 + n)

/-- The `width` lowest hexadecimal digits of `n`. -/
def hexDigits (width n : Nat) : List Char :=
  match width with
  | 0 => []
  | width + 1 => hexDigits width (n / 16) ++ [hexDigit (n % 16)]

def enclosingQuote (cs : List Char) : Char :=
  if cs.contains '\'' && !cs.contains '"' then '"' else '\''

def escapeChar (quote c : Char) : List Char :=
  if c = quote || c = '\\' then ['\\', c]
  else if c = '\n' then ['\\', 'n']
  else if c = '\r' then ['\\', 'r']
  else if c = '\t' then ['\\', 't']
  else if isPrintable c then [c]
  else if c.toNat < 0x100 then '\\' :: 'x' :: hexDigits 2 c.toNat
  else if c.toNat < 0x10000 then '\\' :: 'u' :: hexDigits 4 c.toNat
  else '\\' :: 'U' :: hexDigits 8 c.toNat

def quoted (s : String) : String :=
  let q := enclosingQuote s.toList
  String.ofList (q :: s.toList.flatMap (escapeChar q) ++ [q])

/-- Whether a code point is one half of a character. -/
def isHalf (n : Nat) : Bool := 0xD800 ≤ n && n ≤ 0xDFFF

/-- Code points between quotes; a half of a character is written by its number. -/
def quotedPoints (points : List Nat) : String :=
  let q := enclosingQuote ((points.filter fun n => !isHalf n).map Char.ofNat)
  let escape (n : Nat) : List Char :=
    if isHalf n then '\\' :: 'u' :: hexDigits 4 n else escapeChar q (Char.ofNat n)
  String.ofList (q :: points.flatMap escape ++ [q])

/-- The character that two halves make. -/
def joinHalves (high low : Nat) : Char :=
  Char.ofNat (0x10000 + (high - 0xD800) * 0x400 + (low - 0xDC00))

/-- The characters of code points: two halves behind each other make one, and a half without the
other one has none. -/
def joined : List Nat → List Char
  | high :: low :: rest =>
    if isHalf high && isHalf low && high < 0xDC00 && 0xDC00 ≤ low then
      joinHalves high low :: joined rest
    else (if isHalf high then '\uFFFD' else Char.ofNat high) :: joined (low :: rest)
  | [n] => [if isHalf n then '\uFFFD' else Char.ofNat n]
  | [] => []

/-- One byte of quoted bytes: everything outside the visible ASCII range is escaped. -/
def escapeByte (quote : Char) (b : UInt8) : List Char :=
  let c := Char.ofNat b.toNat
  if b < 0x20 || 0x7F ≤ b then
    if c = '\n' || c = '\r' || c = '\t' then escapeChar quote c
    else '\\' :: 'x' :: hexDigits 2 b.toNat
  else escapeChar quote c

def quotedBytes (bytes : List UInt8) : String :=
  let q := enclosingQuote (bytes.map fun b => Char.ofNat b.toNat)
  String.ofList ('b' :: q :: bytes.flatMap (escapeByte q) ++ [q])

end NamedQuery.Text
