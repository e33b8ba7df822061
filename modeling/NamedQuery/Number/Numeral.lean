import NamedQuery.Number.Double
import NamedQuery.Text.Blank
import NamedQuery.Text.Numerals
import NamedQuery.Text.Content

/-!
# Written numbers

How a text writes a number: with the digits of any script, with spaces around them, a sign in front
and single underscores between digits.  A whole number may stand in another base than ten; a decimal
one may have a point and a power of ten.
-/

namespace NamedQuery

inductive NumeralFault where
  | notWhole (base : Nat) (written : Content)
  /-- More digits than a number may be read from. -/
  | tooLong (digits : Nat)
  | notDecimal (written : Content)
deriving DecidableEq, Repr

namespace Numeral

/-- The greatest number of decimal digits that are read or written. -/
def longest : Nat := 4300

/-- The greatest number of characters that a message shows of a text. -/
def shownLength : Nat := 200

def limitText : String :=
  "Exceeds the limit (" ++ toString longest ++ " digits) for integer string conversion"

def adviceText : String := "; use sys.set_int_max_str_digits() to increase the limit"

/-- Whether a number has too many digits to be written. -/
def isTooLong (n : Int) : Bool := Nat.pow 10 longest ≤ n.natAbs

end Numeral

namespace NumeralFault

def ofContent (written : Content) : NumeralFault → NumeralFault
  | notWhole base _ => notWhole base written
  | notDecimal _ => notDecimal written
  | fault => fault

def message : NumeralFault → String
  | notWhole base written =>
    "invalid literal for int() with base " ++ toString base ++ ": " ++
      String.ofList (written.quoted.toList.take Numeral.shownLength)
  | tooLong digits =>
    Numeral.limitText ++ ": value has " ++ toString digits ++ " digits" ++ Numeral.adviceText
  | notDecimal written => "could not convert string to float: " ++ written.quoted

end NumeralFault

namespace Numeral

/-- The value of a digit or of a letter that serves as one. -/
def digit? (c : Char) : Option Nat :=
  if 'a' ≤ c && c ≤ 'z' then some (c.toNat - 87)
  else if 'A' ≤ c && c ≤ 'Z' then some (c.toNat - 55)
  else Text.decimalDigit? c

/-- Whether the character is a digit in a base. -/
def isDigitIn (base : Nat) (c : Char) : Bool := (digit? c).any (· < base)

/-- The number that digits write in a base, after `n`; other characters are passed over. -/
def valueIn (base n : Nat) : List Char → Nat
  | [] => n
  | c :: rest =>
    match digit? c with
    | some d => valueIn base (base * n + d) rest
    | none => valueIn base n rest

/-- A sign and what follows it. -/
def splitSign : List Char → Bool × List Char
  | '-' :: rest => (true, rest)
  | '+' :: rest => (false, rest)
  | cs => (false, cs)

/-- The letter that marks a base behind a zero. -/
def baseLetter : Nat → Option Char
  | 2 => some 'b'
  | 8 => some 'o'
  | 16 => some 'x'
  | _ => none

/-- What follows the mark of the base, which may be left out.  One underscore may stand
behind it. -/
def withoutMark (base : Nat) (cs : List Char) : List Char :=
  match cs with
  | '0' :: mark :: rest =>
    if some mark.toLower = baseLetter base then
      (match rest with
        | '_' :: more => more
        | rest => rest)
    else cs
  | cs => cs

/-- Whether underscores stand only between other characters, one at a time. -/
def separates : List Char → Bool
  | [] => false
  | [c] => c ≠ '_'
  | c :: d :: rest => c ≠ '_' && (if d = '_' then separates rest else separates (d :: rest))

def isBinary (base : Nat) : Bool := base = 2 || base = 8 || base = 16

/-- The whole number that a text writes in a base. -/
def whole (base : Nat) (s : String) : Except NumeralFault Int :=
  let (negative, body) := splitSign (s.toList.dropWhile Text.isSpace)
  let body := withoutMark base body
  let run := body.takeWhile fun c => c = '_' || isDigitIn base c
  let digits := run.filter (· ≠ '_')
  if !separates run then .error (.notWhole base (.text s))
  else if !isBinary base && longest < digits.length then .error (.tooLong digits.length)
  else if (body.drop run.length).all Text.isSpace then
    let n := valueIn base 0 digits
    .ok (if negative then -(n : Int) else n)
  else .error (.notWhole base (.text s))

/-- The text of an integer, unless it is too long to be written. -/
def write? (n : Int) : Option String := if isTooLong n then none else some (toString n)

/-! ## Decimal numbers -/

/-- A number with a power of ten: `digits · 10 ^ exponent`. -/
structure Written where
  digits : List Char
  exponent : Int

/-- Whether underscores stand only between two digits. -/
def groupsDigits (before : Option Char) : List Char → Bool
  | [] => before ≠ some '_'
  | c :: rest =>
    (if c = '_' then before.any (isDigitIn 10)
      else before ≠ some '_' || isDigitIn 10 c) && groupsDigits (some c) rest

/-- The digits before and after the point of a number without a power of ten. -/
def pointed? (cs : List Char) : Option Written :=
  let front := cs.takeWhile (· ≠ '.')
  let fraction := (cs.drop front.length).drop 1
  let digits := front ++ fraction
  if !digits.isEmpty && digits.all (isDigitIn 10) then
    some ⟨digits, -(fraction.length : Int)⟩
  else none

def exponent? (cs : List Char) : Option Int :=
  let (negative, digits) := splitSign cs
  if !digits.isEmpty && digits.all (isDigitIn 10) then
    let n := valueIn 10 0 digits
    some (if negative then -(n : Int) else n)
  else none

/-- A number with an optional point and an optional power of ten, without a sign. -/
def scientific? (cs : List Char) : Option Written :=
  let isMark (c : Char) := c = 'e' || c = 'E'
  let mantissa := cs.takeWhile fun c => !isMark c
  match pointed? mantissa, cs.drop mantissa.length with
  | some w, [] => some w
  | some w, _ :: power => (exponent? power).map fun k => { w with exponent := w.exponent + k }
  | none, _ => none

def infinityWords : List String := ["inf", "infinity"]

/-- The double that a text writes: a decimal number, or one of the words for infinity and for what
is no number, in any case. -/
def double (s : String) : Except NumeralFault Double :=
  let trimmed := Text.trimSpaces s.toList
  let (negative, body) := splitSign (trimmed.filter (· ≠ '_'))
  let word := String.ofList (body.map Char.toLower)
  if !groupsDigits none trimmed then .error (.notDecimal (.text s))
  else if infinityWords.contains word then .ok (.infinite negative)
  else if word = "nan" then .ok .nan
  else
    match scientific? body with
    | some w => .ok (Double.ofDecimal negative (valueIn 10 0 w.digits) w.exponent)
    | none => .error (.notDecimal (.text s))

end Numeral

end NamedQuery
