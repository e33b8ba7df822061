import NamedQuery.Number.Numeral
import NamedQuery.Number.Shortest

/-!
# Decimal numbers

A decimal keeps the digits it was written with: `1.50` and `1.5` are equal but have different
texts.
-/

namespace NamedQuery

inductive Decimal where
  /-- What is no number; a signaling one takes part in no comparison.  It may carry digits. -/
  | nan (negative signaling : Bool) (payload : Nat)
  | infinite (negative : Bool)
  /-- The number `coefficient · 10 ^ exponent`, with its sign. -/
  | finite (negative : Bool) (coefficient : Nat) (exponent : Int)
deriving DecidableEq, Repr

namespace Decimal

/-- The sign of an exponent is always written. -/
def signedDigits (n : Int) : List Char :=
  (if n < 0 then '-' else '+') :: Double.digitChars n.natAbs

/-- Digits with the point after `point` of them; no point follows a whole number. -/
def pointed (digits : List Char) (point : Int) : List Char :=
  if point ≤ 0 then '0' :: '.' :: List.replicate point.natAbs '0' ++ digits
  else if digits.length ≤ point.natAbs then
    digits ++ List.replicate (point.natAbs - digits.length) '0'
  else digits.take point.natAbs ++ '.' :: digits.drop point.natAbs

/-- A decimal is written with a power of ten if its last digit stands left of the point, or its
first one more than six places right of it. -/
def magnitudeText (coefficient : Nat) (exponent : Int) : List Char :=
  let digits := Double.digitChars coefficient
  let point : Int := exponent + digits.length
  if exponent ≤ 0 && -6 < point then pointed digits point
  else pointed digits 1 ++ 'E' :: signedDigits (point - 1)

def toText : Decimal → String
  | nan negative signaling payload =>
    (if negative then "-" else "") ++ (if signaling then "sNaN" else "NaN") ++
      (if payload = 0 then "" else toString payload)
  | infinite negative => if negative then "-Infinity" else "Infinity"
  | finite negative coefficient exponent =>
    let body := magnitudeText coefficient exponent
    String.ofList (if negative then '-' :: body else body)

inductive Fault where
  | malformed
  /-- The result lies outside the range of decimals, or there is none. -/
  | undefined
  /-- A sum lies beyond the range of sums. -/
  | tooLarge
deriving DecidableEq, Repr

/-- The greatest exponent of the first digit. -/
def greatestExponent : Int := 999999999999999999

/-- The least exponent of the last digit. -/
def leastExponent : Int := -1999999999999999997

/-- A number with its sign, if it lies in range. -/
def inRange (negative : Bool) (w : Numeral.Written) : Except Fault Decimal :=
  let n := Numeral.valueIn 10 0 w.digits
  let first : Int := if n = 0 then w.exponent else w.exponent + (Double.digitChars n).length - 1
  if w.exponent < leastExponent || greatestExponent < first then .error .undefined
  else .ok (finite negative n w.exponent)

/-- What is no number may carry digits. -/
def payload? (cs : List Char) : Option Nat :=
  if cs.all (Numeral.isDigitIn 10) then some (Numeral.valueIn 10 0 cs) else none

/-- The word at the front, read in any case, and what follows it. -/
def afterWord (word : String) (cs : List Char) : Option (List Char) :=
  if (cs.take word.length).map Char.toLower = word.toList then some (cs.drop word.length) else none

/-- Reads a decimal.  Underscores are left out, and blanks around the text; the words for infinity
and for what is no number are read in any case. -/
def ofText (s : String) : Except Fault Decimal :=
  let (negative, body) := Numeral.splitSign ((Text.trimBlank s).toList.filter (· ≠ '_'))
  let noNumber (signaling : Bool) (cs : List Char) : Except Fault Decimal :=
    match payload? cs with
    | some n => .ok (nan negative signaling n)
    | none => .error .malformed
  if Numeral.infinityWords.contains (String.ofList (body.map Char.toLower)) then
    .ok (infinite negative)
  else
    match afterWord "nan" body, afterWord "snan" body, Numeral.scientific? body with
    | some rest, _, _ => noNumber false rest
    | none, some rest, _ => noNumber true rest
    | none, none, some w => inRange negative w
    | none, none, none => .error .malformed

/-- The integer a decimal is equal to, if there is one. -/
def toInt? : Decimal → Option Int
  | finite negative n e =>
    let signed (k : Nat) : Int := if negative then -(k : Int) else k
    let s := scaled 10 n 1 e
    if n = 0 then some 0 else if s.1 % s.2 = 0 then some (signed (s.1 / s.2)) else none
  | _ => none

def isFinite : Decimal → Bool
  | finite .. => true
  | _ => false

def isZero : Decimal → Bool
  | finite _ 0 _ => true
  | _ => false

def toDouble : Decimal → Double
  | nan .. => Double.nan
  | infinite negative => Double.infinite negative
  | finite negative n e => Double.ofDecimal negative n e

end Decimal

end NamedQuery
