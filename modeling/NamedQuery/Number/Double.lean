/-!
# Binary floating-point numbers

A double is kept as the number it stands for, a significand times a power of two, together with
the two infinities, the value that is no number, and the sign of zero.  Everything is exact
arithmetic on natural numbers; rounding goes to the nearest double, and a tie to the even one.
-/

namespace NamedQuery

inductive Double where
  | nan
  | infinite (negative : Bool)
  /-- The number `significand · 2 ^ exponent`, below zero if `negative`.  The significand has 53
  bits, or fewer at the least exponent, so each number has one form. -/
  | finite (negative : Bool) (significand : Nat) (exponent : Int)
deriving DecidableEq, Repr

/-- The fraction of natural numbers that is `num / den · base ^ exponent`. -/
def scaled (base num den : Nat) (exponent : Int) : Nat × Nat :=
  if exponent < 0 then (num, den * Nat.pow base exponent.natAbs)
  else (num * Nat.pow base exponent.natAbs, den)

namespace Double

def leastExponent : Int := -1074

/-- Every significand lies below this. -/
def significandLimit : Nat := Nat.pow 2 53

/-- From this exponent on, a significand of 53 bits is too large for a double. -/
def overflowExponent : Int := 972

def zero : Double := finite false 0 leastExponent

/-- The natural number nearest to `num / den`, a tie going to the even one. -/
def roundHalfEven (num den : Nat) : Nat :=
  let q := num / den
  let r := num % den
  if 2 * r < den then q
  else if den < 2 * r then q + 1
  else if q % 2 = 0 then q else q + 1

/-- The double nearest to `num / den` when its exponent is at least `exponent`, which the caller
chooses at most one below the right one. -/
def roundAt (negative : Bool) (num den : Nat) (exponent : Int) : Double :=
  let s := scaled 2 num den (-exponent)
  let e := if s.1 / s.2 < significandLimit then exponent else exponent + 1
  let s := scaled 2 num den (-e)
  let m := roundHalfEven s.1 s.2
  if m < significandLimit then
    if overflowExponent ≤ e then infinite negative else finite negative m e
  else if overflowExponent ≤ e + 1 then infinite negative
  else finite negative (m / 2) (e + 1)

/-- The double nearest to `num / den`, with a sign; a zero denominator gives infinity. -/
def ofRatio (negative : Bool) (num den : Nat) : Double :=
  if num = 0 then finite negative 0 leastExponent
  else if den = 0 then infinite negative
  else
    let estimate := (num.log2 : Int) - (den.log2 : Int) - 53
    roundAt negative num den (max estimate leastExponent)

/-- The double nearest to `digits · 10 ^ exponent`.  The two bounds only spare the arithmetic for
numbers that are far outside the range of doubles. -/
def ofDecimal (negative : Bool) (digits : Nat) (exponent : Int) : Double :=
  if digits = 0 then finite negative 0 leastExponent
  else if 400 < exponent then infinite negative
  else if exponent + digits.log2 < -1200 then finite negative 0 leastExponent
  else
    let s := scaled 10 digits 1 exponent
    ofRatio negative s.1 s.2

def ofInt (n : Int) : Double := ofRatio (n < 0) n.natAbs 1

/-- The exact value of a finite double as a sign and a fraction. -/
def toRatio? : Double → Option (Bool × Nat × Nat)
  | finite negative m e => some (negative, scaled 2 m 1 e)
  | _ => none

def isZero : Double → Bool
  | finite _ 0 _ => true
  | _ => false

def isFinite : Double → Bool
  | finite .. => true
  | _ => false

/-- The integer a double is equal to, if there is one. -/
def toInt? (x : Double) : Option Int :=
  match x.toRatio? with
  | some (negative, num, den) =>
    if num % den = 0 then some (if negative then -(num / den : Nat) else (num / den : Nat))
    else none
  | none => none

def addFinite (x y : Bool × Nat × Nat) : Double :=
  let a : Int := (if x.1 then -(x.2.1 : Int) else x.2.1) * y.2.2
  let b : Int := (if y.1 then -(y.2.1 : Int) else y.2.1) * x.2.2
  if a + b = 0 then finite (x.1 && y.1) 0 leastExponent
  else ofRatio (a + b < 0) (a + b).natAbs (x.2.2 * y.2.2)

/-- The sum of two doubles, rounded.  The two infinities have none. -/
def add : Double → Double → Double
  | infinite a, infinite b => if a = b then infinite a else nan
  | infinite a, finite .. => infinite a
  | finite .., infinite b => infinite b
  | x, y =>
    match x.toRatio?, y.toRatio? with
    | some a, some b => addFinite a b
    | _, _ => nan

def isNegative : Double → Bool
  | nan => false
  | infinite negative => negative
  | finite negative _ _ => negative

/-- The product of two doubles, rounded.  Infinity has none with zero. -/
def mul (x y : Double) : Double :=
  match x.toRatio?, y.toRatio? with
  | some (nx, px, qx), some (ny, py, qy) => ofRatio (nx != ny) (px * py) (qx * qy)
  | _, _ =>
    if x = nan || y = nan || x.isZero || y.isZero then nan
    else infinite (x.isNegative != y.isNegative)

def neg : Double → Double
  | nan => nan
  | infinite negative => infinite (!negative)
  | finite negative m e => finite (!negative) m e

end Double

end NamedQuery
