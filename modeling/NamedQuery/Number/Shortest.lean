import NamedQuery.Number.Double

/-!
# Shortest decimal text of a double

A double is written with the fewest significant digits that no other double is nearer to; among
the candidates with that many digits the one nearest to the value is taken.  The digits come from
exact arithmetic: for each number of digits the two neighbours of the value on the decimal grid are
compared with the interval of numbers that round to the double.
-/

namespace NamedQuery.Double

/-- `digits · 10 ^ exponent`. -/
structure Decimals where
  digits : Nat
  exponent : Int
deriving DecidableEq, Repr

/-- The power of ten of the leading digit of `num / den`: the estimate from the binary logarithms
is off by at most one in each direction. -/
def leadingExponent (num den : Nat) : Int :=
  let estimate := ((num.log2 : Int) - (den.log2 : Int)) * 30103 / 100000
  let reaches (exponent : Int) :=
    let s := scaled 10 num den (-exponent)
    decide (s.2 ≤ s.1)
  if reaches (estimate + 1) then estimate + 1
  else if reaches estimate then estimate else estimate - 1

/-- The numbers that round to a double, as fractions over `2 · den` of the double's own fraction
`num / den`; the ends belong to the interval if the significand is even. -/
structure Interval where
  low : Nat
  high : Nat
  den : Nat
  closed : Bool

/-- The interval of the double with this significand and exponent.  Below a power of two the
doubles lie twice as close. -/
def interval (m : Nat) (e : Int) : Interval :=
  let closed := m % 2 = 0
  let s := scaled 2 m 1 e
  let unit := (scaled 2 1 1 e).1
  if m = significandLimit / 2 && leastExponent < e then
    ⟨4 * s.1 - unit, 4 * s.1 + 2 * unit, 4 * s.2, closed⟩
  else ⟨4 * s.1 - 2 * unit, 4 * s.1 + 2 * unit, 4 * s.2, closed⟩

def Interval.holds (i : Interval) (d : Decimals) : Bool :=
  let s := scaled 10 d.digits 1 d.exponent
  let low := i.low * s.2
  let high := i.high * s.2
  let x := s.1 * i.den
  if i.closed then low ≤ x && x ≤ high else low < x && x < high

/-- The neighbours of `num / den` on the grid of `10 ^ exponent` that lie in the interval, the
nearer one if both do. -/
def candidate (i : Interval) (num den : Nat) (exponent : Int) : Option Decimals :=
  let s := scaled 10 num den (-exponent)
  let below : Decimals := ⟨s.1 / s.2, exponent⟩
  let above : Decimals := ⟨s.1 / s.2 + 1, exponent⟩
  match i.holds below, i.holds above with
  | true, true =>
    let r := 2 * (s.1 % s.2)
    if r < s.2 || (r = s.2 && below.digits % 2 = 0) then some below else some above
  | true, false => some below
  | false, true => some above
  | false, false => none

/-- The first candidate, with one digit more at each step. -/
def search (i : Interval) (num den : Nat) : Nat → Int → Decimals
  | 0, exponent =>
    let s := scaled 10 num den (-exponent)
    ⟨s.1 / s.2, exponent⟩
  | fuel + 1, exponent =>
    match candidate i num den exponent with
    | some d => d
    | none => search i num den fuel (exponent - 1)

def digitChars (n : Nat) : List Char := Nat.toDigits 10 n

/-- The digits without the zeros at their end, and the place of the decimal point counted from the
first digit. -/
def significant (d : Decimals) : List Char × Int :=
  let cs := digitChars d.digits
  ((cs.reverse.dropWhile (· = '0')).reverse, cs.length + d.exponent)

/-- The shortest digits of the positive double with this significand and exponent.  Seventeen
digits are always enough. -/
def shortest (m : Nat) (e : Int) : List Char × Int :=
  let s := scaled 2 m 1 e
  significant (search (interval m e) s.1 s.2 17 (leadingExponent s.1 s.2))

/-- Digits with a decimal point after `point` of them, or with zeros up to the point; a whole number
keeps one zero after its point. -/
def positional (digits : List Char) (point : Int) : List Char :=
  if point ≤ 0 then '0' :: '.' :: List.replicate point.natAbs '0' ++ digits
  else if digits.length ≤ point.natAbs then
    digits ++ List.replicate (point.natAbs - digits.length) '0' ++ ['.', '0']
  else digits.take point.natAbs ++ '.' :: digits.drop point.natAbs

/-- Digits with a point after the first one and a power of ten, whose exponent has a sign and at
least two digits. -/
def scientific (digits : List Char) (point : Int) : List Char :=
  let exponent := point - 1
  let mantissa := match digits with
    | d :: (f :: fs) => d :: '.' :: f :: fs
    | ds => ds
  let width := digitChars exponent.natAbs
  mantissa ++ 'e' :: (if exponent < 0 then '-' else '+') ::
    (if width.length < 2 then '0' :: width else width)

/-- Numbers from `10 ^ -4` up to `10 ^ 16` are written positionally. -/
def magnitudeText (digits : List Char) (point : Int) : List Char :=
  if -4 < point && point ≤ 16 then positional digits point else scientific digits point

/-- The shortest text that reads back as the double. -/
def toText : Double → String
  | nan => "nan"
  | infinite negative => if negative then "-inf" else "inf"
  | finite negative m e =>
    let body := if m = 0 then ['0', '.', '0'] else
      let d := shortest m e
      magnitudeText d.1 d.2
    String.ofList (if negative then '-' :: body else body)

end NamedQuery.Double
