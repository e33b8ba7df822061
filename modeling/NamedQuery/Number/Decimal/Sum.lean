import NamedQuery.Number.Decimal

/-!
# Sums of decimals

A sum is exact if it has at most 28 digits; otherwise it is rounded to that many, a half going to
the even neighbour.
-/

namespace NamedQuery.Decimal

/-- The number of digits that a sum may have. -/
def precision : Nat := 28

/-- The greatest exponent of the first digit of a sum. -/
def sumGreatest : Int := 999999

/-- The least exponent of the last digit of a sum. -/
def sumLeast : Int := -1000026

def digitCount (n : Nat) : Nat := (Double.digitChars n).length

/-- A number as a sum may be: with no more digits than fit, and within the range of sums. -/
def fitted (negative : Bool) (n : Nat) (exponent : Int) : Except Fault Decimal :=
  if n = 0 then .ok (finite negative 0 (max sumLeast (min exponent sumGreatest)))
  else
    let least := max sumLeast (exponent + digitCount n - precision)
    if exponent < least then
      let m := Double.roundHalfEven n (Nat.pow 10 (least - exponent).toNat)
      -- a carry makes one digit more, and it is a zero
      let carried := precision < digitCount m
      let m := if carried then m / 10 else m
      let e := if carried then least + 1 else least
      if sumGreatest < e + digitCount m - 1 then .error .tooLarge else .ok (finite negative m e)
    else if sumGreatest < exponent + digitCount n - 1 then .error .tooLarge
    else .ok (finite negative n exponent)

structure Term where
  negative : Bool
  size : Nat
  exponent : Int

/-- The term with the lower exponent, which only matters by its sign if it lies far below the other
one: then it stands for any number of its size. -/
def Term.lifted (high low : Term) : Term :=
  let floor := high.exponent + min (-1) ((digitCount high.size : Int) - precision - 2)
  if low.exponent + digitCount low.size - 1 < floor then { low with size := 1, exponent := floor }
  else low

def sumOf (high low : Term) : Except Fault Decimal :=
  let low := high.lifted low
  let raised := high.size * Nat.pow 10 (high.exponent - low.exponent).toNat
  let signed (t : Term) (n : Nat) : Int := if t.negative then -(n : Int) else n
  let total := signed high raised + signed low low.size
  fitted (total < 0) total.natAbs low.exponent

/-- A term next to a zero with this exponent. -/
def besideZero (t : Term) (exponent : Int) : Except Fault Decimal :=
  let least := max exponent (t.exponent - precision - 1)
  if least < t.exponent then
    fitted t.negative (t.size * Nat.pow 10 (t.exponent - least).toNat) least
  else fitted t.negative t.size t.exponent

/-- What is no number keeps as many of its digits as fit. -/
def quiet (negative : Bool) (payload : Nat) : Decimal :=
  nan negative false (payload % Nat.pow 10 precision)

def add : Decimal → Decimal → Except Fault Decimal
  | nan _ true _, _ => .error .undefined
  | _, nan _ true _ => .error .undefined
  | nan s false p, _ => .ok (quiet s p)
  | _, nan s false p => .ok (quiet s p)
  | infinite a, infinite b => if a = b then .ok (infinite a) else .error .undefined
  | infinite a, _ => .ok (infinite a)
  | _, infinite b => .ok (infinite b)
  | finite s 0 e, finite t 0 f => fitted (s && t) 0 (min e f)
  | finite _ 0 e, finite t n f => besideZero ⟨t, n, f⟩ e
  | finite s m e, finite _ 0 f => besideZero ⟨s, m, e⟩ f
  | finite s m e, finite t n f =>
    if f ≤ e then sumOf ⟨s, m, e⟩ ⟨t, n, f⟩ else sumOf ⟨t, n, f⟩ ⟨s, m, e⟩

def ofInt (n : Int) : Decimal := finite (n < 0) n.natAbs 0

end NamedQuery.Decimal
