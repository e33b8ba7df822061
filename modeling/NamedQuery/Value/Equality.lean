import NamedQuery.Value

/-!
# Equality of values

Numbers of different kinds are equal if they are the same number, and truth values count as zero
and one.  Collections are compared item by item; the order does not matter for sets and
dictionaries.  A value that is no number, and an object, are equal to nothing.
-/

namespace NamedQuery.Value

inductive Quantity where
  | finite (num : Int) (den : Nat) (power : Int)
  | infinite (negative : Bool)

/-- Whether `a · 10 ^ power` is `b`.  A power of ten beyond the size of `b` is not computed. -/
def isShifted (a b : Int) (power : Nat) : Bool :=
  if a = 0 then b = 0 else power ≤ b.natAbs.log2 && a * Nat.pow 10 power = b

def Quantity.same : Quantity → Quantity → Bool
  | finite a b p, finite c d q =>
    if q ≤ p then isShifted (a * d) (c * b) (p - q).toNat
    else isShifted (c * b) (a * d) (q - p).toNat
  | infinite a, infinite b => a = b
  | _, _ => false

def quantity? : Value → Option Quantity
  | bool b => some (.finite (if b then 1 else 0) 1 0)
  | int n => some (.finite n 1 0)
  | float (.infinite negative) => some (.infinite negative)
  | float x => x.toRatio?.map fun r => .finite (if r.1 then -(r.2.1 : Int) else r.2.1) r.2.2 0
  | decimal (.infinite negative) => some (.infinite negative)
  | decimal (.finite negative n e) => some (.finite (if negative then -(n : Int) else n) 1 e)
  | _ => none

def isNumeric : Value → Bool
  | bool _ => true
  | int _ => true
  | float _ => true
  | decimal _ => true
  | _ => false

/-- Whether a value is a decimal that takes part in no comparison. -/
def isSignaling : Value → Bool
  | decimal (.nan _ true _) => true
  | _ => false

/-- Whether the two values cannot even be compared. -/
def refusesComparison (v w : Value) : Bool :=
  (v.isSignaling && w.isNumeric) || (w.isSignaling && v.isNumeric)

/-- Equality of times: both have an offset and denote the same instant, or neither has one. -/
def sameTime (a b : Option Offset) (x y : Int) : Bool := (a.isSome == b.isSome) && x == y

/-- Equality of values that hold no further values. -/
def sameLeaf (v w : Value) : Bool :=
  match v, w with
  | null, null => true
  | bytes a, bytes b => a == b
  | date a, date b => a == b
  | moment a, moment b => sameTime a.clock.offset b.clock.offset a.instant b.instant
  | clock a, clock b => sameTime a.offset b.offset a.instant b.instant
  | duration a, duration b => a == b
  | uuid a, uuid b => a == b
  | broken a, broken b => a == b
  | v, w =>
    match v.text?, w.text? with
    | some a, some b => a == b
    | _, _ =>
      match v.quantity?, w.quantity? with
      | some a, some b => a.same b
      | _, _ => false

mutual

def same : Value → Value → Bool
  | list xs, list ys => sameItems xs ys
  | tuple xs, tuple ys => sameItems xs ys
  | set xs, set ys => xs.length == ys.length && allAmong xs ys
  | dict xs, dict ys => xs.length == ys.length && allEntries xs ys
  | v, w => sameLeaf v w

def sameItems : List Value → List Value → Bool
  | [], [] => true
  | x :: xs, y :: ys => same x y && sameItems xs ys
  | _, _ => false

/-- Every value of the first list is equal to one of the second. -/
def allAmong : List Value → List Value → Bool
  | [], _ => true
  | x :: xs, ys => ys.any (fun y => same x y) && allAmong xs ys

/-- Every entry of the first list is equal to one of the second. -/
def allEntries : List (Value × Value) → List (Value × Value) → Bool
  | [], _ => true
  | (k, v) :: xs, ys => ys.any (fun e => same k e.1 && same v e.2) && allEntries xs ys

end

mutual

/-- The first value within a value that keeps it from being the key of an entry. -/
def unhashable? : Value → Option Value
  | list items => some (list items)
  | set items => some (set items)
  | dict entries => some (dict entries)
  | tuple items => unhashableAmong? items
  | looped heap place => some (looped heap place)
  | link place => some (link place)
  | v => if v.isSignaling then some v else none

def unhashableAmong? : List Value → Option Value
  | [] => none
  | item :: rest =>
    match unhashable? item with
    | some v => some v
    | none => unhashableAmong? rest

end

def isKey (v : Value) : Bool := v.unhashable?.isNone

def lookup (key : Value) (entries : List (Value × Value)) : Option Value :=
  (entries.find? fun e => same e.1 key).map Prod.snd

/-- Texts are equal keys only if they are the same. -/
theorem same_str (s t : String) : same (.str s) (.str t) = (s == t) := by
  simp [same, sameLeaf, text?]

theorem lookup_cons (key : Value) (e : Value × Value) (entries : List (Value × Value)) :
    lookup key (e :: entries) = if same e.1 key then some e.2 else lookup key entries := by
  unfold lookup
  rw [List.find?_cons]
  cases same e.1 key with
  | true => rfl
  | false => rfl

/-- Gives a key a value: a key that is there keeps its place, a new one comes last. -/
def insertEntry (entries : List (Value × Value)) (key value : Value) : List (Value × Value) :=
  if entries.any (fun e => same e.1 key) then
    entries.map fun e => if same e.1 key then (e.1, value) else e
  else entries ++ [(key, value)]

end NamedQuery.Value
