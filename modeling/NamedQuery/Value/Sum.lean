import NamedQuery.Error
import NamedQuery.Number.Decimal.Sum

/-!
# Sums of values

Numbers are added, with truth values as zero and one; lengths of time are added to each other and to
dates; texts, bytes and lists are appended to others of their kind.  All other sums are refused, and
the message names the kinds of the two values.
-/

namespace NamedQuery.Value

def integer? : Value → Option Int
  | bool b => some (if b then 1 else 0)
  | int n => some n
  | _ => none

/-- A decimal, or an integer as one. -/
def decimal? : Value → Option Decimal
  | decimal d => some d
  | v => v.integer?.map Decimal.ofInt

/-- A double, or the one nearest to an integer. -/
def double? : Value → Option Double
  | float x => some x
  | v => v.integer?.map Double.ofInt

/-- The sum of two doubles, or of a double and an integer, which must not lie beyond all doubles. -/
def addDoubles (v w : Value) : Option (Except Error Value) :=
  let isBeyond (v : Value) : Bool := v.integer?.any fun n => !(Double.ofInt n).isFinite
  match v.double?, w.double? with
  | some x, some y =>
    some (if isBeyond v || isBeyond w then .error .beyondDoubles else .ok (float (x.add y)))
  | _, _ => none

def addDecimals (v w : Value) : Option (Except Error Value) :=
  match v.decimal?, w.decimal? with
  | some a, some b =>
    some <| match a.add b with
      | .ok d => .ok (decimal d)
      | .error fault => .error (.decimal fault)
  | _, _ => none

def addNumbers (v w : Value) : Option (Except Error Value) :=
  match v, w with
  | decimal _, w => addDecimals v w
  | v, decimal _ => addDecimals v w
  | float _, w => addDoubles v w
  | v, float _ => addDoubles v w
  | v, w =>
    match v.integer?, w.integer? with
    | some a, some b => some (.ok (int (a + b)))
    | _, _ => none

/-- A date, a moment or a length of time, later by a length of time. -/
def addDuration (d : Duration) : Value → Option (Except Error Value)
  | date x => some (ofCalendar date (x.addDays d.days))
  | moment m => some (ofCalendar moment (m.add d))
  | duration e => some (ofCalendar duration (Duration.make (e.microseconds + d.microseconds)))
  | _ => none

/-- The sum of two values of the calendar, if they can be added. -/
def addTimes (v w : Value) : Option (Except Error Value) :=
  match v, w with
  | v, duration d => addDuration d v
  | duration d, w => addDuration d w
  | _, _ => none

def refusal (v : Value) (right : String) : Error :=
  match v with
  | list _ => .unsupportedAppend "list" right
  | tuple _ => .unsupportedAppend "tuple" right
  | bytes _ => .unsupportedBytes right
  | v =>
    if v.text?.isSome then .unsupportedAppend "str" right
    else .unsupportedSum v.longTypeName right

def add (v w : Value) : Except Error Value :=
  match v, w with
  | list xs, list ys => .ok (list (xs ++ ys))
  | tuple xs, tuple ys => .ok (tuple (xs ++ ys))
  | bytes xs, bytes ys => .ok (bytes (xs ++ ys))
  | v, w =>
    match v.text?, w.text? with
    | some s, some t => .ok (str (s ++ t))
    | _, _ =>
      match addNumbers v w, addTimes v w with
      | some sum, _ => sum
      | none, some sum => sum
      | none, none => .error (refusal v w.longTypeName)

end NamedQuery.Value
