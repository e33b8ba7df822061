import NamedQuery.Time.Calendar

/-!
# Reading ISO 8601 forms

Dates and times of day as `2024-01-02`, `2024-W01-2`, `03:04:05.25+01:00` and a date with a time
behind any one separating character.  The separators within a date or a time may all be left out.
-/

namespace NamedQuery.Iso

/-- Reads `width` decimal digits after the number `n`. -/
def digits (n : Nat) : Nat → List Char → Option (Nat × List Char)
  | 0, cs => some (n, cs)
  | width + 1, c :: cs => if c.isDigit then digits (10 * n + (c.toNat - 48)) width cs else none
  | _ + 1, [] => none

/-- Drops the dash that must come next, if parts are separated. -/
def dash (separated : Bool) (cs : List Char) : Option (List Char) :=
  if separated then (if cs.head? = some '-' then some (cs.drop 1) else none) else some cs

structure DateFields where
  year : Nat
  month : Nat
  day : Nat

/-- A date by its week: the week and its day, which may be left out at the end of the text.  The
weeks before the first year have no months. -/
def weekFields (year : Nat) (separated : Bool) (cs : List Char) : Option DateFields := do
  let (week, cs) ← digits 0 2 cs
  let (day, _) ← if cs.isEmpty then some (1, []) else digits 0 1 (← dash separated cs)
  let d ← Date.ofWeek? year week day
  some (if year = 0 then ⟨1, 0, 1⟩ else ⟨d.year, d.month, d.day⟩)

/-- The fields of the date at the front of a text. -/
def dateFields (cs : List Char) : Option DateFields := do
  let (year, cs) ← digits 0 4 cs
  let separated := cs.head? = some '-'
  let cs ← dash separated cs
  if cs.head? = some 'W' then weekFields year separated (cs.drop 1)
  else
    let (month, cs) ← digits 0 2 cs
    let (day, _) ← digits 0 2 (← dash separated cs)
    some ⟨year, month, day⟩

/-- The number of characters in the date at the front of a text with a time behind it.  A day of the
week without a dash before it is told from the hours by the even number of digits in a time. -/
def dateLength (cs : List Char) : Nat :=
  let isDigitAt (n : Nat) : Bool := (cs[n]?).any Char.isDigit
  if cs.length = 7 then 7
  else if cs[4]? = some '-' then
    if cs[5]? = some 'W' then
      if cs[8]? = some '-' then (if isDigitAt 10 then 8 else 10) else 8
    else 10
  else if cs[4]? = some 'W' then
    let stop := 7 + ((cs.drop 7).takeWhile Char.isDigit).length
    if stop < 9 then stop else if stop % 2 = 0 then 7 else 8
  else 8

structure ClockFields where
  hour : Nat
  minute : Nat
  second : Nat
  microsecond : Nat
  /-- Whether the text ends behind the fields. -/
  isWhole : Bool

/-- Whether a text ends here, or with a null character. -/
def isEnd (cs : List Char) : Bool := cs.isEmpty || cs.head? = some '\x00'

/-- The fields that have been read: hour, minute and second. -/
def fieldsOf (places : List Nat) (microsecond : Nat) (isWhole : Bool) : ClockFields :=
  ⟨places.getD 0 0, places.getD 1 0, places.getD 2 0, microsecond, isWhole⟩

/-- A fraction of a second in microseconds, which takes at most the next `room` bytes; further
digits are cut off. -/
def fraction (places : List Nat) (cs : List Char) (room : Nat) : Option ClockFields := do
  let width := min room 6
  let (n, rest) ← digits 0 width cs
  some (fieldsOf places (n * Nat.pow 10 (6 - width)) (isEnd (rest.dropWhile Char.isDigit)))

/-- Reads `missing` more places of a time that ends within `room` bytes, then a fraction.  `colons`
tells whether the places are separated, once the first of them is known. -/
def clockFields (colons : Bool) (places : List Nat) (cs : List Char) (room : Nat) :
    Nat → Option ClockFields
  | 0 => fraction places cs room
  | missing + 1 => do
    let (n, rest) ← digits 0 2 cs
    let places := places ++ [n]
    let colons := if places.length = 1 then rest.head? = some ':' else colons
    let left := room - 2
    if left ≤ 1 then some (fieldsOf places 0 (isEnd rest))
    else if colons && rest.head? = some ':' then
      clockFields colons places (rest.drop 1) (left - 1) missing
    else if rest.head? = some '.' || rest.head? = some ',' then
      fraction places (rest.drop 1) (left - 1)
    else if colons then none
    else clockFields colons places rest left missing

def isZoneMark (c : Char) : Bool := c = '+' || c = '-' || c = 'Z'

/-- A time whose parts may be out of range, and the distance of its offset from universal time. -/
structure TimeFields where
  clock : ClockFields
  east : Option Duration

/-- The offset that its fields make; one of less than a second counts as none. -/
def eastOf (negative : Bool) (f : ClockFields) : Duration :=
  let seconds := (f.hour * 60 + f.minute) * 60 + f.second
  let n : Int := if seconds = 0 then 0 else seconds * 1000000 + f.microsecond
  ⟨if negative then -n else n⟩

def byteLength (cs : List Char) : Nat := (String.ofList cs).utf8ByteSize

/-- A time with an optional offset, up to the end of the text. -/
def timeFields (cs : List Char) : Option TimeFields := do
  let front := cs.takeWhile fun c => !isZoneMark c
  let clock ← clockFields true [] cs (byteLength front) 3
  match cs.drop front.length with
  | [] => if clock.isWhole then some ⟨clock, none⟩ else none
  | mark :: rest =>
    if mark = 'Z' then (if isEnd rest then some ⟨clock, some ⟨0⟩⟩ else none)
    else
      let zone ← clockFields true [] rest (byteLength rest) 3
      if zone.isWhole then some ⟨clock, some (eastOf (mark = '-') zone)⟩ else none

/-- The offset of a time, if it has one. -/
def offsetOf (t : TimeFields) : Except CalendarFault (Option Offset) :=
  match t.east with
  | none => .ok none
  | some east => (Offset.make east).map some

def clockOf (t : ClockFields) (offset : Option Offset) : Except CalendarFault Clock :=
  Clock.make t.hour t.minute t.second t.microsecond offset

/-- The date that a text writes.  Its length in bytes is that of one of the forms. -/
def date (s : String) : Except CalendarFault Date :=
  match if [7, 8, 10].contains s.utf8ByteSize then dateFields s.toList else none with
  | some d => Date.make d.year d.month d.day
  | none => .error (.malformed s)

/-- The time of day that a text writes, with or without the letter that begins a time. -/
def clock (s : String) : Except CalendarFault Clock :=
  let cs := if s.toList.head? = some 'T' then s.toList.drop 1 else s.toList
  match timeFields cs with
  | some t => do clockOf t.clock (← offsetOf t)
  | none => .error (.malformed s)

/-- The date and the time that a text writes; the time may be missing. -/
def moment (s : String) : Except CalendarFault Moment :=
  let cs := s.toList
  let length := dateLength cs
  let midnight : TimeFields := ⟨⟨0, 0, 0, 0, true⟩, none⟩
  let fields := do
    if s.utf8ByteSize < 7 then none
    else
      let d ← dateFields (cs.take length)
      let rest := cs.drop length
      let t ← if rest.isEmpty then some midnight else timeFields (rest.drop 1)
      some (d, t)
  match fields with
  | some (d, t) => do
    let offset ← offsetOf t
    let date ← Date.make d.year d.month d.day
    .ok ⟨date, ← clockOf t.clock offset⟩
  | none => .error (.malformed s)

end NamedQuery.Iso
