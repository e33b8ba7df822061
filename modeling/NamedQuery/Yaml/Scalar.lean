import NamedQuery.Yaml.Node
import NamedQuery.Text.LowerCase

/-!
# Values of YAML scalars

What the text of a scalar means under each of the standard tags.  A text may have the form of a
number or a date and still mean none.
-/

namespace NamedQuery.Yaml.Scalar

def bool (c : Content) : Except Fault Value :=
  let word := c.mapText Text.lowerCase
  if [Content.text "yes", .text "true", .text "on"].contains word then .ok (.bool true)
  else if [Content.text "no", .text "false", .text "off"].contains word then .ok (.bool false)
  else .error (.meaningless (.noTruthWord word))

/-- The number that `read` finds in code points. -/
def numeral {α : Type} (read : String → Except NumeralFault α) (points : List Nat) :
    Except Fault α :=
  match read (String.ofList (Content.shape points)) with
  | .ok x => .ok x
  | .error fault =>
    .error (.meaningless (.numeral (fault.ofContent (Content.ofPoints points))))

def wholeIn (base : Nat) : List Nat → Except Fault Int := numeral (Numeral.whole base)

def decimal : List Nat → Except Fault Double := numeral Numeral.double

def withoutLines (c : Content) : List Nat := c.points.filter (· ≠ '_'.toNat)

/-- Whether a number that is not empty begins with a minus, and what follows its sign. -/
def splitSign (points : List Nat) : Except Fault (Bool × List Nat) :=
  match points with
  | [] => .error (.meaningless .emptyNumber)
  | first :: rest =>
    .ok (first = '-'.toNat,
      if first = '-'.toNat || first = '+'.toNat then rest else points)

/-- The parts of a number between colons. -/
def places (points : List Nat) : List (List Nat) := Text.pieces ':'.toNat points

/-- The sum of places, each one worth sixty of the next. -/
def sexagesimal (places : List (List Nat)) : Except Fault Int := do
  let values ← places.mapM (wholeIn 10)
  .ok (values.foldl (fun n d => 60 * n + d) 0)

def magnitude (points : List Nat) : Except Fault Int :=
  match Content.shape points with
  | [] => .error (.meaningless .emptyNumber)
  | ['0'] => .ok 0
  | '0' :: 'b' :: _ => wholeIn 2 (points.drop 2)
  | '0' :: 'x' :: _ => wholeIn 16 (points.drop 2)
  | '0' :: _ => wholeIn 8 points
  | cs => if cs.contains ':' then sexagesimal (places points) else wholeIn 10 points

def int (c : Content) : Except Fault Value := do
  let (negative, body) ← splitSign (withoutLines c)
  let n ← magnitude body
  .ok (.int (if negative then -n else n))

/-- The sum of places from the last one to the first, each one worth sixty of the one before. -/
def sexagesimalDouble (sum : Double) (unit : Nat) : List Double → Except Fault Double
  | [] => .ok sum
  | d :: rest =>
    let scale := Double.ofInt unit
    if scale.isFinite then sexagesimalDouble (sum.add (d.mul scale)) (60 * unit) rest
    else .error (.meaningless .beyondDoubles)

def infiniteWord : List Char := ".inf".toList

def nanWord : List Char := ".nan".toList

/-- The sign of a number with a point and what follows it, in lower case. -/
def splitDouble (c : Content) : Except Fault (Bool × List Nat) :=
  splitSign ((Content.ofPoints (withoutLines c)).mapText Text.lowerCase).points

def float (c : Content) : Except Fault Value := do
  let (negative, body) ← splitDouble c
  let x ←
    if Content.shape body = infiniteWord then .ok (Double.infinite false)
    else if Content.shape body = nanWord then .ok Double.nan
    else if body.contains ':'.toNat then do
      let values ← (places body).mapM decimal
      sexagesimalDouble Double.zero 1 values.reverse
    else decimal body
  .ok (.float (if negative then x.neg else x))

/-- Whether a content is the word for what is no number.  All such scalars are one value; in any
other form each of them is a value of its own. -/
def isNanWord (c : Content) : Bool :=
  match splitDouble c with
  | .ok (_, body) => Content.shape body = nanWord
  | .error _ => false

/-- The values of the letters that bytes are written in. -/
def sextet (c : Char) : Option Nat :=
  if 'A' ≤ c && c ≤ 'Z' then some (c.toNat - 65)
  else if 'a' ≤ c && c ≤ 'z' then some (c.toNat - 71)
  else if c.isDigit then some (c.toNat + 4)
  else if c = '+' then some 62
  else if c = '/' then some 63
  else none

/-- The bytes that letters write, four letters for three bytes.  `place` counts the letters since
the last full group, `carry` holds their bits that are not in a byte yet, `signs` counts equals
signs in a row; any other character is skipped. -/
def bytesOf (place carry signs : Nat) : List Char → Option (List UInt8)
  | [] => if place = 0 then some [] else none
  | c :: rest =>
    if c = '=' then
      if 2 ≤ place then
        if 4 ≤ place + signs + 1 then some [] else bytesOf place carry (signs + 1) rest
      else bytesOf place carry signs rest
    else
      match sextet c with
      | none => bytesOf place carry signs rest
      | some d =>
        match place with
        | 0 => bytesOf 1 d 0 rest
        | 1 => (bytesOf 2 (d % 16) 0 rest).map ((carry * 4 + d / 16).toUInt8 :: ·)
        | 2 => (bytesOf 3 (d % 4) 0 rest).map ((carry * 16 + d / 4).toUInt8 :: ·)
        | _ => (bytesOf 0 0 0 rest).map ((carry * 64 + d).toUInt8 :: ·)

def binary (s : String) : Except Fault Value :=
  if s.toList.all fun c => c.toNat < 128 then
    match bytesOf 0 0 0 s.toList with
    | some bytes => .ok (.bytes bytes)
    | none => .error .malformed
  else .error .malformed

def number (cs : List Char) : Nat := Numeral.valueIn 10 0 cs

def calendar {α : Type} (result : Except CalendarFault α) : Except Fault α :=
  match result with
  | .ok a => .ok a
  | .error fault => .error (.meaningless (.calendar fault))

def dateOf (t : Form.Timestamp) : Except Fault Date :=
  calendar (Date.make (number t.year) (number t.month) (number t.day))

/-- The offset of a zone, less than a day. -/
def offsetOf : Option (Char × List Char × List Char) → Except Fault Offset
  | none => .ok ⟨⟨0⟩⟩
  | some (sign, hours, minutes) =>
    let size : Int := (number hours * 60 + number minutes) * 60000000
    calendar (Offset.make ⟨if sign = '-' then -size else size⟩)

def fraction (cs : List Char) : Nat := number ((cs ++ List.replicate 6 '0').take 6)

def timestamp (s : String) : Except Fault Value :=
  match Form.timestamp? s.toList with
  | none =>
    .error (.meaningless (.missingAttribute (.ofObject "NoneType") "groupdict"))
  | some t =>
    match t.time with
    | none => do
      let d ← dateOf t
      .ok (.date d)
    | some (hour, minute, second, places) => do
      let offset ← match t.zone with
        | none => .ok none
        | some z => (offsetOf z).map some
      let d ← dateOf t
      let clock ← calendar
        (Clock.make (number hour) (number minute) (number second) (fraction places) offset)
      .ok (.moment ⟨d, clock⟩)

end NamedQuery.Yaml.Scalar
