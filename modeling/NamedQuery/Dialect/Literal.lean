import NamedQuery.Dialect
import NamedQuery.Options.Reading
import NamedQuery.Text.Doubled

/-!
# Literals

How a value is written in a statement, so that the database reads the same value back.  A text
becomes a string literal: its quotes are doubled, and so is every other character that the dialect
or the way to its database would read in a different sense.
-/

namespace NamedQuery.Dialect

/-- Whether a backslash in a string literal begins an escape. -/
def escapesBackslash : Dialect → Bool
  | mysql => true
  | mariadb => true
  | _ => false

/-- Whether statements pass a formatter that reads a percent sign. -/
def doublesPercent : Dialect → Bool
  | mysql => true
  | mariadb => true
  | postgresql => true
  | _ => false

def doublesInText (d : Dialect) (c : Char) : Bool :=
  c = '\'' || (d.doublesPercent && c = '%') || (d.escapesBackslash && c = '\\')

def doublesInBytes (d : Dialect) (c : Char) : Bool :=
  c = '\'' || (d.escapesBackslash && c = '\\')

def marksText (d : Dialect) (s : String) : Bool :=
  d = mssql && s.toList.any fun c => 128 ≤ c.toNat

def textLiteral (d : Dialect) (s : String) : String :=
  (if d.marksText s then "N" else "") ++ Text.enclosed (Text.doubled d.doublesInText s.toList)

def boolLiteral (d : Dialect) (b : Bool) : String :=
  match d with
  | sqlite | mssql | oracle => if b then "1" else "0"
  | mysql | mariadb | postgresql => if b then "true" else "false"

/-- Bytes are written as the text they encode. -/
def bytesLiteral? (d : Dialect) (content : List UInt8) : Option String :=
  (Options.decodeText content).map fun s => Text.enclosed (Text.doubled d.doublesInBytes s.toList)

/-- `text` in quotes, turned into a calendar value by a function that is told its format. -/
def converted (function text format : String) : String :=
  function ++ "('" ++ text ++ "', '" ++ format ++ "')"

def dateLiteral (d : Dialect) (x : Date) : String :=
  if d = oracle then converted "TO_DATE" x.toText "YYYY-MM-DD" else "'" ++ x.toText ++ "'"

/-- The time of day with six places of the second and without its offset. -/
def paddedClock (t : Clock) : String := t.hourMinuteSecond ++ "." ++ padded 6 t.microsecond

def momentLiteral (d : Dialect) (m : Moment) : String :=
  match d with
  | sqlite => "'" ++ m.date.toText ++ " " ++ paddedClock m.clock ++ "'"
  | oracle =>
    if m.clock.microsecond = 0 then converted "TO_DATE" m.toText "YYYY-MM-DD HH24:MI:SS"
    else converted "TO_TIMESTAMP" m.toText "YYYY-MM-DD HH24:MI:SS.FF"
  | _ => "'" ++ m.toText ++ "'"

def clockLiteral (d : Dialect) (t : Clock) : String :=
  if d = sqlite then "'" ++ paddedClock t ++ "'" else "'" ++ t.toText ++ "'"

/-- Only two dialects write a length of time. -/
def durationLiteral? (d : Dialect) (x : Duration) : Option String :=
  match d with
  | postgresql => some ("make_interval(secs=>" ++ x.seconds.toText ++ ")")
  | oracle => some ("NUMTODSINTERVAL(" ++ x.seconds.toText ++ ", 'SECOND')")
  | _ => none

def uuidLiteral (d : Dialect) (u : Uuid) : String :=
  match d with
  | postgresql | mssql => "'" ++ u.dashed ++ "'"
  | _ => Text.enclosed u.hex

/-- The literal of a value, if it has one.  A text in which halves of characters stand alone is
written with the characters that it shows as, like all of a statement. -/
def literal? (d : Dialect) : Value → Option String
  | .null => some "NULL"
  | .bool b => some (d.boolLiteral b)
  | .int n => Numeral.write? n
  | .float x => some x.toText
  | .decimal x => some x.toText
  | .str s => some (d.textLiteral s)
  | .broken points => some (d.textLiteral (Content.broken points))
  | .bytes content => d.bytesLiteral? content
  | .date x => some (d.dateLiteral x)
  | .moment m => some (d.momentLiteral m)
  | .clock t => some (d.clockLiteral t)
  | .duration x => d.durationLiteral? x
  | .uuid u => some (d.uuidLiteral u)
  | _ => none

/-- Why a value has no literal.  The message about this shows the value, so a value that cannot be
written fails as such. -/
def refusal (d : Dialect) (v : Value) : Error :=
  if v.isUnwritable then .unwritable else .unquotable v d.name

def quoteSingle (d : Dialect) (v : Value) : Except Error String :=
  match d.literal? v with
  | some s => .ok s
  | none => .error (d.refusal v)

mutual

/-- The literal of a value.  The items of a list or a tuple are written behind each other, to stand
in the parentheses of `IN`; an empty one is written as the value that equals nothing. -/
def quote (d : Dialect) : Value → Except Error String
  | .list [] => .ok "NULL"
  | .tuple [] => .ok "NULL"
  | .list items => do
    let texts ← quoteItems d items
    .ok (String.intercalate ", " texts)
  | .tuple items => do
    let texts ← quoteItems d items
    .ok (String.intercalate ", " texts)
  | v => quoteSingle d v

def quoteItems (d : Dialect) : List Value → Except Error (List String)
  | [] => .ok []
  | item :: rest => do
    let text ← quote d item
    let texts ← quoteItems d rest
    .ok (text :: texts)

end

end NamedQuery.Dialect
