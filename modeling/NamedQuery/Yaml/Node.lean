import NamedQuery.Text.Pieces
import NamedQuery.Yaml.Token

/-!
# Nodes of a YAML document

The graph that the tokens of a document stand for.  Nodes are numbered and hold one another by their
numbers, so that one node can stand in several places, even within itself.  Every node has a tag,
which tells what value it means; a plain scalar without a tag gets one from its form.
-/

namespace NamedQuery.Yaml

inductive Node where
  | scalar (tag : String) (content : Content)
  | sequence (tag : String) (items : List Nat)
  | mapping (tag : String) (entries : List (Nat × Nat))
deriving Repr

namespace Node

def tag : Node → String
  | scalar t _ => t
  | sequence t _ => t
  | mapping t _ => t

def retag (t : String) : Node → Node
  | scalar _ content => scalar t content
  | sequence _ items => sequence t items
  | mapping _ entries => mapping t entries

def entries : Node → List (Nat × Nat)
  | mapping _ entries => entries
  | _ => []

end Node

namespace Tag

def standard : String := "tag:yaml.org,2002:"

def bool : String := standard ++ "bool"
def int : String := standard ++ "int"
def float : String := standard ++ "float"
def null : String := standard ++ "null"
def timestamp : String := standard ++ "timestamp"
def merge : String := standard ++ "merge"
def value : String := standard ++ "value"
def str : String := standard ++ "str"
def binary : String := standard ++ "binary"
def seq : String := standard ++ "seq"
def map : String := standard ++ "map"
def set : String := standard ++ "set"
def omap : String := standard ++ "omap"
def pairs : String := standard ++ "pairs"

/-- The tag of the marks of the format itself, which mean no value. -/
def mark : String := standard ++ "yaml"

end Tag

namespace Form

def boolWords : List String :=
  ["yes", "Yes", "YES", "no", "No", "NO", "true", "True", "TRUE", "false", "False", "FALSE", "on",
    "On", "ON", "off", "Off", "OFF"]

def nullWords : List String := ["", "~", "null", "Null", "NULL"]

def markWords : List String := ["!", "&", "*"]

def withoutSign : List Char → List Char
  | '-' :: cs => cs
  | '+' :: cs => cs
  | cs => cs

/-- Digits with underscores between and behind them. -/
def isGrouped : List Char → Bool
  | [] => false
  | c :: cs => c.isDigit && cs.all fun x => x.isDigit || x = '_'

/-- A nonempty run of characters with the property, or underscores. -/
def isRun (p : Char → Bool) (cs : List Char) : Bool := !cs.isEmpty && cs.all fun c => p c || c = '_'

/-- A number below sixty. -/
def isSixtieth : List Char → Bool
  | [c] => c.isDigit
  | [c, d] => '0' ≤ c && c ≤ '5' && d.isDigit
  | _ => false

/-- Whole numbers in the bases two, eight, sixteen and ten, and those in base sixty. -/
def isInt (cs : List Char) : Bool :=
  match withoutSign cs with
  | [] => false
  | '0' :: 'b' :: rest => isRun (fun c => c = '0' || c = '1') rest
  | '0' :: 'x' :: rest =>
    isRun (fun c => c.isDigit || ('a' ≤ c && c ≤ 'f') || ('A' ≤ c && c ≤ 'F')) rest
  | '0' :: rest => rest.isEmpty || isRun (fun c => '0' ≤ c && c ≤ '7') rest
  | body =>
    match Text.pieces ':' body with
    | first :: rest => isGrouped first && rest.all isSixtieth
    | [] => false

/-- Nothing, or a power of ten with a sign. -/
def isPower : List Char → Bool
  | [] => true
  | mark :: sign :: digits =>
    (mark = 'e' || mark = 'E') && (sign = '-' || sign = '+') && !digits.isEmpty &&
      digits.all Char.isDigit
  | _ => false

/-- The rest after digits and underscores. -/
def afterDigits (cs : List Char) : List Char := cs.dropWhile fun c => c.isDigit || c = '_'

def isDecimal (cs : List Char) : Bool :=
  match cs with
  | '.' :: d :: rest => d.isDigit && isPower (afterDigits rest)
  | _ => false

/-- Numbers with a point: decimal ones and those in base sixty. -/
def isPointed (cs : List Char) : Bool :=
  let whole := cs.takeWhile (· ≠ '.')
  match cs.dropWhile (· ≠ '.') with
  | _ :: fraction =>
    match Text.pieces ':' whole with
    | [only] => isGrouped only && isPower (afterDigits fraction)
    | first :: rest =>
      isGrouped first && rest.all isSixtieth && (afterDigits fraction).isEmpty
    | [] => false
  | [] => false

def infinityWords : List String := [".inf", ".Inf", ".INF"]

def nanWords : List String := [".nan", ".NaN", ".NAN"]

def isFloat (cs : List Char) : Bool :=
  isDecimal cs || isPointed (withoutSign cs) ||
    infinityWords.contains (String.ofList (withoutSign cs)) || nanWords.contains (String.ofList cs)

/-- The fields of a date with or without a time, as they are written. -/
structure Timestamp where
  year : List Char
  month : List Char
  day : List Char
  /-- Hour, minute, second and fraction. -/
  time : Option (List Char × List Char × List Char × List Char)
  /-- `Z`, or a sign with hours and minutes. -/
  zone : Option (Option (Char × List Char × List Char))

def shortNumber : List Char → Option (List Char × List Char)
  | c :: d :: rest =>
    if c.isDigit then some (if d.isDigit then ([c, d], rest) else ([c], d :: rest)) else none
  | [c] => if c.isDigit then some ([c], []) else none
  | [] => none

def longNumber (width : Nat) (cs : List Char) : Option (List Char × List Char) :=
  let ds := cs.take width
  if ds.length = width && ds.all Char.isDigit then some (ds, cs.drop width) else none

def behind (mark : Char) : List Char → Option (List Char)
  | c :: cs => if c = mark then some cs else none
  | [] => none

/-- The zone at the end of a time. -/
def zone? (cs : List Char) : Option (Option (Option (Char × List Char × List Char))) :=
  match cs.dropWhile fun c => c = ' ' || c = '\t' with
  | [] => if cs.isEmpty then some none else none
  | ['Z'] => some (some none)
  | sign :: rest => do
    if sign ≠ '+' && sign ≠ '-' then none
    else
      let (hours, rest) ← shortNumber rest
      match rest with
      | [] => some (some (some (sign, hours, ['0'])))
      | rest => do
        let (minutes, rest) ← longNumber 2 (← behind ':' rest)
        if rest.isEmpty then some (some (some (sign, hours, minutes))) else none

def time? (date : Timestamp) (cs : List Char) : Option Timestamp := do
  let (hour, cs) ← shortNumber cs
  let (minute, cs) ← longNumber 2 (← behind ':' cs)
  let (second, cs) ← longNumber 2 (← behind ':' cs)
  let (fraction, cs) := match cs with
    | '.' :: rest => (rest.takeWhile Char.isDigit, rest.dropWhile Char.isDigit)
    | cs => ([], cs)
  let zone ← zone? cs
  some { date with time := some (hour, minute, second, fraction), zone }

/-- The beginning of a time: a letter, or a gap. -/
def timeStart? : List Char → Option (List Char)
  | c :: rest =>
    if c = 'T' || c = 't' then some rest
    else if c = ' ' || c = '\t' then some (rest.dropWhile fun x => x = ' ' || x = '\t')
    else none
  | [] => none

/-- The text without the line end behind it, which the forms overlook. -/
def withoutLineEnd (cs : List Char) : List Char :=
  if cs.getLast? = some '\n' && cs.length ≠ 1 then cs.dropLast else cs

def timestamp? (cs : List Char) : Option Timestamp := do
  let (year, cs) ← longNumber 4 (withoutLineEnd cs)
  let (month, cs) ← shortNumber (← behind '-' cs)
  let (day, cs) ← shortNumber (← behind '-' cs)
  let date : Timestamp := { year, month, day, time := none, zone := none }
  if cs.isEmpty then some date else time? date (← timeStart? cs)

/-- A plain scalar is a date only with all its digits; with a time they may be fewer. -/
def isTimestamp (cs : List Char) : Bool :=
  match timestamp? cs with
  | some t => t.time.isSome || cs.length = 10
  | none => false

/-- The tag that the form of a text gives it. -/
def tagOfText (cs : List Char) : String :=
  let s := String.ofList cs
  if boolWords.contains s then Tag.bool
  else if isFloat cs then Tag.float
  else if isInt cs then Tag.int
  else if s = "<<" then Tag.merge
  else if nullWords.contains s then Tag.null
  else if isTimestamp cs then Tag.timestamp
  else if s = "=" then Tag.value
  else if markWords.contains s then Tag.mark
  else Tag.str

/-- The tag that a plain scalar gets from its form. -/
def tagOf : Content → String
  | .text s => tagOfText (withoutLineEnd s.toList)
  | .broken _ => Tag.str

end Form

end NamedQuery.Yaml
