import NamedQuery.Options
import NamedQuery.Error
import NamedQuery.Text.Blank
import NamedQuery.Text.Word

/-!
# Reading options

Options are read from a mapping.  Each field is checked on its own and all complaints are
collected, those about known fields in the order of the fields, then one for each unknown key in the
order of the mapping.
-/

namespace NamedQuery.Options

def decodeText (content : List UInt8) : Option String := String.fromUTF8? ⟨content.toArray⟩

/-- Reads a text: a string, the word of an arity, or encoded bytes. -/
def readText (v : Value) : Except Complaint Content :=
  match v.content?, v with
  | some c, _ => .ok c
  | none, .bytes content =>
    match decodeText content with
    | some s => .ok (.text s)
    | none => .error .undecodable
  | none, _ => .error .notText

/-- Reads an optional clause.  A blank string counts as absent. -/
def readClause (v : Value) : Except Complaint (Option Content) :=
  match v with
  | .null => .ok none
  | .str s => .ok (if Text.isBlankText s then none else some (.text s))
  | v => (readText v).map some

/-- Reads digits behind an optional minus.  No zero stands before another digit. -/
def readPlain (cs : List Char) : Option Int :=
  let negative := cs.head? = some '-'
  let digits := if negative then cs.drop 1 else cs
  if digits.isEmpty || !digits.all Char.isDigit || Numeral.longest < digits.length ||
      (digits.head? = some '0' && digits.length ≠ 1) then none
  else
    let n := Numeral.valueIn 10 0 digits
    some (if negative then -(n : Int) else n)

/-- What follows the zeros and underscores behind a first zero.  One character of them stays before
a point or at the end. -/
def behindZeros (before : Char) : List Char → Option (List Char)
  | [] => some [before]
  | c :: rest =>
    if c = '0' || c = '_' then behindZeros c rest
    else if c.isDigit || c = '-' then some (c :: rest)
    else if c = '.' then some (before :: c :: rest)
    else none

/-- A number without the zeros in front of it. -/
def dropZeros : List Char → Option (List Char)
  | '0' :: rest => behindZeros '0' rest
  | c :: rest => if c.isDigit || c = '-' then some (c :: rest) else none
  | [] => none

/-- Drops a fraction that consists of zeros. -/
def dropZeroFraction (cs : List Char) : List Char :=
  let fraction := (cs.dropWhile (· ≠ '.')).drop 1
  if !fraction.isEmpty && fraction.all (· = '0') then cs.takeWhile (· ≠ '.') else cs

/-- Drops underscores that stand between other characters, one at a time. -/
def dropUnderscores (cs : List Char) : List Char :=
  if Numeral.separates cs then cs.filter (· ≠ '_') else cs

/-- Drops a plus, before which no other sign stands. -/
def dropPlus : List Char → Option (List Char)
  | '+' :: '-' :: _ => none
  | '+' :: rest => some rest
  | cs => some cs

/-- Reads an integer: spaces around it, a sign, zeros in front, underscores between digits and a
fraction of zeros are allowed. -/
def readDigits (s : String) : Option Int :=
  let cs := Text.trimSpaces s.toList
  match readPlain cs with
  | some n => some n
  | none => do
    let cs ← dropPlus cs
    let sign := cs.takeWhile (· = '-')
    let digits ← dropZeros (cs.drop sign.length)
    readPlain (sign ++ dropUnderscores (dropZeroFraction digits))

/-- The signed words of 64 bits reach from minus this number to just below it. -/
def wordLimit : Nat := 0x8000000000000000

def readWhole (x : Double) : Except Complaint Int :=
  if !x.isFinite then .error .notFinite
  else
    match x.toInt? with
    | none => .error .fractional
    | some n => if n.natAbs < wordLimit then .ok n else .error .tooLarge

def readWholeDecimal (d : Decimal) : Except Complaint Int :=
  if !d.isFinite then .error .notFinite
  else
    match d.toInt? with
    | none => .error .fractional
    | some n => .ok n

/-- Reads a bound that is neither absent, a truth value, an integer nor a text.  A bound that is no
integer must be a text, so there are two complaints if it is neither. -/
def readOtherBound (v : Value) : Except (Complaint × Complaint) Bound :=
  let whole (r : Except Complaint Int) : Except (Complaint × Complaint) Bound :=
    match r with
    | .ok n => .ok (.count n)
    | .error c => .error (c, .notText)
  match v with
  | .float x => whole (readWhole x)
  | .decimal d => whole (readWholeDecimal d)
  | .bytes content =>
    match decodeText content with
    | none => .error (.notIntegerText, .undecodable)
    | some s => .ok ((readDigits s).elim (.text (.text s)) .count)
  | _ => .error (.notInteger, .notText)

/-- Reads a limit or an offset, the field with this name. -/
def readBound (field : String) (v : Value) : Except (List Issue) (Option Bound) :=
  match v with
  | .null => .ok none
  | .bool _ => .error [⟨[field], .booleanBound⟩]
  | .int n => if n < 0 then .error [⟨[field], .negativeBound⟩] else .ok (some (.count n))
  | .str s => .ok (if Text.isBlankText s then none else some (.text (.text s)))
  | .arity a => .ok (some (.text (.text a.word)))
  | .broken points => .ok (some (.text (.broken points)))
  | v =>
    match readOtherBound v with
    | .ok b => .ok (some b)
    | .error (c, d) => .error [⟨[field, "int"], c⟩, ⟨[field, "str"], d⟩]

/-- The words for truth values, read in any case. -/
def readBooleanWord (s : String) : Except Complaint Bool :=
  let word := String.ofList (s.toList.map Char.toLower)
  if ["1", "on", "t", "true", "y", "yes"].contains word then .ok true
  else if ["0", "off", "f", "false", "n", "no"].contains word then .ok false
  else .error .unknownBoolean

def readBooleanInt (n : Int) : Except Complaint Bool :=
  if n = 0 then .ok false else if n = 1 then .ok true else .error .unknownBoolean

def readBooleanDouble (x : Double) : Except Complaint Bool :=
  match readWhole x with
  | .ok n => readBooleanInt n
  | .error _ => .error .notBoolean

def isSmall (n : Int) : Bool := -(wordLimit : Int) ≤ n && n < wordLimit

def readBoolean : Value → Except Complaint Bool
  | .bool b => .ok b
  | .int n => if isSmall n then readBooleanInt n else .error .notBoolean
  | .float x => readBooleanDouble x
  | .decimal d => readBooleanDouble d.toDouble
  | .str s => readBooleanWord s
  | .arity a => readBooleanWord a.word
  | .bytes content =>
    match decodeText content with
    | some s => readBooleanWord s
    | none => .error .unknownBoolean
  | .broken _ => .error .undecodable
  | _ => .error .notBoolean

/-- Reads a flag that is off when it is absent. -/
def readFlag : Value → Except Complaint Bool
  | .null => .ok false
  | v => readBoolean v

def entry (entries : List (Value × Value)) (key : String) : Value :=
  ((entries.find? fun e => e.1.text? = some key).map Prod.snd).getD .null

def hasEntry (entries : List (Value × Value)) (key : String) : Bool :=
  entries.any fun e => e.1.text? = some key

/-- The key that gives the FROM clause; the second spelling counts only without the first. -/
def tablesKey (entries : List (Value × Value)) : String :=
  if hasEntry entries "from" then "from" else "from_"

def knownKeys (entries : List (Value × Value)) : List String :=
  ["select", tablesKey entries, "joins", "conditions", "group", "order", "limit", "offset",
    "positional", "prefetch"]

/-- How a key shows in a complaint about it. -/
def keyLabel : Value → String
  | .str s => s
  | .arity a => a.word
  | .bool b => if b then "1" else "0"
  | v => v.display

/-- The complaint about a key that gives no option. -/
def unknownIssue (known : List String) (key : Value) : Option Issue :=
  match key.text? with
  | some s => if known.contains s then none else some ⟨[s], .unknownField⟩
  | none => some ⟨[keyLabel key], .keyNotText⟩

def issuesOf {α : Type} : Except (List Issue) α → List Issue
  | .ok _ => []
  | .error issues => issues

def clauseOf (entries : List (Value × Value)) (key : String) :
    Except (List Issue) (Option Content) :=
  match readClause (entry entries key) with
  | .ok s => .ok s
  | .error c => .error [⟨[key], c⟩]

def flagOf (entries : List (Value × Value)) (key : String) : Except (List Issue) Bool :=
  match readFlag (entry entries key) with
  | .ok b => .ok b
  | .error c => .error [⟨[key], c⟩]

/-- Whether a key is a text in which halves of characters stand alone. -/
def isBrokenKey : Value → Bool
  | .broken _ => true
  | _ => false

/-- Reads options from the entries of a mapping.  A key that cannot be read as a text is the only
complaint. -/
def ofEntries (entries : List (Value × Value)) : Except (List Issue) Options :=
  let select := clauseOf entries "select"
  let tables := clauseOf entries (tablesKey entries)
  let joins := clauseOf entries "joins"
  let conditions := clauseOf entries "conditions"
  let group := clauseOf entries "group"
  let order := clauseOf entries "order"
  let limit := readBound "limit" (entry entries "limit")
  let offset := readBound "offset" (entry entries "offset")
  let positional := flagOf entries "positional"
  let unknown := entries.filterMap fun e => unknownIssue (knownKeys entries) e.1
  if entries.any fun e => isBrokenKey e.1 then .error [⟨[], .undecodable⟩]
  else match select, tables, joins, conditions, group, order, limit, offset, positional,
    unknown with
  | .ok select, .ok tables, .ok joins, .ok conditions, .ok group, .ok order, .ok limit,
    .ok offset, .ok positional, [] =>
    .ok { select, tables, joins, conditions, group, order, limit, offset, positional,
          prefetch := entry entries "prefetch" }
  | _, _, _, _, _, _, _, _, _, _ =>
    .error (issuesOf select ++ issuesOf tables ++ issuesOf joins ++ issuesOf conditions ++
      issuesOf group ++ issuesOf order ++ issuesOf limit ++ issuesOf offset ++
      issuesOf positional ++ unknown)

/-- Reads options on their own, apart from a finder. -/
def ofValue : Value → Except Error Options
  | .dict entries =>
    match ofEntries entries with
    | .ok o => .ok o
    | .error issues => .error (.invalid issues)
  | _ => .error (.invalid [⟨[], .notOptions⟩])

end NamedQuery.Options
