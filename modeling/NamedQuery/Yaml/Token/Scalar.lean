import NamedQuery.Yaml.Cursor

/-!
# Reading scalars

The text of a scalar in each of its forms: plain, in quotes of either kind, and as a block of
lines, literal or folded.  A single line end within a scalar becomes a space, except in a literal
block; of several, the first one is dropped.
-/

namespace NamedQuery.Yaml.Scalar

open Reader

/-- A line end and the line ends of the empty lines after it, as they show in the text. -/
def folded (first further : List Char) : List Char :=
  (if first ≠ ['\n'] then first else if further.isEmpty then [' '] else []) ++ further

/-! ## Quoted scalars -/

/-- The line ends before the next text of a quoted scalar. -/
def quotedBreaks : Nat → Reader (List Char)
  | 0 => refuse
  | fuel + 1 => do
    ensure (!isDocumentMark (← get).rest)
    let _ ← span fun c => c = ' ' || c = '\t'
    if nextIs isBreak (← peek) then
      let first ← lineBreak
      return first ++ (← quotedBreaks fuel)
    else return []

/-- The characters that stand for another one behind a backslash. -/
def escapes : List (Char × Char) :=
  [('0', '\x00'), ('a', '\x07'), ('b', '\x08'), ('t', '\t'), ('\t', '\t'), ('n', '\n'),
    ('v', '\x0B'), ('f', '\x0C'), ('r', '\x0D'), ('e', '\x1B'), (' ', ' '), ('"', '"'),
    ('\\', '\\'), ('/', '/'), ('N', '\u0085'), ('_', '\u00A0'), ('L', '\u2028'), ('P', '\u2029')]

/-- The number of hexadecimal digits behind a backslash and this character. -/
def escapeWidth : Char → Option Nat
  | 'x' => some 2
  | 'u' => some 4
  | 'U' => some 8
  | _ => none

def hexValue (c : Char) : Option Nat :=
  if c.isDigit then some (c.toNat - 48)
  else if 'a' ≤ c && c ≤ 'f' then some (c.toNat - 87)
  else if 'A' ≤ c && c ≤ 'F' then some (c.toNat - 55)
  else none

def hexNumber (n : Nat) : List Char → Option Nat
  | [] => some n
  | c :: rest => (hexValue c).bind fun d => hexNumber (16 * n + d) rest

def code (width : Nat) : Reader Nat := do
  let digits := (← get).rest.take width
  ensure (digits.length = width)
  let some n := hexNumber 0 digits | refuse
  skip width
  return n

def pointsOf (cs : List Char) : List Nat := cs.map Char.toNat

/-- The code points end here. -/
def pointLimit : Nat := 0x110000

/-- What an escape stands for, read behind the backslash. -/
def escape (fuel : Nat) : Reader (List Nat) := do
  let some c ← peek | refuse
  if let some plain := escapes.lookup c then
    skip 1
    return [plain.toNat]
  else if let some width := escapeWidth c then
    skip 1
    let n ← code width
    if pointLimit ≤ n then throw (.meaningless (.noCharacter n))
    return [n]
  else if isBreak c then
    let _ ← lineBreak
    return pointsOf (← quotedBreaks fuel)
  else refuse

/-- The code points of a quoted scalar up to the next gap or to its closing quote. -/
def quotedRun (double : Bool) : Nat → Reader (List Nat)
  | 0 => refuse
  | fuel + 1 => do
    let run := pointsOf (← span fun c => !(c = '\'' || c = '"' || c = '\\' || isGap c))
    let c := (← get).rest.head?
    if !double && c = some '\'' && (← peekAt 1) = some '\'' then
      skip 2
      return run ++ '\''.toNat :: (← quotedRun double fuel)
    else if double && c = some '\'' then
      skip 1
      return run ++ '\''.toNat :: (← quotedRun double fuel)
    else if !double && c = some '"' then
      skip 1
      return run ++ '"'.toNat :: (← quotedRun double fuel)
    else if !double && c = some '\\' then
      skip 1
      return run ++ '\\'.toNat :: (← quotedRun double fuel)
    else if double && c = some '\\' then
      skip 1
      let x ← escape fuel
      return run ++ x ++ (← quotedRun double fuel)
    else return run

/-- The gap between two runs of a quoted scalar. -/
def quotedGap (fuel : Nat) : Reader (List Nat) := do
  let gap ← span fun c => c = ' ' || c = '\t'
  match ← peek with
  | none => refuse
  | some c =>
    if isBreak c then
      let first ← lineBreak
      let further ← quotedBreaks fuel
      return pointsOf (folded first further)
    else return pointsOf gap

/-- The rest of a quoted scalar behind a run, up to its closing quote. -/
def quotedRest (double : Bool) : Nat → Reader (List Nat)
  | 0 => refuse
  | fuel + 1 => do
    if (← peek) = some (if double then '"' else '\'') then
      skip 1
      return []
    else
      let gap ← quotedGap fuel
      let run ← quotedRun double fuel
      return gap ++ run ++ (← quotedRest double fuel)

def quoted (double : Bool) (fuel : Nat) : Reader Content := do
  skip 1
  let run ← quotedRun double fuel
  let rest ← quotedRest double fuel
  return Content.ofPoints (run ++ rest)

/-! ## Plain scalars -/

/-- Characters that have a meaning of their own within brackets. -/
def isFlowMark (c : Char) : Bool := c = ',' || c = '[' || c = ']' || c = '\x7b' || c = '\x7d'

/-- The text at the front that belongs to a plain scalar on one line.  A colon ends it if a gap
follows, a hash does not. -/
def plainRun (flow : Bool) : List Char → List Char
  | [] => []
  | c :: rest =>
    if isGap c || (c = ':' && endOr (fun x => isGap x || (flow && isFlowMark x)) rest.head?) ||
        (flow && (isFlowMark c || c = '?')) then []
    else c :: plainRun flow rest

/-- The empty lines in a plain scalar; nothing if they lead to the end of the document. -/
def plainBreaks : Nat → Reader (Option (List Char))
  | 0 => refuse
  | fuel + 1 => do
    spaces
    if nextIs isBreak (← peek) then
      let first ← lineBreak
      if isDocumentMark (← get).rest then return none
      return (← plainBreaks fuel).map (first ++ ·)
    else return some []

/-- The gap behind a line of a plain scalar, and whether it holds a line end.  An empty gap ends the
scalar. -/
def plainGap (fuel : Nat) : Reader (List Char × Bool) := do
  let gap ← span (· = ' ')
  if nextIs isBreak (← peek) then
    let first ← lineBreak
    if isDocumentMark (← get).rest then return ([], true)
    match ← plainBreaks fuel with
    | some further => return (folded first further, true)
    | none => return ([], true)
  else return (gap, false)

/-- The text of a plain scalar, and whether a line end follows it.  Its lines are indented by
`indent` at least, except within brackets. -/
def plain (flow : Bool) (indent : Int) : Nat → Reader (List Char × Bool)
  | 0 => refuse
  | fuel + 1 => do
    let run := plainRun flow (← get).rest
    if run.isEmpty then return ([], false)
    skip run.length
    let (gap, broken) ← plainGap fuel
    let c ← get
    if gap.isEmpty || c.rest.head? = some '#' || (!flow && c.column < indent) then
      return (run, broken)
    let (more, brokenLater) ← plain flow indent fuel
    if more.isEmpty then return (run, broken)
    return (run ++ gap ++ more, brokenLater)

/-! ## Block scalars -/

/-- What becomes of the line ends at the end of a block. -/
inductive Chomping where
  | strip
  | clip
  | keep

def chompingOf : Option Char → Option Chomping
  | some '-' => some .strip
  | some '+' => some .keep
  | _ => none

/-- The digit that gives the indentation of a block, if there is one. -/
def indentationDigit : Reader (Option Nat) := do
  match ← peek with
  | some c =>
    if c.isDigit then
      ensure (c ≠ '0')
      skip 1
      return some (c.toNat - 48)
    else return none
  | none => return none

/-- The marks behind the sign of a block, in either order. -/
def blockHeader : Reader (Chomping × Option Nat) := do
  match chompingOf (← peek) with
  | some chomping =>
    skip 1
    let digit ← indentationDigit
    return (chomping, digit)
  | none =>
    let digit ← indentationDigit
    match digit, chompingOf (← peek) with
    | some n, some chomping =>
      skip 1
      return (chomping, some n)
    | _, _ => return (.clip, digit)

/-- The empty lines before a block whose indentation is not given, and the widest of them. -/
def leadingBreaks (widest : Nat) : Nat → Reader (List Char × Nat)
  | 0 => refuse
  | fuel + 1 => do
    spaces
    let widest := max widest (← get).column
    if nextIs isBreak (← peek) then
      let first ← lineBreak
      let (further, widest) ← leadingBreaks widest fuel
      return (first ++ further, widest)
    else return ([], widest)

/-- Skips spaces up to a column. -/
def indentation (indent : Int) : Reader Unit := do
  let c ← get
  let room := (indent - c.column).toNat
  skip ((c.rest.take room).takeWhile (· = ' ')).length

/-- The empty lines before a line of a block. -/
def blockBreaks (indent : Int) : Nat → Reader (List Char)
  | 0 => refuse
  | fuel + 1 => do
    indentation indent
    if nextIs isBreak (← peek) then
      let first ← lineBreak
      return first ++ (← blockBreaks indent fuel)
    else return []

/-- Whether a line of the block begins here. -/
def inBlock (c : Cursor) (indent : Int) : Bool := (c.column : Int) = indent && !c.rest.isEmpty

/-- The lines of a block behind some empty lines: their text, the last line end, and the line ends
after it. -/
def blockLines (fold : Bool) (indent : Int) :
    Nat → List Char → Reader (List Char × List Char × List Char)
  | 0, _ => refuse
  | fuel + 1, breaks => do
    if !inBlock (← get) indent then return ([], [], breaks)
    let isInset := nextIs fun c => c = ' ' || c = '\t'
    let inset := isInset (← peek)
    let line ← span fun c => !isBreak c
    let ending ← lineBreak
    let further ← blockBreaks indent fuel
    if inBlock (← get) indent then
      let seam :=
        if fold && ending = ['\n'] && !inset && !isInset (← peek) then
          (if further.isEmpty then [' '] else [])
        else ending
      let (more, last, tail) ← blockLines fold indent fuel further
      return (breaks ++ line ++ seam ++ more, last, tail)
    else return (breaks ++ line, ending, further)

/-- A block of lines below a node with this indentation. -/
def block (fold : Bool) (outer : Int) (fuel : Nat) : Reader String := do
  skip 1
  let (chomping, digit) ← blockHeader
  ensure (endOr (fun c => c = ' ' || isBreak c) (← peek))
  restOfLine
  let least := max (outer + 1) 1
  let (breaks, indent) ← match digit with
    | some n => do
      let indent := least + n - 1
      let breaks ← blockBreaks indent fuel
      pure (breaks, indent)
    | none => do
      let (breaks, widest) ← leadingBreaks 0 fuel
      pure (breaks, max least widest)
  let (content, ending, tail) ← blockLines fold indent fuel breaks
  return String.ofList <|
    match chomping with
    | .strip => content
    | .clip => content ++ ending
    | .keep => content ++ ending ++ tail

end NamedQuery.Yaml.Scalar
