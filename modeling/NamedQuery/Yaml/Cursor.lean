import NamedQuery.Yaml.Token

/-!
# Places in a YAML document

A cursor stands between two characters of a document and knows its line and column.  Readers move
it forward or refuse the document.
-/

namespace NamedQuery.Yaml

def isBreak (c : Char) : Bool := c = '\n' || c = '\u0085' || c = '\u2028' || c = '\u2029'

/-- Spaces, tabs and line ends. -/
def isGap (c : Char) : Bool := c = ' ' || c = '\t' || isBreak c

/-- Whether the document ends here or the next character has the property. -/
def endOr (p : Char → Bool) : Option Char → Bool
  | none => true
  | some c => p c

def nextIs (p : Char → Bool) : Option Char → Bool
  | none => false
  | some c => p c

structure Cursor where
  rest : List Char
  /-- The number of characters before the cursor. -/
  index : Nat
  line : Nat
  column : Nat

namespace Cursor

def start (cs : List Char) : Cursor := { rest := cs, index := 0, line := 0, column := 0 }

/-- The cursor behind the next character.  A byte order mark takes no column. -/
def step (c : Cursor) : Cursor :=
  match c.rest with
  | [] => c
  | x :: rest =>
    if isBreak x then { rest, index := c.index + 1, line := c.line + 1, column := 0 }
    else
      { rest, index := c.index + 1, line := c.line,
        column := if x = '\uFEFF' then c.column else c.column + 1 }

def skip : Nat → Cursor → Cursor
  | 0, c => c
  | n + 1, c => skip n c.step

end Cursor

/-- Reads from a place on, or refuses the document. -/
abbrev Reader := StateT Cursor (Except Fault)

namespace Reader

def refuse {α : Type} : Reader α := throw .malformed

def ensure (b : Bool) : Reader Unit := if b then pure () else refuse

def peek : Reader (Option Char) := do return (← get).rest.head?

/-- The character after the next `n` ones. -/
def peekAt (n : Nat) : Reader (Option Char) := do return (← get).rest[n]?

def skip (n : Nat) : Reader Unit := modify (Cursor.skip n)

/-- Takes the longest run of characters with the property. -/
def span (p : Char → Bool) : Reader (List Char) := do
  let run := (← get).rest.takeWhile p
  skip run.length
  return run

def spaces : Reader Unit := do
  let _ ← span (· = ' ')

/-- Skips a comment, up to the end of its line. -/
def comment : Reader Unit := do
  if (← peek) = some '#' then
    let _ ← span fun c => !isBreak c

/-- Takes a line end, if there is one.  The two old kinds count as the plain one. -/
def lineBreak : Reader (List Char) := do
  match ← peek with
  | some c =>
    if isBreak c then
      skip 1
      return [if c = '\u0085' then '\n' else c]
    else return []
  | none => return []

/-- Skips the rest of a line that may hold nothing but a comment. -/
def restOfLine : Reader Unit := do
  spaces
  comment
  ensure (endOr isBreak (← peek))
  let _ ← lineBreak

end Reader

/-- Whether three marks, as they separate documents, stand at the front. -/
def isDocumentMark : List Char → Bool
  | a :: b :: c :: rest =>
    ((a = '-' && b = '-' && c = '-') || (a = '.' && b = '.' && c = '.')) && endOr isGap rest.head?
  | _ => false

end NamedQuery.Yaml
