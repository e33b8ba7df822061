import NamedQuery.Text.Lines
import NamedQuery.Yaml.Token.Property

/-!
# Tokens of a text

A text is cut into tokens from left to right.  Whether a node is the key of a mapping shows only
when its colon comes, on the same line and not too far away; so the place of every token that may
begin a key is kept, and the tokens that open the mapping are put there later.
-/

namespace NamedQuery.Yaml

/-- A place where a key may have begun. -/
structure KeyPlace where
  /-- The number of tokens before it. -/
  tokens : Nat
  /-- Whether nothing else can begin here. -/
  required : Bool
  index : Nat
  line : Nat
  column : Nat

structure Lexer where
  cursor : Cursor
  tokens : Array Token
  /-- The number of open brackets. -/
  depth : Nat
  /-- The column of the innermost block collection, before the first one `-1`. -/
  indent : Int
  /-- The columns of the collections around it. -/
  outer : List Int
  /-- Whether a key may begin here. -/
  keyAllowed : Bool
  /-- Possible keys by the number of brackets around them. -/
  keyPlaces : List (Nat × KeyPlace)
  /-- The number of tokens that can be told without reading on. -/
  settled : Nat

/-- Steps of a lexer that may refuse the document; the tokens before the fault are kept. -/
abbrev Lexing := ExceptT Fault (StateM Lexer)

namespace Lexer

def start (cs : List Char) : Lexer :=
  { cursor := Cursor.start cs, tokens := #[], depth := 0, indent := -1, outer := [],
    keyAllowed := true, keyPlaces := [], settled := 0 }

def refuse {α : Type} : Lexing α := throw .malformed

def ensure (b : Bool) : Lexing Unit := if b then pure () else refuse

def read {α : Type} (r : Reader α) : Lexing α := do
  let l ← get
  match r l.cursor with
  | .ok (a, c) =>
    set { l with cursor := c }
    return a
  | .error fault => throw fault

def add (t : Token) : Lexing Unit := modify fun l => { l with tokens := l.tokens.push t }

def insert (place : Nat) (t : Token) : Lexing Unit :=
  modify fun l => { l with tokens := l.tokens.insertIdxIfInBounds place t }

def allowKey (b : Bool) : Lexing Unit := modify fun l => { l with keyAllowed := b }

/-- The greatest distance between the beginning of a key and its colon. -/
def keyReach : Nat := 1024

/-- Gives up possible keys that are on another line or too far away. -/
def dropStaleKeys : Lexing Unit := do
  let l ← get
  let isStale (k : KeyPlace) :=
    k.line ≠ l.cursor.line || keyReach < l.cursor.index - k.index
  ensure (!l.keyPlaces.any fun e => isStale e.2 && e.2.required)
  set { l with keyPlaces := l.keyPlaces.filter fun e => !isStale e.2 }

/-- Settles the tokens before the first place where a key may have begun: only what follows shows
whether a mapping begins there. -/
def settle : Lexing Unit := do
  dropStaleKeys
  modify fun l =>
    { l with settled := l.keyPlaces.foldl (fun n e => min n e.2.tokens) l.tokens.size }

/-- Gives up the possible key within the current brackets. -/
def dropKey : Lexing Unit := do
  let l ← get
  ensure (!l.keyPlaces.any fun e => e.1 = l.depth && e.2.required)
  set { l with keyPlaces := l.keyPlaces.filter fun e => e.1 ≠ l.depth }

/-- Keeps the place of the next token as that of a possible key. -/
def noteKey : Lexing Unit := do
  if (← get).keyAllowed then
    dropKey
    modify fun l =>
      let place : KeyPlace :=
        { tokens := l.tokens.size, required := l.depth = 0 && l.indent = l.cursor.column,
          index := l.cursor.index, line := l.cursor.line, column := l.cursor.column }
      { l with keyPlaces := (l.depth, place) :: l.keyPlaces }

/-- The lexer after the collections that are indented further than a column have ended. -/
def closeBlocks (column : Int) (l : Lexer) : List Int → Lexer
  | [] => l
  | next :: outer =>
    if column < l.indent then
      closeBlocks column { l with indent := next, outer, tokens := l.tokens.push .blockEnd } outer
    else l

/-- Ends the collections that are indented further than a column. -/
def unwind (column : Int) : Lexing Unit :=
  modify fun l => if l.depth = 0 then closeBlocks column l l.outer else l

/-- Begins a block collection in a column, if it is indented further than the current one. -/
def beginBlock (column : Nat) (place : Nat) (t : Token) : Lexing Unit := do
  let l ← get
  if l.indent < column then
    set { l with indent := column, outer := l.indent :: l.outer }
    insert place t

/-- Skips spaces, comments and empty lines. -/
def toNextToken : Nat → Lexing Unit
  | 0 => refuse
  | fuel + 1 => do
    read Reader.spaces
    read Reader.comment
    if nextIs isBreak (← read Reader.peek) then
      let _ ← read Reader.lineBreak
      if (← get).depth = 0 then allowKey true
      toNextToken fuel

/-- A token that ends everything before it: a directive or a mark between documents. -/
def separator (r : Reader Token) : Lexing Unit := do
  unwind (-1)
  dropKey
  allowKey false
  add (← read r)

def single (t : Token) : Reader Token := do
  Reader.skip 1
  return t

def openBracket (t : Token) : Lexing Unit := do
  noteKey
  modify fun l => { l with depth := l.depth + 1 }
  allowKey true
  add (← read (single t))

def closeBracket (t : Token) : Lexing Unit := do
  dropKey
  ensure ((← get).depth ≠ 0)
  modify fun l => { l with depth := l.depth - 1 }
  allowKey false
  add (← read (single t))

def comma : Lexing Unit := do
  allowKey true
  dropKey
  add (← read (single .comma))

/-- Begins a block collection at the cursor, where keys must be allowed. -/
def beginHere (t : Token) : Lexing Unit := do
  let l ← get
  if l.depth = 0 then
    ensure l.keyAllowed
    beginBlock l.cursor.column l.tokens.size t

def item : Lexing Unit := do
  beginHere .blockSequence
  allowKey true
  dropKey
  add (← read (single .item))

def explicitKey : Lexing Unit := do
  beginHere .blockMapping
  allowKey ((← get).depth = 0)
  dropKey
  add (← read (single .key))

/-- A colon: the possible key within the current brackets, if there is one, is a key. -/
def value : Lexing Unit := do
  let l ← get
  match l.keyPlaces.lookup l.depth with
  | some place =>
    modify fun l => { l with keyPlaces := l.keyPlaces.filter fun e => e.1 ≠ l.depth }
    insert place.tokens .key
    if l.depth = 0 then beginBlock place.column place.tokens .blockMapping
    allowKey false
  | none =>
    beginHere .blockMapping
    allowKey ((← get).depth = 0)
    dropKey
  add (← read (single .value))

/-- A token that may begin a key; none may begin behind it. -/
def keyable (r : Reader Token) : Lexing Unit := do
  noteKey
  allowKey false
  add (← read r)

def blockScalar (fold : Bool) (fuel : Nat) : Lexing Unit := do
  allowKey true
  dropKey
  let s ← read (Scalar.block fold (← get).indent fuel)
  add (.scalar (.text s) false)

/-- A plain scalar.  A key may begin behind it if a line ends there. -/
def plainScalar (fuel : Nat) : Lexing Unit := do
  noteKey
  let l ← get
  let (cs, broken) ← read (Scalar.plain (l.depth ≠ 0) (l.indent + 1) fuel)
  allowKey broken
  add (.scalar (.text (String.ofList cs)) true)

/-- Characters that begin no plain scalar, or only if no gap follows them. -/
def marks : List Char := "-?:,[]\x7b\x7d#&*!|>'\"%@`".toList

/-- Whether a plain scalar begins with these characters. -/
def beginsPlain (flow : Bool) (c : Char) (next : Option Char) : Bool :=
  !(isGap c || marks.contains c) ||
    (!endOr isGap next && (c = '-' || (!flow && (c = '?' || c = ':'))))

/-- Reads the token that begins with the character `c`, before `next`. -/
def token (c : Char) (next : Option Char) (fuel : Nat) : Lexing Unit := do
  let l ← get
  let flow := l.depth ≠ 0
  let gapFollows := endOr isGap next
  if l.cursor.column = 0 && c = '%' then separator (Property.directive fuel)
  else if l.cursor.column = 0 && isDocumentMark l.cursor.rest then
    separator do
      Reader.skip 3
      return if c = '-' then .documentStart else .documentEnd
  else if c = '[' then openBracket .openSequence
  else if c = '\x7b' then openBracket .openMapping
  else if c = ']' then closeBracket .closeSequence
  else if c = '\x7d' then closeBracket .closeMapping
  else if c = ',' then comma
  else if c = '-' && gapFollows then item
  else if c = '?' && (flow || gapFollows) then explicitKey
  else if c = ':' && (flow || gapFollows) then value
  else if c = '*' then keyable (Token.alias <$> Property.name)
  else if c = '&' then keyable (Token.anchor <$> Property.name)
  else if c = '!' then keyable (Property.tag fuel)
  else if c = '|' && !flow then blockScalar false fuel
  else if c = '>' && !flow then blockScalar true fuel
  else if c = '\'' then keyable ((Token.scalar · false) <$> Scalar.quoted false fuel)
  else if c = '"' then keyable ((Token.scalar · false) <$> Scalar.quoted true fuel)
  else if beginsPlain flow c next then plainScalar fuel
  else refuse

def run : Nat → Lexing Unit
  | 0 => refuse
  | fuel + 1 => do
    settle
    toNextToken fuel
    dropStaleKeys
    let c := (← get).cursor
    unwind c.column
    match c.rest with
    | [] =>
      unwind (-1)
      dropKey
    | x :: rest =>
      token x rest.head? fuel
      run fuel

end Lexer

def isAllowed (c : Char) : Bool :=
  let n := c.toNat
  n = 9 || n = 10 || n = 13 || (32 ≤ n && n ≤ 126) || n = 0x85 || (0xA0 ≤ n && n ≤ 0xD7FF) ||
    (0xE000 ≤ n && n ≤ 0xFFFD) || 0x10000 ≤ n

/-- The tokens of a text and what is wrong behind them, if anything is.  The reader of a document
asks for its tokens one by one, so a fault counts only if it shows while the tokens before it are
still asked for. -/
structure Tokens where
  tokens : List Token
  fault : Option Fault

/-- The number of characters that are looked at before the first token is read. -/
def firstBlock : Nat := 8192

/-- The tokens of a text, whose lines all end in a line feed. -/
def Tokens.ofText (cs : List Char) : Tokens :=
  if !(cs.take firstBlock).all isAllowed then ⟨[], some .malformed⟩
  else
    let (result, l) := (Lexer.run (cs.length + 2)).run.run (Lexer.start (Text.dropOrderMark cs))
    match result with
    | .ok _ => ⟨l.tokens.toList, if cs.all isAllowed then none else some .malformed⟩
    | .error fault => ⟨l.tokens.toList.take l.settled, some fault⟩

end NamedQuery.Yaml
