import NamedQuery.Entries
import NamedQuery.Text.Blank
import NamedQuery.Text.Lines

/-!
# Files of variables

A file gives one variable on a line, as `NAME=value`.  Values may stand in quotes, and may refer to
other variables as `${NAME}` or, with a default, as `${NAME:-default}`.  A line that breaks these
rules is skipped.
-/

namespace NamedQuery.EnvFile

open NamedQuery.Text

/-! ## Lines -/

/-- A variable as a file gives it; without an equals sign it has no value. -/
structure Line where
  name : List Char
  value : Option (List Char)

def isLineEnd (c : Char) : Bool := c = '\n' || c = '\r'

/-- Blanks within a line. -/
def isInline (c : Char) : Bool := isBlank c && !isLineEnd c

/-- The content of a quoted text and what follows its closing quote.  A backslash keeps the next
character in the text. -/
def quotedText (quote : Char) : List Char → Option (List Char × List Char)
  | [] => none
  | '\\' :: c :: rest => (quotedText quote rest).map fun r => ('\\' :: c :: r.1, r.2)
  | c :: rest =>
    if c = quote then some ([], rest)
    else if c = '\\' then none
    else (quotedText quote rest).map fun r => (c :: r.1, r.2)

/-- The characters that a backslash may stand before in single and in double quotes, with what the
two stand for. -/
def escapes : Char → List (Char × Char)
  | '\'' => [('\\', '\\'), ('\'', '\'')]
  | _ =>
    [('\\', '\\'), ('\'', '\''), ('"', '"'), ('a', '\x07'), ('b', '\x08'), ('f', '\x0C'),
      ('n', '\n'), ('r', '\r'), ('t', '\t'), ('v', '\x0B')]

/-- Replaces the escapes of a quoted text. -/
def unescape (escapes : List (Char × Char)) : List Char → List Char
  | '\\' :: c :: rest =>
    match escapes.lookup c with
    | some x => x :: unescape escapes rest
    | none => '\\' :: unescape escapes (c :: rest)
  | c :: rest => c :: unescape escapes rest
  | [] => []

/-- The text before a comment, which begins with a hash behind a blank. -/
def beforeComment (afterBlank : Bool) : List Char → List Char
  | [] => []
  | c :: rest => if afterBlank && c = '#' then [] else c :: beforeComment (isBlank c) rest

/-- A step that gives what it read with the rest of the text, or the place where it failed. -/
abbrev Step (α : Type) := Except (List Char) (α × List Char)

/-- The word that may stand before a variable is skipped. -/
def skipExport (cs : List Char) : List Char :=
  let word := "export".toList
  if cs.take word.length = word && (cs.drop word.length).head?.any isInline then
    (cs.drop word.length).dropWhile isInline
  else cs

def name (cs : List Char) : Step (Option (List Char)) :=
  match cs with
  | '#' :: _ => .ok (none, cs)
  | '\'' :: rest =>
    let content := rest.takeWhile (· ≠ '\'')
    match content, rest.drop content.length with
    | _ :: _, _ :: after => .ok (some content, after)
    | _, _ => .error cs
  | cs =>
    let run := cs.takeWhile fun c => !(c = '=' || c = '#' || isBlank c)
    if run.isEmpty then .error cs else .ok (some run, cs.drop run.length)

/-- The value at the front of a text; `afterBlank` tells whether a blank stands before it. -/
def value (afterBlank : Bool) (cs : List Char) : Step (List Char) :=
  match cs with
  | [] => .ok ([], [])
  | c :: rest =>
    if c = '\'' || c = '"' then
      match quotedText c rest with
      | some (text, after) => .ok (unescape (escapes c) text, after)
      | none => .error cs
    else
      let run := cs.takeWhile fun c => !isLineEnd c
      .ok (dropBlankEnd (beforeComment afterBlank run), cs.drop run.length)

/-- What follows an equals sign, if there is one. -/
def assigned (cs : List Char) : Step (Option (List Char)) :=
  match cs with
  | '=' :: rest =>
    (value (rest.head?.any isInline) (rest.dropWhile isInline)).map fun r => (some r.1, r.2)
  | cs => .ok (none, cs)

def skipComment (cs : List Char) : List Char :=
  match cs.dropWhile isInline with
  | '#' :: rest => rest.dropWhile fun c => !isLineEnd c
  | _ => cs

/-- The text behind the end of a line, which must come next. -/
def lineEnd (cs : List Char) : Step Unit :=
  match cs.dropWhile isInline with
  | [] => .ok ((), [])
  | c :: rest => if isLineEnd c then .ok ((), rest) else .error cs

def line (cs : List Char) : Except (List Char) (Option Line × List Char) := do
  let cs := cs.dropWhile isBlank
  if cs.isEmpty then .ok (none, [])
  else
    let (name, cs) ← name (skipExport cs)
    let (value, cs) ← assigned (cs.dropWhile isInline)
    let (_, cs) ← lineEnd (skipComment cs)
    .ok (name.map fun n => ⟨n, value⟩, cs)

/-- All variables of a text.  A line that cannot be read is skipped. -/
def lines : Nat → List Char → List Line
  | 0, _ => []
  | _, [] => []
  | fuel + 1, cs =>
    match line cs with
    | .ok (some l, rest) => l :: lines fuel rest
    | .ok (none, rest) => lines fuel rest
    | .error rest => lines fuel ((rest.dropWhile fun c => !isLineEnd c).drop 1)

/-! ## References -/

/-- A reference at the front of a text: its name, its default, and the rest. -/
def reference? : List Char → Option (List Char × List Char × List Char)
  | '$' :: '\x7b' :: cs =>
    let name := cs.takeWhile fun c => !(c = '\x7d' || c = ':')
    match cs.drop name.length with
    | '\x7d' :: rest => some (name, [], rest)
    | ':' :: '-' :: more =>
      let default := more.takeWhile (· ≠ '\x7d')
      match more.drop default.length with
      | _ :: rest => some (name, default, rest)
      | [] => none
    | _ => none
  | _ => none

/-- The text in which references are replaced by the values that `look` finds. -/
def expand (look : String → Option String) : Nat → List Char → List Char
  | 0, cs => cs
  | _, [] => []
  | fuel + 1, c :: cs =>
    match reference? (c :: cs) with
    | some (name, default, rest) =>
      ((look (String.ofList name)).map String.toList).getD default ++ expand look fuel rest
    | none => c :: expand look fuel cs

/-- The value that a reference finds: that of an earlier line, or else of the environment. -/
def find (environment : List (String × String)) (known : List (String × Option String))
    (name : String) : Option String :=
  match known.lookup name with
  | some value => some (value.getD "")
  | none => environment.lookup name

/-- The variables of lines, after those that are known already. -/
def resolve (environment : List (String × String)) (known : List (String × Option String)) :
    List Line → List (String × Option String)
  | [] => known
  | l :: rest =>
    let value := l.value.map fun cs =>
      String.ofList (expand (find environment known) cs.length cs)
    resolve environment (Entries.assign known (String.ofList l.name) value) rest

/-- The variables of a file, each one once. -/
def read (environment : List (String × String)) (text : String) : List (String × Option String) :=
  let cs := dropOrderMark (normalizeLines text.toList)
  resolve environment [] (lines (cs.length + 1) cs)

end NamedQuery.EnvFile
