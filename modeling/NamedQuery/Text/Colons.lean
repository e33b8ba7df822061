import NamedQuery.Text.Word

/-!
# Colons in submitted statements

The layer that submits statements reads a colon with a name behind it as a parameter, unless a
backslash stands before the colon, and gives the database a mark in its place; then it takes such
backslashes away.  A finished statement has no parameters left, so all its colons are escaped before
it is submitted.
-/

namespace NamedQuery.Text

def escapeColons (cs : List Char) : List Char :=
  cs.flatMap fun c => if c = ':' then ['\\', ':'] else [c]

/-- Characters of the names of parameters. -/
def isNameChar (c : Char) : Bool := isWord c || c = '$'

/-- Whether a colon with a name of any length, which no second colon ends, begins here. -/
def beginsName : List Char → Bool
  | ':' :: cs => (cs.dropWhile isNameChar).head? ≠ some ':'
  | _ => false

/-- Takes away the backslashes that escape a colon. -/
def unescapeColons : List Char → List Char
  | [] => []
  | c :: rest =>
    if c = '\\' && beginsName rest then unescapeColons rest else c :: unescapeColons rest

/-- Whether a parameter may begin behind this character. -/
def allowsParameter : Option Char → Bool
  | none => true
  | some c => !(c = ':' || c = '\\' || isWord c)

/-- Puts a mark in the place of each parameter, and tells the names.  Reads from the character after
`before`, leaving out the first `skip` characters, which belong to the name of a parameter that was
read already. -/
def markParametersFrom : Option Char → Nat → List Char → List Char × List (List Char)
  | _, _, [] => ([], [])
  | _, skip + 1, c :: rest => markParametersFrom (some c) skip rest
  | before, 0, c :: rest =>
    let run := rest.takeWhile isNameChar
    if c = ':' && allowsParameter before && !run.isEmpty && beginsName (c :: rest) then
      let (marked, names) := markParametersFrom (some c) run.length rest
      ('?' :: marked, run :: names)
    else
      let (marked, names) := markParametersFrom (some c) 0 rest
      (c :: marked, names)

def markParameters (cs : List Char) : List Char × List (List Char) := markParametersFrom none 0 cs

/-- What a statement becomes on its way to the database: its text and the parameters in it. -/
def submitted (sql : String) : String × List String :=
  let (marked, names) := markParameters (escapeColons sql.toList)
  (String.ofList (unescapeColons marked), names.map String.ofList)

end NamedQuery.Text
