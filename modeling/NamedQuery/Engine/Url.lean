import NamedQuery.Entries
import NamedQuery.Error
import NamedQuery.Text.Percent
import NamedQuery.Text.Pieces
import NamedQuery.Text.Word

/-!
# Database URLs

A URL names a driver and a database: everything that an engine is created from.  Between the two may
stand a user with a password, a host and a port; parameters may follow.
-/

namespace NamedQuery

structure DatabaseUrl where
  /-- The name of a dialect, with the name of a driver behind a plus sign. -/
  name : String
  user : Option String
  password : Option String
  host : Option String
  port : Option Int
  /-- The path of the database behind the host. -/
  database : Option String
  /-- The parameters behind the question mark, each with its values. -/
  parameters : List (String × List String)
deriving DecidableEq, Repr

namespace DatabaseUrl

/-! ## Reading -/

def splitName (cs : List Char) : Option (List Char × List Char) :=
  let name := cs.takeWhile fun c => Text.isWord c || c = '+'
  match name, cs.drop name.length with
  | _ :: _, ':' :: '/' :: '/' :: rest => some (name, rest)
  | _, _ => none

/-- The text before the last occurrence of a character and the text behind it. -/
def splitLast (mark : Char) (cs : List Char) : Option (List Char × List Char) :=
  if cs.contains mark then
    let behind := (cs.reverse.takeWhile (· ≠ mark)).reverse
    some (cs.take (cs.length - behind.length - 1), behind)
  else none

/-- A user and a password, if there are any, and what follows them.  A password may hold anything
but an at sign. -/
def splitUser (cs : List Char) : Option (List Char) × Option (List Char) × List Char :=
  let user := cs.takeWhile fun c => !(c = ':' || c = '/')
  let rest := cs.drop user.length
  match rest with
  | ':' :: more =>
    if more.contains '@' then
      (some user, some (more.takeWhile (· ≠ '@')), (more.dropWhile (· ≠ '@')).drop 1)
    else
      match splitLast '@' user with
      | some (user, host) => (some user, none, host ++ rest)
      | none => (none, none, cs)
  | _ =>
    match splitLast '@' user with
    | some (user, host) => (some user, none, host ++ rest)
    | none => (none, none, cs)

/-- A host in brackets, which may hold colons, and what follows it. -/
def splitBrackets (cs : List Char) : Option (List Char × List Char) :=
  let run := cs.takeWhile fun c => !(c = '/' || c = '?')
  match run with
  | '[' :: inside =>
    match splitLast ']' inside with
    | some (c :: host, behind) => some (c :: host, behind ++ cs.drop run.length)
    | _ => none
  | _ => none

def splitHost (cs : List Char) : Option (List Char) × List Char :=
  match splitBrackets cs with
  | some (host, rest) => (some host, rest)
  | none =>
    let host := cs.takeWhile fun c => !(c = '/' || c = ':' || c = '?')
    (if host.isEmpty then none else some host, cs.drop host.length)

/-- What stands behind a mark up to one of the characters that end it, and what follows that. -/
def splitMarked (mark : Char) (ends : List Char) (cs : List Char) :
    Option (List Char) × List Char :=
  match cs with
  | c :: rest =>
    if c = mark then
      let run := rest.takeWhile fun c => !ends.contains c
      (some run, rest.drop run.length)
    else (none, cs)
  | [] => (none, [])

def readPort (cs : List Char) : Except Error Int :=
  match Numeral.whole 10 (String.ofList cs) with
  | .ok n => .ok n
  | .error fault => .error (.numeral fault)

/-- A name or a value of a parameter, in which a plus sign stands for a space. -/
def readWord (cs : List Char) : String :=
  Text.percentDecoded (String.ofList (cs.map fun c => if c = '+' then ' ' else c))

/-- A parameter with a value that is not empty. -/
def parameter? (cs : List Char) : Option (String × String) :=
  let name := cs.takeWhile (· ≠ '=')
  match cs.drop name.length with
  | _ :: c :: value => some (readWord name, readWord (c :: value))
  | _ => none

/-- The parameters, each once, with all of its values in order. -/
def gather (given : List (String × String)) : List (String × List String) :=
  given.foldl (fun known e => Entries.assign known e.1 ((known.lookup e.1).getD [] ++ [e.2])) []

def parse (s : String) : Except Error DatabaseUrl :=
  match splitName s.toList with
  | none => .error .unreadableUrl
  | some (name, rest) => do
    let (user, password, rest) := splitUser rest
    let (host, rest) := splitHost rest
    let (port, rest) := splitMarked ':' ['/', '?'] rest
    let (database, rest) := splitMarked '/' ['?'] rest
    let (query, _) := splitMarked '?' ['\n'] rest
    let decoded (cs : List Char) := Text.percentDecoded (String.ofList cs)
    let port ← port.mapM readPort
    .ok {
      name := String.ofList name
      user := user.map decoded
      password := password.map decoded
      host := host.map String.ofList
      port
      database := database.map decoded
      parameters := gather ((Text.pieces '&' (query.getD [])).filterMap parameter?) }

/-! ## Parameters -/

def values (u : DatabaseUrl) (parameter : String) : List String :=
  (u.parameters.lookup parameter).getD []

/-- The URL without the parameters that are for no driver. -/
def withoutPlugins (u : DatabaseUrl) : DatabaseUrl :=
  { u with parameters := u.parameters.filter fun e => !(["plugin", "plugins"].contains e.1) }

def isInMemory (u : DatabaseUrl) : Bool :=
  (u.database.getD "") = "" || u.database = some ":memory:" || u.values "mode" = ["memory"]

/-- Whether the URL tells anything beside the path of a database. -/
def hasAuthority (u : DatabaseUrl) : Bool :=
  (u.user.getD "") ≠ "" || (u.password.getD "") ≠ "" || (u.host.getD "") ≠ "" ||
    (u.port.getD 0) ≠ 0

/-! ## Display -/

def hidden : String := "***"

/-- A name or a value of a parameter, with plus signs for its spaces. -/
def writeWord (s : String) : String :=
  (Text.percentEncoded [' '] s).map fun c => if c = ' ' then '+' else c

/-- The parameters in the order of their names. -/
def displayParameters (parameters : List (String × List String)) : String :=
  let ordered := parameters.mergeSort fun a b => decide (a.1 ≤ b.1)
  String.intercalate "&"
    (ordered.flatMap fun e => e.2.map fun v => writeWord e.1 ++ "=" ++ writeWord v)

def displayUser (u : DatabaseUrl) : String :=
  match u.user with
  | none => ""
  | some user =>
    Text.percentEncoded [' ', '+'] user ++ (if u.password.isSome then ":" ++ hidden else "") ++ "@"

def displayHost (u : DatabaseUrl) : String :=
  match u.host with
  | none => ""
  | some host => if host.toList.contains ':' then "[" ++ host ++ "]" else host

/-- The text of the URL, without the password. -/
def display (u : DatabaseUrl) : String :=
  u.name ++ "://" ++ u.displayUser ++ u.displayHost ++
    ((u.port.map fun n => ":" ++ toString n).getD "") ++
    ((u.database.map fun d => "/" ++ Text.percentEncoded [' ', '+', '/'] d).getD "") ++
    (if u.parameters.isEmpty then "" else "?" ++ displayParameters u.parameters)

end DatabaseUrl

end NamedQuery
