import NamedQuery.Engine.Driver
import NamedQuery.Engine.Url
import NamedQuery.Text.LowerCase

/-!
# What a driver makes of a URL

Before an engine is created, its driver looks at the URL: each library takes parameters of its own,
and a database in a file has no host.
-/

namespace NamedQuery.Driver

/-- The parameters that a library takes, in the order in which they are looked at. -/
def parameters (d : Driver) : List (String × ParameterForm) :=
  if d.library = "sqlite3" then
    [("uri", .truth), ("timeout", .decimal), ("isolation_level", .text), ("detect_types", .whole),
      ("check_same_thread", .truth), ("cached_statements", .whole)]
  else
    [("compress", .truth), ("connect_timeout", .whole), ("read_timeout", .whole),
      ("write_timeout", .whole), ("client_flag", .whole), ("local_infile", .truth),
      ("use_unicode", .truth), ("charset", .text), ("ssl_check_hostname", .truth)]

def trueWords : List String := ["true", "yes", "on", "y", "t", "1"]

def falseWords : List String := ["false", "no", "off", "n", "f", "0"]

/-- The truth that the values of a parameter write; several values are true. -/
def readTruth : List String → Except Error Bool
  | [s] =>
    let word := Text.lowerCase (Text.trimBlank s)
    if trueWords.contains word then .ok true
    else if falseWords.contains word then .ok false
    else .error (.notTruth word)
  | values => .ok !values.isEmpty

def checkValues (form : ParameterForm) (values : List String) : Except Error Unit :=
  match form, values with
  | .text, _ | _, [] => .ok ()
  | .truth, values => (readTruth values).map fun _ => ()
  | .whole, [s] => ((Numeral.whole 10 s).mapError Error.numeral).map fun _ => ()
  | .decimal, [s] => ((Numeral.double s).mapError Error.numeral).map fun _ => ()
  | form, _ => .error (.severalNumbers form)

def checkParameters (d : Driver) (u : DatabaseUrl) : Except Error Unit :=
  d.parameters.forM fun p => checkValues p.2 (u.values p.1)

/-- Whether parameters are left for the file itself. -/
def leavesParameters (d : Driver) (u : DatabaseUrl) : Bool :=
  u.parameters.any fun e => (d.parameters.lookup e.1).isNone

/-- Refuses a URL that does not lead to a file. -/
def checkFile (d : Driver) (u : DatabaseUrl) : Except Error Unit := do
  if u.hasAuthority then throw (.notFileUrl u.display)
  d.checkParameters u
  if (← readTruth (u.values "uri")) && u.database.isNone && d.leavesParameters u then
    throw .namelessFile

def check (d : Driver) (u : DatabaseUrl) : Except Error Unit :=
  if d.dialect = .sqlite then d.checkFile u else d.checkParameters u

end NamedQuery.Driver
