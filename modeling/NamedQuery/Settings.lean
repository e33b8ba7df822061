import NamedQuery.Options.Reading
import NamedQuery.Settings.EnvFile
import NamedQuery.Log.Threshold
import NamedQuery.Text.LowerCase

/-!
# Settings

The settings are read from variables whose names begin with a common start, from the environment or
else from a file.  Case does not matter in names.  A variable of the file that is no setting is an
error; one of the environment is ignored.
-/

namespace NamedQuery

structure Settings where
  databaseUrl : String
  /-- Whether statements are echoed by the database layer. -/
  echoSql : Bool
  /-- Whether connections are tested before they are used. -/
  poolPrePing : Bool
  logLevel : String
  /-- Whether the statements that run are logged. -/
  logSql : Bool
  /-- Where finder definitions are read from. -/
  definitionsPath : Option String
deriving DecidableEq, Repr

namespace Settings

def standard : Settings :=
  { databaseUrl := "sqlite+pysqlite:///:memory:", echoSql := false, poolPrePing := true,
    logLevel := "INFO", logSql := true, definitionsPath := none }

/-- The beginning of the names of all variables. -/
def namespacePart : String := "sqlfinder_"

def pathVariable : String := "SQLFINDER_DEFINITIONS_PATH"

def fileName : String := ".env"

def fields : List String :=
  ["database_url", "echo_sql", "pool_pre_ping", "log_level", "log_sql", "definitions_path"]

/-- The variables under their names in lower case; of several, the last one counts. -/
def foldNames (entries : List (String × Option String)) : List (String × Option String) :=
  entries.foldl (fun folded e => Entries.assign folded (Text.lowerCase e.1) e.2) []

/-- Refuses a variable that no environment can hold. -/
def checkVariable (e : String × String) : Except Error Unit :=
  if e.1.toList.contains '\x00' || e.2.toList.contains '\x00' then .error .nullCharacter
  else if e.1.isEmpty then .error .emptyVariable
  else if e.1.toList.contains '=' then .error .illegalVariable
  else .ok ()

/-- The variables before the first one that is refused, and why it is. -/
def accepted : List (String × String) → List (String × String) × Except Error Unit
  | [] => ([], .ok ())
  | e :: rest =>
    match checkVariable e with
    | .ok _ => (e :: (accepted rest).1, (accepted rest).2)
    | .error cause => ([], .error cause)

/-- The text that is given for a field. -/
def given (environment file : List (String × Option String)) (field : String) : Option String :=
  match (environment.lookup (namespacePart ++ field)).join with
  | some s => some s
  | none => (file.lookup (namespacePart ++ field)).join

/-- A variable of a file that is no setting.  One without a value is ignored, and so is one that
has the bare name of a field. -/
def isUnknown (e : String × Option String) : Bool :=
  (e.2.getD "") ≠ "" && !fields.contains e.1 &&
    !fields.any fun field => e.1 = namespacePart ++ field

/-- The flag that a field is given, or the usual one. -/
def flag (text : Option String) (usual : Bool) (field : String) : Except (List Issue) Bool :=
  match text with
  | none => .ok usual
  | some s =>
    match Options.readBooleanWord s with
    | .ok b => .ok b
    | .error c => .error [⟨[field], c⟩]

/-- Reads settings from an environment and a file. -/
def read (environment : List (String × String)) (file : Option String) : Except Error Settings :=
  let env := foldNames (environment.map fun e => (e.1, some e.2))
  let entries := foldNames ((file.map (EnvFile.read environment)).getD [])
  let text := given env entries
  let echoSql := flag (text "echo_sql") standard.echoSql "echo_sql"
  let poolPrePing := flag (text "pool_pre_ping") standard.poolPrePing "pool_pre_ping"
  let logSql := flag (text "log_sql") standard.logSql "log_sql"
  let unknown := (entries.filter isUnknown).map fun e => Issue.mk [e.1] .unknownField
  match echoSql, poolPrePing, logSql, unknown with
  | .ok echoSql, .ok poolPrePing, .ok logSql, [] =>
    .ok {
      databaseUrl := (text "database_url").getD standard.databaseUrl
      echoSql, poolPrePing, logSql
      logLevel := (text "log_level").getD standard.logLevel
      definitionsPath := text "definitions_path" }
  | _, _, _, _ =>
    .error (.invalid (Options.issuesOf echoSql ++ Options.issuesOf poolPrePing ++
      Options.issuesOf logSql ++ unknown))

def isSqlite (s : Settings) : Bool :=
  "sqlite".toList.isPrefixOf s.databaseUrl.toList

/-- Which log records are written under the settings, where the loggers stand below a level. -/
def filter (s : Settings) (outer : Nat) : Except Error Log.Filter :=
  (Log.threshold s.logLevel).map fun threshold => { threshold, outer }

end Settings

end NamedQuery
