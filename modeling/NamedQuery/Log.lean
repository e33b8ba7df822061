import NamedQuery.Error

/-!
# Log records

What the library reports while it works.  A record knows the part of the library it comes from, its
level and its text; the level of the loggers decides which records become lines.  The time of a
record and the time a statement took are not modelled: `TIME` and `N` stand in their places.
-/

namespace NamedQuery

namespace Log

inductive Level where
  | debug
  | info
deriving DecidableEq, Repr

def Level.number : Level → Nat
  | debug => 10
  | info => 20

def Level.label : Level → String
  | debug => "DEBUG   "
  | info => "INFO    "

inductive Record where
  | defined (model finder : String) (arity : Arity) (parameters : Nat) (positional : Bool)
  | prefetched (model : String)
  /-- A finder is about to run; `finder` is its name behind the name of the model. -/
  | running (finder sql : String)
  | returned (finder : String) (rows : Nat)
  | loaded (count : Nat) (path : String)
  | engineCreated (dialect : String)
  | engineInstalled (dialect : String)
  | rowsMapped (count : Nat) (model : String)
deriving DecidableEq, Repr

/-- Statements longer than this are cut in the log. -/
def previewLength : Nat := 2000

/-- The start of a long statement with its full length, a short one as it is. -/
def preview (sql : String) : String :=
  if previewLength < sql.length then
    String.ofList (sql.toList.take previewLength) ++ "... (" ++ toString sql.length ++ " chars)"
  else sql

namespace Record

def level : Record → Level
  | prefetched _ => .debug
  | running .. => .debug
  | rowsMapped .. => .debug
  | _ => .info

/-- The name of the part of the library that reports. -/
def source : Record → String
  | defined .. => "sqlfinder.finders.synthesizer"
  | running .. => "sqlfinder.finders.synthesizer"
  | returned .. => "sqlfinder.finders.synthesizer"
  | prefetched _ => "sqlfinder.finders.assembler"
  | loaded .. => "sqlfinder.finders.loader"
  | engineCreated _ => "sqlfinder.db.connection"
  | engineInstalled _ => "sqlfinder.db.connection"
  | rowsMapped .. => "sqlfinder.db.backend"

def text : Record → String
  | defined model finder arity parameters positional =>
    "Defined finder " ++ model ++ "." ++ finder ++ "  arity=" ++ arity.word ++ "  params=" ++
      toString parameters ++ "  mode=" ++ (if positional then "positional" else "named")
  | prefetched model => "Prefetch hook rewrote options for " ++ model
  | running finder sql => finder ++ " SQL: " ++ preview sql
  | returned finder rows => finder ++ " returned " ++ toString rows ++ " rows in N ms"
  | loaded count path => "Loaded " ++ toString count ++ " finder definitions from " ++ path
  | engineCreated dialect => "DB engine created  dialect=" ++ dialect
  | engineInstalled dialect => "DB engine installed  dialect=" ++ dialect
  | rowsMapped count model => "Mapped " ++ toString count ++ " " ++ model ++ " rows"

def line (r : Record) : String :=
  "TIME | " ++ r.level.label ++ " | " ++ r.source ++ " | " ++ r.text ++ "\n"

end Record

structure Filter where
  /-- The level of the loggers; zero leaves the decision to the level above them. -/
  threshold : Nat
  /-- The level above the loggers, which is the application's. -/
  outer : Nat
deriving DecidableEq, Repr

namespace Filter

def admits (f : Filter) (level : Level) : Bool :=
  (if f.threshold = 0 then f.outer else f.threshold) ≤ level.number

def writes (f : Filter) (r : Record) : Bool := f.admits r.level

end Filter

def lines (f : Filter) (records : List Record) : String :=
  String.join ((records.filter f.writes).map Record.line)

end Log

end NamedQuery
