import NamedQuery.Template

/-!
# Dialects

The six dialects of statements, with the two things that differ between them beside the literals:
their names and the way a lone offset is written.
-/

namespace NamedQuery

inductive Dialect where
  | sqlite
  | mysql
  | mariadb
  | postgresql
  | mssql
  | oracle
deriving DecidableEq, Repr

namespace Dialect

def name : Dialect → String
  | sqlite => "sqlite"
  | mysql => "mysql"
  | mariadb => "mariadb"
  | postgresql => "postgresql"
  | mssql => "mssql"
  | oracle => "oracle"

def all : List Dialect := [sqlite, mysql, mariadb, postgresql, mssql, oracle]

def ofName? (s : String) : Option Dialect := all.find? (·.name = s)

/-- The limit that stands for no limit, in dialects that allow an offset only behind a limit. -/
def endlessLimit : Dialect → Option String
  | sqlite => some "-1"
  | mysql => some "18446744073709551615"
  | mariadb => some "18446744073709551615"
  | _ => none

def limitText (d : Dialect) : Option Template → Option Template → Template
  | some l, _ => Template.literal " LIMIT " ++ l
  | none, none => Template.empty
  | none, some _ =>
    match d.endlessLimit with
    | some s => Template.literal (" LIMIT " ++ s)
    | none => Template.empty

def offsetText : Option Template → Template
  | some o => Template.literal " OFFSET " ++ o
  | none => Template.empty

/-- A statement with a limit and an offset behind it. -/
def paginate (d : Dialect) (t : Template) (limit offset : Option Template) : Template :=
  t ++ d.limitText limit offset ++ offsetText offset

end Dialect

end NamedQuery
