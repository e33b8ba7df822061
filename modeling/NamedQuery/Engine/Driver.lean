import NamedQuery.Dialect
import NamedQuery.Error
import NamedQuery.Text.Pieces

/-!
# Drivers

A driver is a way to reach the databases of a dialect: through a library of its own.  A URL names
the dialect, and the driver behind a plus sign unless it is the usual one.
-/

namespace NamedQuery

structure Driver where
  dialect : Dialect
  /-- The library that the driver needs. -/
  library : String
deriving DecidableEq, Repr

namespace Driver

/-- The name of the usual driver of each dialect. -/
def usualName : String := "base"

/-- The drivers of a dialect by name, each with its library. -/
def known : Dialect → List (String × String)
  | .sqlite =>
    [("base", "sqlite3"), ("pysqlite", "sqlite3"), ("aiosqlite", "aiosqlite"),
      ("pysqlcipher", "pysqlcipher3")]
  | .mysql | .mariadb =>
    [("base", "MySQLdb"), ("mysqldb", "MySQLdb"), ("pymysql", "pymysql"), ("cymysql", "cymysql"),
      ("mysqlconnector", "mysql"), ("mariadbconnector", "mariadb"), ("aiomysql", "aiomysql"),
      ("asyncmy", "asyncmy"), ("pyodbc", "pyodbc")]
  | .postgresql =>
    [("base", "psycopg"), ("psycopg", "psycopg"), ("psycopg_async", "psycopg"),
      ("psycopg2", "psycopg2"), ("psycopg2cffi", "psycopg2cffi"), ("asyncpg", "asyncpg"),
      ("pg8000", "pg8000")]
  | .mssql =>
    [("base", "pyodbc"), ("pyodbc", "pyodbc"), ("pymssql", "pymssql"), ("aioodbc", "aioodbc"),
      ("mssqlpython", "mssql_python")]
  | .oracle =>
    [("base", "oracledb"), ("oracledb", "oracledb"), ("oracledb_async", "oracledb"),
      ("cx_oracle", "cx_Oracle")]

/-- The parts of a dialect that are no drivers. -/
def otherParts : Dialect → List String
  | .sqlite => ["dml", "json"]
  | .mysql | .mariadb =>
    ["_mariadb_shim", "dml", "enumerated", "expression", "json", "mariadb", "reflection",
      "reserved_words", "types"]
  | .postgresql =>
    ["_psycopg_common", "bitstring", "dml", "ext", "json", "named_types", "operators", "pg_catalog",
      "ranges", "types"]
  | .mssql => ["information_schema", "json"]
  | .oracle => ["dictionary", "types", "vector"]

def classes : Dialect → List String
  | .sqlite =>
    ["BLOB", "BOOLEAN", "CHAR", "DATE", "DATETIME", "DECIMAL", "FLOAT", "INTEGER", "Insert", "JSON",
      "JSONB", "NUMERIC", "REAL", "SMALLINT", "TEXT", "TIME", "TIMESTAMP", "VARCHAR"]
  | .mysql =>
    ["BIGINT", "BINARY", "BIT", "BLOB", "BOOLEAN", "CHAR", "DATE", "DATETIME", "DECIMAL", "DOUBLE",
      "ENUM", "FLOAT", "INET4", "INET6", "INTEGER", "Insert", "JSON", "LONGBLOB", "LONGTEXT",
      "MEDIUMBLOB", "MEDIUMINT", "MEDIUMTEXT", "NCHAR", "NUMERIC", "NVARCHAR", "REAL", "SET",
      "SMALLINT", "TEXT", "TIME", "TIMESTAMP", "TINYBLOB", "TINYINT", "TINYTEXT", "VARBINARY",
      "VARCHAR", "YEAR", "match"]
  | .mariadb => []
  | .postgresql =>
    ["ARRAY", "AbstractMultiRange", "AbstractRange", "AbstractSingleRange", "BIGINT", "BIT",
      "BOOLEAN", "BYTEA", "BitString", "CHAR", "CIDR", "CITEXT", "CreateDomainType",
      "CreateEnumType", "DATE", "DATEMULTIRANGE", "DATERANGE", "DOMAIN", "DOUBLE_PRECISION",
      "DropDomainType", "DropEnumType", "ENUM", "ExcludeConstraint", "FLOAT", "HSTORE", "INET",
      "INT4MULTIRANGE", "INT4RANGE", "INT8MULTIRANGE", "INT8RANGE", "INTEGER", "INTERVAL", "Insert",
      "JSON", "JSONB", "JSONPATH", "MACADDR", "MACADDR8", "MONEY", "MultiRange", "NUMERIC",
      "NUMMULTIRANGE", "NUMRANGE", "NamedType", "OID", "REAL", "REGCLASS", "REGCONFIG", "Range",
      "SMALLINT", "TEXT", "TIME", "TIMESTAMP", "TSMULTIRANGE", "TSQUERY", "TSRANGE",
      "TSTZMULTIRANGE", "TSTZRANGE", "TSVECTOR", "UUID", "VARCHAR", "aggregate_order_by", "array",
      "hstore", "phraseto_tsquery", "plainto_tsquery", "to_tsquery", "to_tsvector", "ts_headline",
      "websearch_to_tsquery"]
  | .mssql =>
    ["BIGINT", "BINARY", "BIT", "CHAR", "DATE", "DATETIME", "DATETIME2", "DATETIMEOFFSET",
      "DECIMAL", "DOUBLE_PRECISION", "FLOAT", "IMAGE", "INTEGER", "JSON", "MONEY", "NCHAR", "NTEXT",
      "NUMERIC", "NVARCHAR", "REAL", "ROWVERSION", "SMALLDATETIME", "SMALLINT", "SMALLMONEY",
      "SQL_VARIANT", "TEXT", "TIME", "TIMESTAMP", "TINYINT", "UNIQUEIDENTIFIER", "VARBINARY",
      "VARCHAR", "XML"]
  | .oracle =>
    ["BFILE", "BINARY_DOUBLE", "BINARY_FLOAT", "BLOB", "CHAR", "CLOB", "DATE", "DOUBLE_PRECISION",
      "FLOAT", "INTERVAL", "LONG", "NCHAR", "NCLOB", "NUMBER", "NVARCHAR", "NVARCHAR2", "RAW",
      "REAL", "ROWID", "SparseVector", "TIMESTAMP", "VARCHAR", "VARCHAR2", "VECTOR",
      "VectorIndexConfig"]

def enumerations : Dialect → List String
  | .oracle =>
    ["VectorDistanceType", "VectorIndexType", "VectorStorageFormat", "VectorStorageType"]
  | _ => []

def functions : Dialect → List String
  | .sqlite => ["insert"]
  | .mysql => ["insert", "limit"]
  | .postgresql => ["All", "Any", "array_agg", "insert"]
  | .mssql => ["try_cast"]
  | _ => []

/-- The class of a dialect with its usual driver. -/
def usualClass : Dialect → String
  | .sqlite => "SQLiteDialect_pysqlite"
  | .mysql | .mariadb => "MySQLDialect_mysqldb"
  | .postgresql => "PGDialect_psycopg"
  | .mssql => "MSDialect_pyodbc"
  | .oracle => "OracleDialect_oracledb"

/-- What the home of every dialect has by its nature, each with its kind. -/
def inherent : List (String × String) :=
  [("__all__", "tuple"), ("__annotations__", "dict"), ("__builtins__", "dict"),
    ("__cached__", "str"), ("__dict__", "dict"), ("__doc__", "NoneType"), ("__file__", "str"),
    ("__loader__", "SourceFileLoader"), ("__name__", "str"), ("__package__", "str"),
    ("__path__", "list"), ("__spec__", "ModuleSpec")] ++
  ["__delattr__", "__eq__", "__ge__", "__getattribute__", "__gt__", "__hash__", "__init__",
    "__le__", "__lt__", "__ne__", "__repr__", "__setattr__", "__str__"].map (·, "method-wrapper") ++
  ["__dir__", "__format__", "__getstate__", "__init_subclass__", "__new__", "__reduce__",
    "__reduce_ex__", "__sizeof__", "__subclasshook__"].map (·, "builtin_function_or_method")

/-- Where the parts of a dialect are kept; the two related dialects share theirs. -/
def home : Dialect → String
  | .mariadb => "mysql"
  | d => d.name

def part (d : Dialect) (name : String) : Owner :=
  .ofPart ("sqlalchemy.dialects." ++ home d ++ "." ++ name)

/-- What is wrong with a name that means something to a dialect and names no driver.  Of the second
one of the related dialects, only the parts are looked at. -/
def fault? (d : Dialect) (name : String) : Option Error :=
  let lacking (owner : Owner) : Option Error := some (.missingAttribute owner "dialect")
  if (otherParts d).contains name then lacking (part d name)
  else if d = .mariadb then none
  else if d = .postgresql && name = "arraylib" then lacking (part d "array")
  else if (classes d).contains name then lacking (.ofClass name)
  else if (enumerations d).contains name then some (.unknownAttribute "dialect")
  else if (functions d).contains name then lacking (.ofObject "function")
  else if name = "dialect" then lacking (.ofClass (usualClass d))
  else if name = "__class__" || (name = "ModuleType" && (d = .postgresql || d = .oracle)) then
    lacking (.ofClass "module")
  else (inherent.lookup name).bind fun kind => lacking (.ofObject kind)

/-- The driver of a dialect by name; `full` is the whole name in the URL. -/
def find (full dialect driver : String) : Except Error Driver :=
  match Dialect.ofName? dialect with
  | none => .error (.unknownDialect full)
  | some d =>
    match (known d).lookup driver with
    | some library => .ok ⟨d, library⟩
    | none => .error ((fault? d driver).getD (.unknownDialect full))

def ofName (name : String) : Except Error Driver :=
  let parts := (Text.pieces '+' name.toList).map String.ofList
  let full := String.intercalate "." parts
  match parts with
  | [dialect] => find full dialect usualName
  | [dialect, driver] => find full dialect driver
  | _ => .error .severalDrivers

/-- The library of the driver must be among those that are installed. -/
def load (installed : List String) (d : Driver) : Except Error Unit :=
  if installed.contains d.library then .ok () else .error (.missingLibrary d.library)

end Driver

end NamedQuery
