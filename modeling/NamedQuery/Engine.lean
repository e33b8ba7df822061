import NamedQuery.Engine.Connection
import NamedQuery.Settings

/-!
# The shared engine

All finders use one engine.  It is created when it is first needed, from the settings, unless one
was installed before; a reset gives it up, so that the next use creates another one.  The settings
are read once and kept until they are dropped.
-/

namespace NamedQuery

/-- How an engine keeps its connections. -/
inductive Pool where
  | perThread
  | queue (size overflow : Nat)
deriving DecidableEq, Repr

structure Engine where
  /-- Engines are numbered in the order of their creation. -/
  number : Nat
  /-- The URL of the database, without the parameters that are for no driver. -/
  url : DatabaseUrl
  dialect : Dialect
  echo : Bool
  prePing : Bool
  pool : Pool
deriving DecidableEq, Repr

/-- What can be asked of an engine beside its URL. -/
structure EngineOptions where
  echo : Bool
  prePing : Bool
  /-- The size and the overflow of the queue of connections. -/
  sizes : Option (Nat × Nat)
deriving DecidableEq, Repr

/-- The options of an engine that is created from settings.  Sizes are left out by the look of the
URL, since not all databases of the dialect take any. -/
def Settings.engineOptions (s : Settings) : EngineOptions :=
  { echo := s.echoSql, prePing := s.poolPrePing
    sizes := if s.isSqlite then none else some (5, 10) }

namespace Engine

def usualSizes : Nat × Nat := (5, 10)

/-- No plugins are there, so a URL must not ask for one. -/
def refusePlugins (u : DatabaseUrl) : Except Error Unit :=
  match u.values "plugin" with
  | [] => .ok ()
  | name :: _ => .error (.unknownPlugin name)

/-- The pool of connections; only databases in memory do without a queue, and take no sizes. -/
def choosePool (d : Dialect) (u : DatabaseUrl) (sizes : Option (Nat × Nat)) : Except Error Pool :=
  if d = .sqlite && u.isInMemory then
    if sizes.isNone then .ok .perThread else .error .sizesUnused
  else .ok (.queue (sizes.getD usualSizes).1 (sizes.getD usualSizes).2)

/-- The engine for a URL; `installed` are the libraries that drivers may need. -/
def create (installed : List String) (number : Nat) (url : String) (o : EngineOptions) :
    Except Error Engine := do
  let u ← DatabaseUrl.parse url
  refusePlugins u
  let u := u.withoutPlugins
  let driver ← Driver.ofName u.name
  driver.load installed
  driver.check u
  let pool ← choosePool driver.dialect u o.sizes
  .ok { number, url := u, dialect := driver.dialect, echo := o.echo, prePing := o.prePing, pool }

end Engine

structure Shared where
  /-- The libraries that are installed. -/
  installed : List String
  environment : List (String × String)
  settings : Option Settings
  engine : Option Engine
  engines : Nat
deriving Repr

namespace Shared

def initial (installed : List String) : Shared :=
  { installed, environment := [], settings := none, engine := none, engines := 0 }

/-- Sets variables of the environment, up to the first one that is refused. -/
def setVariables (s : Shared) (added : List (String × String)) : Traced Unit × Shared :=
  let (accepted, result) := Settings.accepted added
  (Traced.ofExcept result,
    { s with
      environment := accepted.foldl (fun known e => Entries.assign known e.1 e.2) s.environment })

def dropSettings (s : Shared) : Shared := { s with settings := none }

/-- The settings, which are read from the environment at their first use. -/
def readSettings (s : Shared) : Except Error Settings × Shared :=
  match s.settings with
  | some settings => (.ok settings, s)
  | none =>
    match Settings.read s.environment none with
    | .ok settings => (.ok settings, { s with settings := some settings })
    | .error e => (.error e, s)

/-- Creates an engine, which gets the next number. -/
def make (s : Shared) (url : String) (o : EngineOptions) : Except Error Engine × Shared :=
  match Engine.create s.installed s.engines url o with
  | .ok e => (.ok e, { s with engines := s.engines + 1 })
  | .error e => (.error e, s)

/-- Puts an engine in the place of the shared one. -/
def set (s : Shared) (e : Engine) : Traced Unit × Shared :=
  (Traced.log (.engineInstalled e.dialect.name), { s with engine := some e })

/-- Creates an engine and makes it the shared one. -/
def install (s : Shared) (url : String) : Traced Engine × Shared :=
  match s.make url { echo := false, prePing := false, sizes := none } with
  | (.ok e, s) => ((fun _ => e) <$> (s.set e).1, (s.set e).2)
  | (.error e, s) => (Traced.fail e, s)

def reset (s : Shared) : Shared := { s with engine := none }

/-- The shared engine.  If there is none, it is created from the settings. -/
def acquire (s : Shared) : Traced Engine × Shared :=
  match s.engine with
  | some e => (pure e, s)
  | none =>
    match s.readSettings with
    | (.error e, s) => (Traced.fail e, s)
    | (.ok settings, s) =>
      match s.make settings.databaseUrl settings.engineOptions with
      | (.error e, s) => (Traced.fail e, s)
      | (.ok e, s) =>
        (⟨[.logged (.engineCreated e.dialect.name)], .ok e⟩, { s with engine := some e })

end Shared

end NamedQuery
