import NamedQuery.Value.Equality
import NamedQuery.Error

/-!
# Definitions of finders in documents

A document is a mapping with a list of entries under `finders`.  Each entry names the model, the
finder and its arity; everything else in it is an option.
-/

namespace NamedQuery

/-- A finder as a document defines it.  The model, the name and the arity are texts, in which halves
of characters may stand alone. -/
structure Definition where
  model : Value
  name : Value
  arity : Value
  /-- The options in the order of the document. -/
  options : List (Value × Value)
deriving Repr

namespace Definition

/-- The keys that every entry needs; they are no options. -/
def requiredKeys : List String := ["model", "name", "arity"]

/-- The value of a key, or nothing. -/
def field (entries : List (Value × Value)) (key : String) : Value :=
  (Value.lookup (.str key) entries).getD .null

/-- The required keys that have no value in an entry. -/
def missingKeys (entries : List (Value × Value)) : List String :=
  requiredKeys.filter fun key => !(field entries key).truthy

def isOption (key : Value) : Bool := !requiredKeys.any fun name => Value.same key (.str name)

def fieldText (entries : List (Value × Value)) (key : String) : Except Error Value :=
  (field entries key).written fun v => v.content.toValue

/-- Whether an option leads to a value that holds itself. -/
def isEndless (d : Definition) : Bool :=
  d.options.any fun e =>
    match e.2 with
    | .looped .. => true
    | _ => false

def ofFields (entries : List (Value × Value)) : Except Error Definition := do
  let model ← fieldText entries "model"
  let name ← fieldText entries "name"
  let arity ← fieldText entries "arity"
  .ok { model, name, arity, options := entries.filter fun e => isOption e.1 }

def ofEntry (index : Nat) (entry : Value) : Except Error Definition :=
  match entry.opened with
  | .dict entries =>
    if (missingKeys entries).isEmpty then ofFields entries
    else .error (.entryMissing index (missingKeys entries))
  | _ => .error (.entryNotMapping index)

/-- The definitions of entries, the first of which has this index. -/
def ofEntriesFrom (index : Nat) : List Value → Except Error (List Definition)
  | [] => .ok []
  | entry :: rest => do
    let first ← ofEntry index entry
    let others ← ofEntriesFrom (index + 1) rest
    .ok (first :: others)

/-- The version of a document; one without a version has the first. -/
def versionOf (entries : List (Value × Value)) : Value :=
  (Value.lookup (.str "version") entries).getD (.int 1)

/-- Refuses a document with another version than the one that is understood. -/
def checkVersion (version : Value) : Except Error Unit :=
  if version.refusesComparison (.int 1) then .error (.decimal .undefined)
  else if Value.same version (.int 1) then .ok ()
  else do
    let version ← version.written id
    .error (.unsupportedVersion version)

/-- The list under `finders`, which may be missing or empty in any way. -/
def entriesOf (entries : List (Value × Value)) : Except Error (List Value) :=
  match ((field entries "finders").orElse (.list [])).opened with
  | .list items => .ok items
  | _ => .error .findersNotList

/-- The definitions in a document; no document holds none. -/
def ofDocument (document : Value) : Except Error (List Definition) :=
  match document.opened with
  | .null => .ok []
  | .dict entries => do
    checkVersion (versionOf entries)
    let items ← entriesOf entries
    ofEntriesFrom 0 items
  | _ => .error .documentNotMapping

end Definition

end NamedQuery
