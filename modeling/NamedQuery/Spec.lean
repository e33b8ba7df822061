import NamedQuery.Options.Reading

/-!
# Finder specifications

What defines a finder once it has been checked: a usable name, an arity and checked options.
-/

namespace NamedQuery

structure Spec where
  name : String
  arity : Arity
  options : Options
deriving Repr

/-- Options as a definition gives them: any value, or options that were checked before. -/
inductive GivenOptions where
  | value (v : Value)
  | checked (o : Options)
deriving Repr

namespace Spec

/-- A finder's name is a parameter name that does not begin with an underscore. -/
def isFinderName (s : String) : Bool :=
  Text.isParameterName s && s.toList.head? ≠ some '_'

def readName (v : Value) : Except Complaint String := do
  match ← Options.readText v with
  | .text s => if isFinderName s then .ok s else .error (.unusableName (Text.quoted s))
  | .broken points => .error (.unusableName (Text.quotedPoints points))

/-- The words for the two arities. -/
def arityOfWord (s : String) : Option Arity :=
  if ["first", "single", "one"].contains s then some .single
  else if ["all", "many"].contains s then some .many else none

/-- Reads an arity.  A string is read in any case and with blanks around it; bytes must be one of
the two words that an arity has itself. -/
def readArity : Value → Except Complaint Arity
  | .arity a => .ok a
  | .str s =>
    match arityOfWord (String.ofList ((Text.trimBlank s).toList.map Char.toLower)) with
    | some a => .ok a
    | none => .error (.unknownArity (Text.quoted s))
  | .broken points => .error (.unknownArity (Text.quotedPoints points))
  | .bytes content =>
    match Options.decodeText content with
    | some "first" => .ok .single
    | some "all" => .ok .many
    | _ => .error .notArity
  | _ => .error .notArity

def issuesAt {α : Type} (field : String) : Except Complaint α → List Issue
  | .ok _ => []
  | .error c => [⟨[field], c⟩]

/-- Reads options that a definition gives; absent options are empty. -/
def readOptions : GivenOptions → Except Error (Except (List Issue) Options)
  | .checked o => .ok (.ok o)
  | .value .null => .ok (Options.ofEntries [])
  | .value (.dict entries) => .ok (Options.ofEntries entries)
  | .value v => .error (.optionsNotMapping v)

/-- Checks the parts of a definition.  Options are checked first; complaints about the name and the
arity are made only when the options have none. -/
def build (name arity : Value) (options : GivenOptions) : Except Error Spec := do
  match ← readOptions options with
  | .error issues => .error (.invalidFinder name issues)
  | .ok options =>
    match readName name, readArity arity with
    | .ok name, .ok arity => .ok ⟨name, arity, options⟩
    | n, a => .error (.invalidFinder name (issuesAt "name" n ++ issuesAt "arity" a))

/-- The options with the defaults of the arity. -/
def normalized (s : Spec) : Options := s.options.normalized s.arity

/-- Whether the defaults of the arity change nothing. -/
def isNormal (s : Spec) : Bool :=
  match s.arity with
  | .many => true
  | .single => s.options.limit = some (.count 1)

end Spec

end NamedQuery
