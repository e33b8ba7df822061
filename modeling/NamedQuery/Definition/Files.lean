import NamedQuery.Definition
import NamedQuery.Trace
import NamedQuery.Text.Pieces
import NamedQuery.Yaml.Document

/-!
# Files of definitions

Definitions are read from a file, whose path is given or configured.  The files are those of one
directory, in which paths begin.
-/

namespace NamedQuery

/-- Files with their texts.  The name of a file stands behind the way to its directory, which is
nothing for the one where paths begin. -/
structure Files where
  texts : List (String × String)
deriving Repr

namespace Files

def empty : Files := ⟨[]⟩

/-- The greatest number of bytes in one step of a path. -/
def stepLimit : Nat := 255

/-- The greatest number of bytes in a path. -/
def pathLimit : Nat := 4095

/-- The way to the directory around another one; nothing is around the outermost one. -/
def outward (directory : String) : String := if directory = "/" then "/" else "../" ++ directory

/-- Goes from a directory to the end of a path, where `finish` gets the name of the file behind the
way to it, and whether the path asks for a directory of that name. -/
def follow {α : Type} (files : Files) (path : String)
    (finish : String → Bool → Except Error α) (directory : String) :
    List (List Char) → Except Error α
  | [] => .error (.isDirectory path)
  | step :: rest =>
    if step.isEmpty || step = ['.'] then follow files path finish directory rest
    else if step = ['.', '.'] then follow files path finish (outward directory) rest
    else if stepLimit < (String.ofList step).utf8ByteSize then .error (.pathTooLong path)
    else if rest.all List.isEmpty then finish (directory ++ String.ofList step) !rest.isEmpty
    else
      match files.texts.lookup (directory ++ String.ofList step) with
      | none => .error (.noSuchFile path)
      | some _ => .error (.notDirectory path)

def walk {α : Type} (files : Files) (path : String)
    (finish : String → Bool → Except Error α) : Except Error α :=
  let cs := path.toList
  if cs.contains '\x00' then .error .nullCharacter
  else if cs.isEmpty then .error (.noSuchFile path)
  else if pathLimit < path.utf8ByteSize then .error (.pathTooLong path)
  else files.follow path finish (if cs.head? = some '/' then "/" else "") (Text.pieces '/' cs)

/-- Writes a file, in the place of one with the same name. -/
def write (files : Files) (path text : String) : Except Error Files :=
  files.walk path fun name asDirectory =>
    if asDirectory then .error (.isDirectory path)
    else .ok ⟨(name, text) :: files.texts.filter (·.1 ≠ name)⟩

def read (files : Files) (path : String) : Except Error String :=
  files.walk path fun name asDirectory =>
    match files.texts.lookup name with
    | none => .error (.noSuchFile path)
    | some text => if asDirectory then .error (.notDirectory path) else .ok text

end Files

namespace Definition

def faultError (path : String) : Yaml.Fault → Error
  | .malformed => .malformed path
  | .meaningless cause => cause

def ofText (path text : String) : Except Error (List Definition) :=
  match Yaml.valueOf text with
  | .ok v => ofDocument v
  | .error fault => .error (faultError path fault)

def load (files : Files) (path : Option String) : Traced (List Definition) := do
  match path with
  | none => Traced.fail .noPath
  | some path =>
    if path.isEmpty then Traced.fail .noPath
    else
      let text ← Traced.ofExcept (files.read path)
      let definitions ← Traced.ofExcept (ofText path text)
      Traced.log (.loaded definitions.length path)
      pure definitions

end Definition

end NamedQuery
