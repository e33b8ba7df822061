import NamedQuery.Yaml.Token
import NamedQuery.Yaml.Token.Scalar

/-!
# Reading anchors, tags and directives

The small tokens that stand before a node or before a document.
-/

namespace NamedQuery.Yaml.Property

open Reader

def isNameChar (c : Char) : Bool := c.isAlphanum || c = '-' || c = '_'

def name : Reader String := do
  skip 1
  let cs ← span isNameChar
  ensure (!cs.isEmpty)
  ensure (endOr (fun c => isGap c || "?:,]\x7d%@`".toList.contains c) (← peek))
  return String.ofList cs

def isTagChar (c : Char) : Bool :=
  isNameChar c || ";/?:@&=+$,.!~*'()[]%".toList.contains c

/-- The bytes that escapes at the front stand for. -/
def escapedBytes : Nat → Reader (List UInt8)
  | 0 => refuse
  | fuel + 1 => do
    if (← peek) = some '%' then
      skip 1
      let digits := (← get).rest.take 2
      ensure (digits.length = 2)
      let some n := Scalar.hexNumber 0 digits | refuse
      skip 2
      return n.toUInt8 :: (← escapedBytes fuel)
    else return []

def tagRest : Nat → Reader (List Char)
  | 0 => refuse
  | fuel + 1 => do
    let run ← span fun c => isTagChar c && c ≠ '%'
    if (← peek) = some '%' then
      let bytes ← escapedBytes fuel
      let some s := String.fromUTF8? ⟨bytes.toArray⟩ | refuse
      return run ++ s.toList ++ (← tagRest fuel)
    else return run

/-- A tag without its handle; it is not empty. -/
def tagSuffix (fuel : Nat) : Reader String := do
  ensure (nextIs isTagChar (← peek))
  let cs ← tagRest fuel
  return String.ofList cs

/-- A handle: an exclamation mark, or a name between two of them. -/
def handle : Reader String := do
  ensure ((← peek) = some '!')
  skip 1
  if (← peek) = some ' ' then return "!"
  let cs ← span isNameChar
  ensure ((← peek) = some '!')
  skip 1
  return String.ofList ('!' :: cs ++ ['!'])

def isSpaceOrBreak (c : Char) : Bool := c = ' ' || isBreak c

def hasHandle (cs : List Char) : Bool :=
  ((cs.drop 1).takeWhile fun c => !isSpaceOrBreak c).contains '!'

/-- The handle and the suffix of a tag; a tag in full has no handle. -/
def tagParts (fuel : Nat) : Reader (Option String × String) := do
  match ← peekAt 1 with
  | some '<' =>
    skip 2
    let suffix ← tagSuffix fuel
    ensure ((← peek) = some '>')
    skip 1
    return (none, suffix)
  | next =>
    if endOr isGap next then
      skip 1
      return (none, "!")
    else if hasHandle (← get).rest then
      let h ← handle
      let suffix ← tagSuffix fuel
      return (some h, suffix)
    else
      skip 1
      let suffix ← tagSuffix fuel
      return (some "!", suffix)

def tag (fuel : Nat) : Reader Token := do
  let (h, suffix) ← tagParts fuel
  ensure (endOr isSpaceOrBreak (← peek))
  return .tag h suffix

def versionNumber : Reader Nat := do
  let ds ← span Char.isDigit
  ensure (!ds.isEmpty)
  match Numeral.whole 10 (String.ofList ds) with
  | .ok n => return n.toNat
  | .error fault => throw (.meaningless (.numeral fault))

def versionDirective : Reader Directive := do
  spaces
  let major ← versionNumber
  ensure ((← peek) = some '.')
  skip 1
  let _ ← versionNumber
  ensure (endOr isSpaceOrBreak (← peek))
  return .version major

def abbreviationDirective (fuel : Nat) : Reader Directive := do
  spaces
  let h ← handle
  ensure ((← peek) = some ' ')
  spaces
  let meaning ← tagSuffix fuel
  ensure (endOr isSpaceOrBreak (← peek))
  return .abbreviation h meaning

/-- A directive with the rest of its line. -/
def directive (fuel : Nat) : Reader Token := do
  skip 1
  let cs ← span isNameChar
  ensure (!cs.isEmpty)
  ensure (endOr isSpaceOrBreak (← peek))
  let d ← match String.ofList cs with
    | "YAML" => versionDirective
    | "TAG" => abbreviationDirective fuel
    | _ => do
      let _ ← span fun c => !isBreak c
      pure Directive.other
  restOfLine
  return .directive d

end NamedQuery.Yaml.Property
