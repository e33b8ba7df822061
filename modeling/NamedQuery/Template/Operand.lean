import NamedQuery.Template
import NamedQuery.Value.Sum

/-!
# Operands of template expressions

Templates are built from texts, slots and other templates.  An operand may also be a value that no
template accepts; every operation then names the offender.
-/

namespace NamedQuery

inductive Operand where
  | template (t : Template)
  | slot (s : Slot)
  | value (v : Value)

namespace Operand

/-- The template an operand stands for inside a template. -/
def toTemplate : Operand → Except Error Template
  | template t => .ok t
  | slot s => .ok (Template.ofSlot s)
  | value v =>
    match v.content? with
    | some c => .ok (Template.ofContent c)
    | none => .error (.unsupportedPart v)

/-- The template of all operands behind each other. -/
def build (operands : List Operand) : Except Error Template := do
  let templates ← operands.mapM toTemplate
  .ok (Template.concat templates)

/-- The template of all operands with `separator` between neighbours. -/
def join (separator : Operand) (operands : List Operand) : Except Error Template :=
  build (operands.intersperse separator)

def typeName : Operand → String
  | template _ => "ClauseTemplate"
  | slot _ => "Placeholder"
  | value v => v.longTypeName

/-- The sum of two operands.  A template can be added to a template or a text on either side; values
are added as such, and any other sum is refused. -/
def add : Operand → Operand → Except Error Operand
  | template a, template b => .ok (template (a ++ b))
  | template a, value v =>
    match v.content? with
    | some c => .ok (template (a ++ Template.ofContent c))
    | none => .error (.unsupportedSum "ClauseTemplate" v.longTypeName)
  | value v, value w => (v.add w).map value
  | value v, template b =>
    match v.content? with
    | some c => .ok (template (Template.ofContent c ++ b))
    | none => .error (v.refusal "ClauseTemplate")
  | value v, b => .error (v.refusal b.typeName)
  | a, b => .error (.unsupportedSum a.typeName b.typeName)

/-- How two operands compare. -/
structure Comparison where
  equal : Bool
  /-- Whether the second one is a template and the first one has its hash. -/
  sameHash : Bool
deriving DecidableEq, Repr

/-- The texts of a template without slots, each piece on its own. -/
def textsOf (t : Template) : Option (List Content) :=
  t.parts.mapM fun
    | .text c => some c
    | .slot _ => none

/-- Whether a value has the hash of a template: a tuple of its pieces has. -/
def sharesHash (v : Value) (t : Template) : Bool :=
  match v, textsOf t with
  | .tuple items, some texts => items.map Value.content? = texts.map some
  | _, _ => false

/-- Compares two operands.  A value that is compared with a template must have a hash. -/
def compare : Operand → Operand → Except Error Comparison
  | template a, template b => .ok ⟨a = b, hash a = hash b⟩
  | value v, template b =>
    match v.unhashable? with
    | some inner => .error (.unhashable inner)
    | none => .ok ⟨false, sharesHash v b⟩
  | slot a, slot b => .ok ⟨a = b, false⟩
  | value v, value w =>
    if v.refusesComparison w then .error (.decimal .undefined) else .ok ⟨Value.same v w, false⟩
  | _, _ => .ok ⟨false, false⟩

end Operand

namespace Template

/-- The pieces of a template, with values in the places of its slots. -/
def pieces (values : List (String × Value)) : List Part → Except Error (List Value)
  | [] => .ok []
  | .text c :: rest => do .ok (c.toValue :: (← pieces values rest))
  | .slot s :: rest =>
    match values.lookup s.name with
    | some v => do .ok (v :: (← pieces values rest))
    | none => .error (.missingKey s.name)

/-- The texts of pieces, the first of which has this index. -/
def textsFrom (index : Nat) : List Value → Except Error (List Content)
  | [] => .ok []
  | v :: rest =>
    match v.content? with
    | some c => do .ok (c :: (← textsFrom (index + 1) rest))
    | none => .error (.notJoinable index v.longTypeName)

/-- The statement in which named values fill the slots.  They must all be texts. -/
def fillNamed (t : Template) (values : List (String × Value)) : Except Error String := do
  let pieces ← pieces values t.parts
  let texts ← textsFrom 0 pieces
  .ok (Glyph.toText (texts.flatMap Content.glyphs))

end Template

end NamedQuery
