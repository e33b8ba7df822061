import NamedQuery.Text.Content
import NamedQuery.Trace

/-!
# Statement templates

A template is statement text with slots for values.  It is kept as the sequence of its glyphs and
slots, so that appending templates is appending sequences and two templates are equal exactly if
they read the same.  `Template.parts` is the view by maximal pieces of text.
-/

namespace NamedQuery

/-- A place for the value of a parameter; `position` indexes the order of the parameters. -/
structure Slot where
  name : String
  position : Int
deriving DecidableEq, Repr, Hashable

def Slot.marker (s : Slot) : List Char := ':' :: s.name.toList

/-- One element of a template. -/
inductive Symbol where
  | glyph (g : Glyph)
  | slot (s : Slot)
deriving DecidableEq, Repr, Hashable

/-- What a symbol shows in the text of a template. -/
def Symbol.shown : Symbol → List Glyph
  | .glyph g => [g]
  | .slot s => s.marker.map .char

def Symbol.slot? : Symbol → Option Slot
  | .glyph _ => none
  | .slot s => some s

/-- A maximal piece of text, or a slot. -/
inductive Part where
  | text (c : Content)
  | slot (s : Slot)
deriving DecidableEq, Repr, Hashable

structure Template where
  symbols : List Symbol
deriving DecidableEq, Repr

namespace Template

def empty : Template := ⟨[]⟩

def ofGlyphs (gs : List Glyph) : Template := ⟨gs.map .glyph⟩

def ofContent (c : Content) : Template := ofGlyphs c.glyphs

def literal (s : String) : Template := ofGlyphs (Glyph.ofText s)

def ofSlot (s : Slot) : Template := ⟨[.slot s]⟩

@[simp]
theorem symbols_ofGlyphs (gs : List Glyph) : (ofGlyphs gs).symbols = gs.map .glyph := rfl

protected def append (a b : Template) : Template := ⟨a.symbols ++ b.symbols⟩

instance : Append Template := ⟨Template.append⟩

@[simp]
theorem symbols_append (a b : Template) : (a ++ b).symbols = a.symbols ++ b.symbols := rfl

theorem ofGlyphs_append (gs hs : List Glyph) : ofGlyphs (gs ++ hs) = ofGlyphs gs ++ ofGlyphs hs :=
  congrArg Template.mk List.map_append

theorem literal_append (s t : String) : literal (s ++ t) = literal s ++ literal t := by
  rw [literal, Glyph.ofText_append, ofGlyphs_append, literal, literal]

protected theorem append_assoc (a b c : Template) : a ++ b ++ c = a ++ (b ++ c) :=
  congrArg Template.mk (List.append_assoc a.symbols b.symbols c.symbols)

theorem empty_append (t : Template) : empty ++ t = t := rfl

theorem append_empty (t : Template) : t ++ empty = t :=
  congrArg Template.mk (List.append_nil t.symbols)

def isEmpty (t : Template) : Bool := t.symbols.isEmpty

def concat : List Template → Template
  | [] => empty
  | t :: rest => t ++ concat rest

theorem concat_append (ts us : List Template) : concat (ts ++ us) = concat ts ++ concat us := by
  induction ts with
  | nil => rfl
  | cons t rest ih => simp only [List.cons_append, concat, ih, Template.append_assoc]

def ofPart : Part → Template
  | .text c => ofContent c
  | .slot s => ofSlot s

def ofParts (parts : List Part) : Template := concat (parts.map ofPart)

/-- All templates with `separator` between neighbours. -/
def join (separator : Template) : List Template → Template
  | [] => empty
  | [t] => t
  | t :: rest => t ++ separator ++ join separator rest

theorem join_cons (separator t : Template) (rest : List Template) :
    join separator (t :: rest) = t ++ concat (rest.map (separator ++ ·)) := by
  induction rest generalizing t with
  | nil => exact (append_empty t).symm
  | cons u rest ih => simp only [join, ih, List.map_cons, concat, Template.append_assoc]

/-- Puts the piece of text `front` before the parts, unless it is empty. -/
def addText (front : List Glyph) (parts : List Part) : List Part :=
  if front.isEmpty then parts else .text (Content.ofGlyphs front) :: parts

/-- The text at the front of the symbols, up to the first slot, and the parts from there on. -/
def split : List Symbol → List Glyph × List Part
  | [] => ([], [])
  | .glyph g :: rest =>
    let (front, parts) := split rest
    (g :: front, parts)
  | .slot s :: rest =>
    let (front, parts) := split rest
    ([], .slot s :: addText front parts)

/-- The template as pieces of text and slots: no piece is empty and no two are neighbours. -/
def parts (t : Template) : List Part :=
  let (front, parts) := split t.symbols
  addText front parts

/-- The slots from left to right, one for each occurrence. -/
def slots (t : Template) : List Slot := t.symbols.filterMap Symbol.slot?

@[simp]
theorem slots_append (a b : Template) : (a ++ b).slots = a.slots ++ b.slots := by
  simp [slots]

@[simp]
theorem slots_ofGlyphs (gs : List Glyph) : (ofGlyphs gs).slots = [] := by
  simp [slots, Symbol.slot?]

@[simp]
theorem slots_literal (s : String) : (literal s).slots = [] := slots_ofGlyphs (Glyph.ofText s)

/-- Equal templates have equal hashes. -/
instance : Hashable Template := ⟨fun t => hash t.symbols⟩

/-- The text with every slot shown as its marker. -/
def glyphs (t : Template) : List Glyph := t.symbols.flatMap Symbol.shown

@[simp]
theorem glyphs_append (a b : Template) : (a ++ b).glyphs = a.glyphs ++ b.glyphs := by
  simp [glyphs]

@[simp]
theorem glyphs_ofGlyphs (gs : List Glyph) : (ofGlyphs gs).glyphs = gs := by
  simp [glyphs, List.flatMap_map, Symbol.shown]

@[simp]
theorem glyphs_literal (s : String) : (literal s).glyphs = Glyph.ofText s :=
  glyphs_ofGlyphs (Glyph.ofText s)

def content (t : Template) : Content := Content.ofGlyphs t.glyphs

/-- The characters of the text. -/
def text (t : Template) : String := t.content

/-- The statement in which `resolve` has filled the slots, from left to right. -/
def renderSymbols {m : Type → Type} [Monad m] (resolve : Slot → m String) :
    List Symbol → m (List Glyph)
  | [] => pure []
  | .glyph g :: rest => do
    let tail ← renderSymbols resolve rest
    pure (g :: tail)
  | .slot s :: rest => do
    let value ← resolve s
    let tail ← renderSymbols resolve rest
    pure (Glyph.ofText value ++ tail)

/-- The characters of the statement in which `resolve` has filled the slots. -/
def render {m : Type → Type} [Monad m] (t : Template) (resolve : Slot → m String) : m String := do
  let gs ← renderSymbols resolve t.symbols
  pure (Glyph.toText gs)

end Template

end NamedQuery
