import NamedQuery.Template
import NamedQuery.Template.Marker

/-!
# Binders

A binder turns the markers of a text into slots.  It remembers the names it has met, in the order
of their first appearance; the position of a slot is the place of its name in that order.  One
binder serves all texts of a statement, so equal names get equal slots in all of them.
-/

namespace NamedQuery

structure Binder where
  /-- The names met so far, each one once. -/
  order : List String
deriving DecidableEq, Repr

namespace Binder

def empty : Binder := ⟨[]⟩

def note (b : Binder) (name : String) : Binder :=
  if b.order.contains name then b else ⟨b.order ++ [name]⟩

theorem mem_order_note (b : Binder) (name other : String) :
    other ∈ (b.note name).order ↔ other ∈ b.order ∨ other = name := by
  unfold note
  split
  · next h =>
    constructor
    · exact Or.inl
    · rintro (h' | rfl)
      · exact h'
      · simpa using h
  · simp

def slot (b : Binder) (name : String) : Slot := ⟨name, b.order.idxOf name⟩

/-- Turns the marks of a text into symbols. -/
def bindMarks (b : Binder) : List Marker.Mark → List Symbol × Binder
  | [] => ([], b)
  | .glyph g :: rest =>
    let (symbols, after) := bindMarks b rest
    (.glyph g :: symbols, after)
  | .name cs :: rest =>
    let noted := b.note (String.ofList cs)
    let (symbols, after) := bindMarks noted rest
    (.slot (noted.slot (String.ofList cs)) :: symbols, after)

def bindGlyphs (b : Binder) (gs : List Glyph) : Template × Binder :=
  let (symbols, after) := b.bindMarks (Marker.scan gs)
  (⟨symbols⟩, after)

def bindContent (b : Binder) (c : Content) : Template × Binder := b.bindGlyphs c.glyphs

def bind (b : Binder) (s : String) : Template × Binder := b.bindGlyphs (Glyph.ofText s)

/-- Binds several texts one after the other; each template comes with the binder after it. -/
def bindAll (b : Binder) : List String → List (Template × Binder)
  | [] => []
  | s :: rest => b.bind s :: bindAll (b.bind s).2 rest

end Binder

end NamedQuery
