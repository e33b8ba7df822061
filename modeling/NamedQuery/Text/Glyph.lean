import NamedQuery.Text.Quoted

/-!
# Glyphs

What a text is made of: characters, and halves of characters that stand alone.  Two halves behind
each other show as one character and are still two glyphs.
-/

namespace NamedQuery

inductive Glyph where
  | char (c : Char)
  /-- Half of a character, by its place among the halves. -/
  | half (place : Fin 0x800)
deriving DecidableEq, Repr

namespace Glyph

def point : Glyph → Nat
  | char c => c.toNat
  | half place => 0xD800 + place

instance : Hashable Glyph := ⟨fun g => hash g.point⟩

def ofPoint (n : Nat) : Glyph :=
  if h : 0xD800 ≤ n ∧ n ≤ 0xDFFF then half ⟨n - 0xD800, by omega⟩ else char (Char.ofNat n)

def isHalf : Glyph → Bool
  | char _ => false
  | half _ => true

/-- The character of a glyph, with the replacement character for a half. -/
def shape : Glyph → Char
  | char c => c
  | half _ => '\uFFFD'

def ofText (s : String) : List Glyph := s.toList.map char

/-- The characters that glyphs show as. -/
def toText (gs : List Glyph) : String := String.ofList (Text.joined (gs.map point))

@[simp]
theorem ofText_append (s t : String) : ofText (s ++ t) = ofText s ++ ofText t := by
  simp [ofText]

/-- No character has the code point of a half. -/
theorem ofPoint_point (g : Glyph) : ofPoint g.point = g := by
  cases g with
  | char c =>
    have hvalid := c.valid
    have hout : ¬(0xD800 ≤ c.toNat ∧ c.toNat ≤ 0xDFFF) := by
      simp only [UInt32.isValidChar, Nat.isValidChar] at hvalid
      change ¬(0xD800 ≤ c.val.toNat ∧ c.val.toNat ≤ 0xDFFF)
      omega
    rw [ofPoint, point, dif_neg hout, Char.ofNat_toNat]
  | half place =>
    have hin : 0xD800 ≤ 0xD800 + place.val ∧ 0xD800 + place.val ≤ 0xDFFF := by omega
    rw [ofPoint, point, dif_pos hin]
    exact congrArg half (Fin.ext (Nat.add_sub_cancel_left 0xD800 place.val))

end Glyph

end NamedQuery
