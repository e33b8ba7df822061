import NamedQuery.Text.Glyph

/-!
# Contents

An escape may write one half of a character.  A content is a text in which such halves may stand
alone: two of them behind each other show as one character and are still two.  A half is no letter,
no digit and no mark of any kind, so the whole characters between halves are read run by run.
-/

namespace NamedQuery

inductive Content where
  | text (s : String)
  /-- Code points, of which some are halves of characters. -/
  | broken (points : List Nat)
deriving DecidableEq, Repr, Hashable

namespace Content

def ofPoints (points : List Nat) : Content :=
  if points.any Text.isHalf then broken points else text (String.ofList (points.map Char.ofNat))

def points : Content → List Nat
  | text s => s.toList.map Char.toNat
  | broken points => points

/-- The characters, where two halves behind each other make one. -/
def toText : Content → String
  | text s => s
  | broken points => String.ofList (Text.joined points)

/-- Where characters are asked for, a content gives those that it shows as. -/
instance : Coe Content String := ⟨toText⟩

def glyphs : Content → List Glyph
  | text s => Glyph.ofText s
  | broken points => points.map Glyph.ofPoint

def ofGlyphs (gs : List Glyph) : Content :=
  if gs.any Glyph.isHalf then broken (gs.map Glyph.point)
  else text (String.ofList (gs.map Glyph.shape))

@[simp]
theorem glyphs_text (s : String) : (text s).glyphs = Glyph.ofText s := rfl

/-- A content holds the glyphs that it is made from, halves and all. -/
@[simp]
theorem glyphs_ofGlyphs (gs : List Glyph) : (ofGlyphs gs).glyphs = gs := by
  unfold ofGlyphs
  split
  · simp [glyphs, Glyph.ofPoint_point, Function.comp_def]
  · next hwhole =>
    have hshape : ∀ g ∈ gs, Glyph.char g.shape = g := by
      intro g hg
      cases g with
      | char c => rfl
      | half place => exact absurd (List.any_eq_true.mpr ⟨_, hg, rfl⟩) hwhole
    rw [glyphs, Glyph.ofText, String.toList_ofList, List.map_map]
    exact List.map_congr_left hshape |>.trans (List.map_id gs)

def quoted : Content → String
  | text s => Text.quoted s
  | broken points => Text.quotedPoints points

/-- The characters of code points, with the replacement character for every half. -/
def shape (points : List Nat) : List Char :=
  points.map fun n => if Text.isHalf n then '\uFFFD' else Char.ofNat n

/-- The runs of whole characters and the runs of halves, in order. -/
def runs (points : List Nat) : List (List Nat) :=
  points.splitBy fun m n => Text.isHalf m = Text.isHalf n

/-- Changes the whole characters, run by run. -/
def mapText (f : String → String) : Content → Content
  | text s => text (f s)
  | broken points =>
    let change (run : List Nat) : List Nat :=
      match ofPoints run with
      | text s => (f s).toList.map Char.toNat
      | broken halves => halves
    broken ((runs points).flatMap change)

end Content

end NamedQuery
