import NamedQuery.Proofs.Template.Binding

/-!
# Texts that come back

A template shows the text that it was bound from.  Bound once more by the same binder, or by one
that has met further names since, this text gives the same template again, and the binder has
nothing to learn from it.  The text also comes back where every slot is filled with its own marker.
-/

namespace NamedQuery

/-! ## Texts without halves -/

namespace Text

theorem isHalf_toNat (c : Char) : isHalf c.toNat = false := by
  have hvalid := c.valid
  simp only [UInt32.isValidChar, Nat.isValidChar] at hvalid
  simp only [isHalf, Bool.and_eq_false_iff, decide_eq_false_iff_not]
  change ¬0xD800 ≤ c.val.toNat ∨ ¬c.val.toNat ≤ 0xDFFF
  omega

theorem joined_map_toNat (cs : List Char) : joined (cs.map Char.toNat) = cs := by
  induction cs with
  | nil => rfl
  | cons c rest ih =>
      cases rest with
      | nil => simp [joined, isHalf_toNat]
      | cons d tail =>
          rw [List.map_cons, List.map_cons, joined, isHalf_toNat, ← List.map_cons, ih]
          simp

end Text

theorem Glyph.toText_ofText (s : String) : toText (ofText s) = s := by
  have hpoints : (ofText s).map point = s.toList.map Char.toNat := by
    rw [ofText, List.map_map]
    rfl
  rw [toText, hpoints, Text.joined_map_toNat, String.ofList_toList]

theorem Content.ofGlyphs_ofText (s : String) : ofGlyphs (Glyph.ofText s) = text s := by
  have hwhole : (Glyph.ofText s).any Glyph.isHalf = false := by
    simp [Glyph.ofText, Glyph.isHalf]
  have hshape : (Glyph.ofText s).map Glyph.shape = s.toList := by
    simp [Glyph.ofText, Glyph.shape, Function.comp_def]
  rw [ofGlyphs, hwhole, if_neg Bool.false_ne_true, hshape, String.ofList_toList]

/-! ## Markers in the places of slots -/

namespace Template

/-- The marker of a slot, as the text that stands in its place. -/
def markerText (s : Slot) : Id String := String.ofList s.marker

theorem renderSymbols_markerText (symbols : List Symbol) :
    renderSymbols markerText symbols = symbols.flatMap Symbol.shown := by
  induction symbols with
  | nil => rfl
  | cons symbol rest ih =>
      cases symbol with
      | glyph g => exact congrArg (g :: ·) ih
      | slot s =>
          have hmarker : Glyph.ofText (String.ofList s.marker) = s.marker.map .char := by
            rw [Glyph.ofText, String.toList_ofList]
          rw [List.flatMap_cons, ← ih, Symbol.shown, ← hmarker]
          rfl

theorem render_markerText (t : Template) : t.render markerText = Glyph.toText t.glyphs := by
  rw [glyphs, ← renderSymbols_markerText]
  rfl

end Template

/-! ## Binding again -/

namespace Binder

theorem note_of_mem {b : Binder} {name : String} (hname : name ∈ b.order) : b.note name = b := by
  rw [note, if_pos (by simpa using hname)]

/-- To a binder that knows all names of a text, the text holds nothing new. -/
theorem bindMarks_of_prefix {b later : Binder} {marks : List Marker.Mark}
    (hgrows : (b.bindMarks marks).2.order <+: later.order) :
    later.bindMarks marks = ((b.bindMarks marks).1, later) := by
  induction marks generalizing b with
  | nil => rfl
  | cons mark rest ih =>
      cases mark with
      | glyph g => rw [bindMarks, ih hgrows, bindMarks]
      | name cs =>
          have hnoted : (b.note (String.ofList cs)).order <+: later.order :=
            ((b.note _).order_prefix_bindMarks rest).trans hgrows
          have hname := b.mem_order_note_self (String.ofList cs)
          rw [bindMarks, note_of_mem (hnoted.subset hname), ih hgrows, slot_mono hnoted hname,
            bindMarks]

theorem bindGlyphs_of_prefix {b later : Binder} {gs : List Glyph}
    (hgrows : (b.bindGlyphs gs).2.order <+: later.order) :
    later.bindGlyphs gs = ((b.bindGlyphs gs).1, later) := by
  rw [bindGlyphs, bindMarks_of_prefix hgrows, bindGlyphs]

/-- Whatever names a binder has met, a text that it binds is shown by the template, glyph by glyph.
Bound again by the same binder, what is shown gives the same template and leaves the order of the
parameters as it is; and with its marker in the place of every slot the template is rendered as the
text.  For texts of whole characters this holds of what is shown and rendered as a string. -/
theorem bind_restores (b : Binder) :
    (∀ gs : List Glyph,
      let t := (b.bindGlyphs gs).1
      let after := (b.bindGlyphs gs).2
      t.glyphs = gs ∧ after.bindGlyphs t.glyphs = (t, after) ∧
        Template.renderSymbols Template.markerText t.symbols = gs) ∧
    ∀ s : String,
      let t := (b.bind s).1
      let after := (b.bind s).2
      t.text = s ∧ after.bind t.text = (t, after) ∧ t.render Template.markerText = s := by
  have hglyphs (gs : List Glyph) : (b.bindGlyphs gs).1.glyphs = gs := b.glyphs_bindGlyphs gs
  have hagain (gs : List Glyph) : (b.bindGlyphs gs).2.bindGlyphs gs = b.bindGlyphs gs :=
    bindGlyphs_of_prefix List.prefix_rfl
  constructor
  · intro gs t after
    refine ⟨hglyphs gs, (congrArg after.bindGlyphs (hglyphs gs)).trans (hagain gs), ?_⟩
    exact (Template.renderSymbols_markerText t.symbols).trans (hglyphs gs)
  · intro s t after
    have hshown : t.glyphs = Glyph.ofText s := hglyphs (Glyph.ofText s)
    have htext : t.text = s := by
      rw [Template.text, Template.content, hshown, Content.ofGlyphs_ofText]
      rfl
    refine ⟨htext, (congrArg after.bind htext).trans (hagain _), ?_⟩
    rw [Template.render_markerText, hshown, Glyph.toText_ofText]

end Binder

end NamedQuery
