import Mathlib.Data.List.Basic
import NamedQuery.Proofs.Template.Scanning
import NamedQuery.Template.Binder

/-!
# What a binder remembers

A binder only ever adds names behind those it has, so a slot that it has made keeps its meaning.
The names of a text are met in the order in which its markers stand, which makes the order of a
binder the names of all its texts, each one where it came first.
-/

namespace NamedQuery

namespace Binder

/-! ## Names -/

theorem order_prefix_note (b : Binder) (name : String) : b.order <+: (b.note name).order := by
  unfold note
  split
  · exact List.prefix_rfl
  · exact List.prefix_append b.order [name]

theorem mem_order_note_self (b : Binder) (name : String) : name ∈ (b.note name).order :=
  (b.mem_order_note name name).mpr (Or.inr rfl)

theorem nodup_order_note {b : Binder} (hnodup : b.order.Nodup) (name : String) :
    (b.note name).order.Nodup := by
  unfold note
  split
  · exact hnodup
  · next hnew =>
    refine List.nodup_append.mpr ⟨hnodup, List.pairwise_singleton _ name, ?_⟩
    intro other hother last hlast heq
    obtain rfl : last = name := List.mem_singleton.mp hlast
    exact hnew (by simpa [heq] using hother)

/-- A name is remembered where it came first. -/
theorem order_note_eq_eraseDups {b : Binder} {seen : List String}
    (hseen : b.order = seen.eraseDups) (name : String) :
    (b.note name).order = (seen ++ [name]).eraseDups := by
  have hmem : name ∈ b.order ↔ name ∈ seen := by rw [hseen, List.mem_eraseDups]
  rw [List.eraseDups_append, ← hseen]
  by_cases hold : name ∈ seen
  · simp [note, hmem.mpr hold, hold, List.cons_removeAll]
  · have hnew : name ∉ b.order := fun hin => hold (hmem.mp hin)
    simp [note, hnew, hold, List.cons_removeAll, List.eraseDups_cons]

/-- A slot means the same to a binder that knows more names. -/
theorem slot_mono {b after : Binder} (hgrows : b.order <+: after.order) {name : String}
    (hname : name ∈ b.order) : after.slot name = b.slot name := by
  obtain ⟨later, hlater⟩ := hgrows
  rw [slot, slot, ← hlater, List.idxOf_append_of_mem hname]

/-! ## Marks -/

theorem bindMarks_append (b : Binder) (front back : List Marker.Mark) :
    b.bindMarks (front ++ back) =
      ((b.bindMarks front).1 ++ ((b.bindMarks front).2.bindMarks back).1,
        ((b.bindMarks front).2.bindMarks back).2) := by
  induction front generalizing b with
  | nil => rfl
  | cons mark rest ih =>
      cases mark with
      | glyph g => simp only [List.cons_append, bindMarks, ih]
      | name cs => simp only [List.cons_append, bindMarks, ih]

theorem order_prefix_bindMarks (b : Binder) (marks : List Marker.Mark) :
    b.order <+: (b.bindMarks marks).2.order := by
  induction marks generalizing b with
  | nil => exact List.prefix_rfl
  | cons mark rest ih =>
      cases mark with
      | glyph g => exact ih b
      | name cs => exact (b.order_prefix_note _).trans (ih _)

theorem nodup_order_bindMarks {b : Binder} (hnodup : b.order.Nodup) (marks : List Marker.Mark) :
    (b.bindMarks marks).2.order.Nodup := by
  induction marks generalizing b with
  | nil => exact hnodup
  | cons mark rest ih =>
      cases mark with
      | glyph g => exact ih hnodup
      | name cs => exact ih (nodup_order_note hnodup _)

theorem order_bindMarks_eq_eraseDups {b : Binder} {seen : List String}
    (hseen : b.order = seen.eraseDups) (marks : List Marker.Mark) :
    (b.bindMarks marks).2.order = (seen ++ marks.filterMap Marker.Mark.name?).eraseDups := by
  induction marks generalizing b seen with
  | nil => simpa [bindMarks] using hseen
  | cons mark rest ih =>
      cases mark with
      | glyph g => exact ih hseen
      | name cs =>
          have hnoted := order_note_eq_eraseDups hseen (String.ofList cs)
          simpa [bindMarks, Marker.Mark.name?] using ih hnoted

theorem glyphs_bindMarks (b : Binder) (marks : List Marker.Mark) :
    (b.bindMarks marks).1.flatMap Symbol.shown = marks.flatMap Marker.Mark.source := by
  induction marks generalizing b with
  | nil => rfl
  | cons mark rest ih =>
      cases mark with
      | glyph g => simp [bindMarks, Symbol.shown, Marker.Mark.source, ih]
      | name cs => simp [bindMarks, Symbol.shown, Slot.marker, slot, Marker.Mark.source, ih]

theorem names_bindMarks (b : Binder) (marks : List Marker.Mark) :
    ((b.bindMarks marks).1.filterMap Symbol.slot?).map Slot.name =
      marks.filterMap Marker.Mark.name? := by
  induction marks generalizing b with
  | nil => rfl
  | cons mark rest ih =>
      cases mark with
      | glyph g => simp [bindMarks, List.filterMap_cons, Symbol.slot?, Marker.Mark.name?, ih]
      | name cs => simp [bindMarks, Symbol.slot?, slot, Marker.Mark.name?, ih]

/-! ## Slots of templates -/

/-- Every slot of the template is the one that the binder has for its name. -/
def Numbers (b : Binder) (t : Template) : Prop :=
  ∀ s ∈ t.slots, s.name ∈ b.order ∧ s = b.slot s.name

theorem numbers_ofGlyphs (b : Binder) (gs : List Glyph) : b.Numbers (Template.ofGlyphs gs) := by
  intro s hs
  rw [Template.slots_ofGlyphs] at hs
  cases hs

theorem Numbers.of_perm {b : Binder} {t u : Template} (hnumbers : b.Numbers t)
    (hperm : u.slots.Perm t.slots) : b.Numbers u := by
  intro s hs
  exact hnumbers s (hperm.mem_iff.mp hs)

theorem numbers_append {b : Binder} {t u : Template} :
    b.Numbers (t ++ u) ↔ b.Numbers t ∧ b.Numbers u := by
  simp only [Numbers, Template.slots_append, List.forall_mem_append]

/-- A template stays numbered while further names are met. -/
theorem Numbers.mono {b after : Binder} {t : Template} (hnumbers : b.Numbers t)
    (hgrows : b.order <+: after.order) : after.Numbers t := by
  intro s hs
  obtain ⟨hname, hslot⟩ := hnumbers s hs
  exact ⟨hgrows.subset hname, hslot.trans (slot_mono hgrows hname).symm⟩

/-- The position of a slot is the place of its name in the order. -/
theorem Numbers.getElem?_position {b : Binder} {t : Template} (hnumbers : b.Numbers t) {s : Slot}
    (hs : s ∈ t.slots) :
    0 ≤ s.position ∧ s.position < b.order.length ∧
      b.order[s.position.toNat]? = some s.name := by
  obtain ⟨hname, hslot⟩ := hnumbers s hs
  have hposition : s.position = (b.order.idxOf s.name : Int) := congrArg Slot.position hslot
  have hlt : b.order.idxOf s.name < b.order.length := List.idxOf_lt_length_iff.mpr hname
  rw [hposition, Int.toNat_natCast]
  exact ⟨Int.natCast_nonneg _, Int.ofNat_lt.mpr hlt, List.getElem?_idxOf hname⟩

theorem numbers_bindMarks (b : Binder) (marks : List Marker.Mark) :
    (b.bindMarks marks).2.Numbers ⟨(b.bindMarks marks).1⟩ := by
  induction marks generalizing b with
  | nil =>
      intro s hs
      cases hs
  | cons mark rest ih =>
      cases mark with
      | glyph g =>
          intro s hs
          exact ih b s (by simpa [Template.slots, bindMarks, Symbol.slot?] using hs)
      | name cs =>
          have hgrows := (b.note (String.ofList cs)).order_prefix_bindMarks rest
          have hname := b.mem_order_note_self (String.ofList cs)
          intro s hs
          have hcases : s = (b.note (String.ofList cs)).slot (String.ofList cs) ∨
              s ∈ Template.slots ⟨((b.note (String.ofList cs)).bindMarks rest).1⟩ := by
            simpa [Template.slots, bindMarks, Symbol.slot?] using hs
          rcases hcases with rfl | hrest
          · exact ⟨hgrows.subset hname, (slot_mono hgrows hname).symm⟩
          · exact ih _ s hrest

/-! ## Texts -/

/-- No glyph of a text is lost. -/
@[simp]
theorem glyphs_bindGlyphs (b : Binder) (gs : List Glyph) : (b.bindGlyphs gs).1.glyphs = gs :=
  (b.glyphs_bindMarks (Marker.scan gs)).trans (Marker.source_scan gs)

theorem names_bindGlyphs (b : Binder) (gs : List Glyph) :
    (b.bindGlyphs gs).1.slots.map Slot.name = Marker.names gs :=
  b.names_bindMarks (Marker.scan gs)

theorem order_prefix_bindGlyphs (b : Binder) (gs : List Glyph) :
    b.order <+: (b.bindGlyphs gs).2.order :=
  b.order_prefix_bindMarks (Marker.scan gs)

theorem nodup_order_bindGlyphs {b : Binder} (hnodup : b.order.Nodup) (gs : List Glyph) :
    (b.bindGlyphs gs).2.order.Nodup :=
  nodup_order_bindMarks hnodup (Marker.scan gs)

theorem numbers_bindGlyphs (b : Binder) (gs : List Glyph) :
    (b.bindGlyphs gs).2.Numbers (b.bindGlyphs gs).1 :=
  b.numbers_bindMarks (Marker.scan gs)

theorem order_bindGlyphs_eq_eraseDups {b : Binder} {seen : List String}
    (hseen : b.order = seen.eraseDups) (gs : List Glyph) :
    (b.bindGlyphs gs).2.order = (seen ++ Marker.names gs).eraseDups :=
  order_bindMarks_eq_eraseDups hseen (Marker.scan gs)

end Binder

end NamedQuery
