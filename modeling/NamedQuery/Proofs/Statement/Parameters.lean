import NamedQuery.Proofs.Statement.Paging

/-!
# Parameters of statements

The order of a binder spans all texts of a statement, in the order in which they are bound.  What
one text adds to it and what two texts add behind each other is said once, by `Binds`; the
parameters of a whole statement follow from its stretches.
-/

namespace NamedQuery

/-- The names of the markers in a stretch. -/
def Stretch.names (s : Stretch) : List String := if s.scanned then Marker.names s.body else []

/-- The names of all markers, one for each occurrence, in the order in which they are bound. -/
def Layout.names (l : Layout) : List String :=
  l.stretches.flatMap Stretch.names ++ l.limit.elim [] Marker.names ++
    l.offset.elim [] Marker.names

namespace Layout

theorem names_optional (lead : String) (scanned : Bool) (clause : Option (List Glyph)) :
    (optional lead scanned clause).flatMap Stretch.names =
      if scanned then clause.elim [] Marker.names else [] := by
  cases clause with
  | none => simp [optional]
  | some gs => simp [optional, Stretch.names]

theorem names_whereStretches (l : Layout) :
    l.whereStretches.flatMap Stretch.names = l.conditions.elim [] Marker.names := by
  unfold whereStretches
  cases l.conditions with
  | none =>
      cases l.restriction with
      | none => rfl
      | some r => rfl
  | some c =>
      cases l.restriction with
      | none => simp [Stretch.names]
      | some r => simp [Stretch.names]

/-- Five texts of a statement are scanned, and no others. -/
theorem names_eq (l : Layout) :
    l.names = [l.conditions, l.group, l.order, l.limit, l.offset].flatMap fun text =>
      text.elim [] Marker.names := by
  simp [names, stretches, laterStretches, names_optional, names_whereStretches, Stretch.names]

end Layout

namespace Binder

/-- The binder has made the template from texts whose markers have these names, and is `after`
then. -/
structure Binds (b : Binder) (names : List String) (t : Template) (after : Binder) : Prop where
  grows : b.order <+: after.order
  nodup : b.order.Nodup → after.order.Nodup
  order : ∀ seen, b.order = seen.eraseDups → after.order = (seen ++ names).eraseDups
  slots : t.slots.map Slot.name = names
  numbers : after.Numbers t

theorem Binds.append {b middle after : Binder} {front back : List String} {t u : Template}
    (hfront : b.Binds front t middle) (hback : middle.Binds back u after) :
    b.Binds (front ++ back) (t ++ u) after where
  grows := hfront.grows.trans hback.grows
  nodup hnodup := hback.nodup (hfront.nodup hnodup)
  order seen hseen := by
    rw [hback.order (seen ++ front) (hfront.order seen hseen), List.append_assoc]
  slots := by rw [Template.slots_append, List.map_append, hfront.slots, hback.slots]
  numbers := numbers_append.mpr ⟨hfront.numbers.mono hback.grows, hback.numbers⟩

/-- A text without slots adds nothing. -/
theorem binds_ofGlyphs (b : Binder) (gs : List Glyph) : b.Binds [] (Template.ofGlyphs gs) b where
  grows := List.prefix_rfl
  nodup := id
  order seen hseen := by rwa [List.append_nil]
  slots := by rw [Template.slots_ofGlyphs, List.map_nil]
  numbers := b.numbers_ofGlyphs gs

theorem binds_bindGlyphs (b : Binder) (gs : List Glyph) :
    b.Binds (Marker.names gs) (b.bindGlyphs gs).1 (b.bindGlyphs gs).2 where
  grows := b.order_prefix_bindGlyphs gs
  nodup hnodup := nodup_order_bindGlyphs hnodup gs
  order _ hseen := order_bindGlyphs_eq_eraseDups hseen gs
  slots := b.names_bindGlyphs gs
  numbers := b.numbers_bindGlyphs gs

theorem binds_bindStretch (b : Binder) (s : Stretch) :
    b.Binds s.names (b.bindStretch s).1 (b.bindStretch s).2 := by
  unfold Stretch.names bindStretch
  cases s.scanned with
  | true => exact b.binds_bindGlyphs s.body
  | false => exact b.binds_ofGlyphs s.body

theorem binds_bindStretches (b : Binder) (ss : List Stretch) :
    b.Binds (ss.flatMap Stretch.names) (b.bindStretches ss).1 (b.bindStretches ss).2 := by
  induction ss generalizing b with
  | nil => exact b.binds_ofGlyphs []
  | cons s rest ih =>
      have hlead : b.Binds [] (Template.literal s.lead) b := b.binds_ofGlyphs _
      exact (hlead.append (b.binds_bindStretch s)).append (ih _)

theorem binds_bindOptional (b : Binder) (bound : Option (List Glyph)) :
    b.Binds (bound.elim [] Marker.names) ((b.bindOptional bound).1.getD .empty)
      (b.bindOptional bound).2 := by
  cases bound with
  | none => exact b.binds_ofGlyphs []
  | some gs => exact b.binds_bindGlyphs gs

end Binder

namespace Layout

/-- The slots of a statement are those of its texts, which the binder has made one after the
other. -/
theorem binds_statement (l : Layout) {backend : Backend} {p : Paging}
    (hpaging : backend.paginate = p.apply) (b : Binder) :
    ∃ t : Template, b.Binds l.names t (l.statement backend b).2 ∧
      (l.statement backend b).1.slots.Perm t.slots ∧
        (p.keepsOrder = true → (l.statement backend b).1.slots = t.slots) := by
  have hbody := b.binds_bindStretches l.stretches
  have hlimit := (b.bindStretches l.stretches).2.binds_bindOptional l.limit
  have hoffset :=
    ((b.bindStretches l.stretches).2.bindOptional l.limit).2.binds_bindOptional l.offset
  refine ⟨_, (hbody.append hlimit).append hoffset, ?_⟩
  cases hbounded : l.isBounded with
  | true =>
      rw [statement_of_bounded hbounded hpaging b]
      exact ⟨p.perm_slots_apply _ _ _, fun hkeeps => Paging.slots_apply hkeeps _ _ _⟩
  | false =>
      obtain ⟨hnolimit, hnooffset⟩ := isBounded_eq_false.mp hbounded
      rw [statement_of_unbounded hbounded backend b, hnolimit, hnooffset]
      simp [Binder.bindOptional, Template.append_empty]

end Layout

end NamedQuery
