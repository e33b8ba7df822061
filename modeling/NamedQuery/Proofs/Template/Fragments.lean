import Mathlib.Data.List.Chain
import NamedQuery.Proofs.Template.Binding

/-!
# Fragments bound one after the other

One binder serves all fragments of a statement.  With every fragment its order may get longer, at
the end only, so it is the names of all fragments, each where it came first; and a slot that was
made for an early fragment still leads to its name in the order at the end.
-/

namespace NamedQuery

namespace Binder

/-- Binds fragments one after the other; each template comes with the binder after it. -/
def bindEach (b : Binder) : List (List Glyph) → List (Template × Binder)
  | [] => []
  | gs :: rest => b.bindGlyphs gs :: (b.bindGlyphs gs).2.bindEach rest

theorem bindAll_eq_bindEach (b : Binder) (texts : List String) :
    b.bindAll texts = b.bindEach (texts.map Glyph.ofText) := by
  induction texts generalizing b with
  | nil => rfl
  | cons s rest ih => exact congrArg (b.bind s :: ·) (ih (b.bind s).2)

/-- The binder when all fragments are bound. -/
def afterEach (b : Binder) (fragments : List (List Glyph)) : Binder :=
  fragments.foldl (fun b gs => (b.bindGlyphs gs).2) b

theorem afterEach_cons (b : Binder) (gs : List Glyph) (rest : List (List Glyph)) :
    b.afterEach (gs :: rest) = (b.bindGlyphs gs).2.afterEach rest := rfl

theorem getLast?_bindEach (b : Binder) (fragments : List (List Glyph)) :
    (b.bindEach fragments).getLast?.elim b Prod.snd = b.afterEach fragments := by
  induction fragments generalizing b with
  | nil => rfl
  | cons gs rest ih =>
      rw [afterEach_cons, ← ih, bindEach, List.getLast?_cons]
      cases ((b.bindGlyphs gs).2.bindEach rest).getLast? with
      | none => rfl
      | some step => rfl

/-! ## What the order keeps -/

theorem order_prefix_afterEach (b : Binder) (fragments : List (List Glyph)) :
    b.order <+: (b.afterEach fragments).order := by
  induction fragments generalizing b with
  | nil => exact List.prefix_rfl
  | cons gs rest ih => exact (b.order_prefix_bindGlyphs gs).trans (ih _)

theorem isChain_orders (b : Binder) (fragments : List (List Glyph)) :
    (b.order :: (b.bindEach fragments).map fun step => step.2.order).IsChain (· <+: ·) := by
  induction fragments generalizing b with
  | nil => exact List.isChain_singleton b.order
  | cons gs rest ih => exact (ih _).cons_cons (b.order_prefix_bindGlyphs gs)

theorem nodup_orders {b : Binder} (hnodup : b.order.Nodup) (fragments : List (List Glyph)) :
    ∀ step ∈ b.bindEach fragments, step.2.order.Nodup := by
  induction fragments generalizing b with
  | nil => exact List.forall_mem_nil _
  | cons gs rest ih =>
      have hafter := nodup_order_bindGlyphs hnodup gs
      exact List.forall_mem_cons.mpr ⟨hafter, ih hafter⟩

theorem order_afterEach_eq_eraseDups {b : Binder} {seen : List String}
    (hseen : b.order = seen.eraseDups) (fragments : List (List Glyph)) :
    (b.afterEach fragments).order = (seen ++ fragments.flatMap Marker.names).eraseDups := by
  induction fragments generalizing b seen with
  | nil => simpa [afterEach] using hseen
  | cons gs rest ih =>
      rw [afterEach_cons, ih (order_bindGlyphs_eq_eraseDups hseen gs), List.flatMap_cons,
        List.append_assoc]

/-! ## What the slots keep -/

theorem names_bindEach (b : Binder) (fragments : List (List Glyph)) :
    ((b.bindEach fragments).map fun step => step.1.slots.map Slot.name) =
      fragments.map Marker.names := by
  induction fragments generalizing b with
  | nil => rfl
  | cons gs rest ih => rw [bindEach, List.map_cons, List.map_cons, names_bindGlyphs, ih]

/-- No later fragment takes away what a slot means. -/
theorem numbers_bindEach (b : Binder) (fragments : List (List Glyph)) :
    ∀ step ∈ b.bindEach fragments, (b.afterEach fragments).Numbers step.1 := by
  induction fragments generalizing b with
  | nil => exact List.forall_mem_nil _
  | cons gs rest ih =>
      have hfirst := (b.numbers_bindGlyphs gs).mono (order_prefix_afterEach _ rest)
      exact List.forall_mem_cons.mpr ⟨hfirst, ih _⟩

/-- Two slots that one binder numbers are the same if they have one name, or one position. -/
theorem Numbers.slot_eq_iff {b : Binder} {t u : Template} (ht : b.Numbers t) (hu : b.Numbers u)
    {s r : Slot} (hs : s ∈ t.slots) (hr : r ∈ u.slots) :
    (s = r ↔ s.name = r.name) ∧ (s = r ↔ s.position = r.position) := by
  have hname (hsame : s.name = r.name) : s = r := by
    rw [(ht s hs).2, (hu r hr).2, hsame]
  refine ⟨⟨congrArg Slot.name, hname⟩, ⟨congrArg Slot.position, fun hsame => hname ?_⟩⟩
  have hplace := (ht.getElem?_position hs).2.2
  rw [hsame, (hu.getElem?_position hr).2.2] at hplace
  exact (Option.some.inj hplace).symm

/-- Whatever fragments a new binder is given, one after the other: every order that it has on the
way begins with the one before and has no name twice, and the last one is the names of all markers
of all fragments in the order of the fragments, each where it came first.  Every template has one
slot for each marker of its fragment; all of these slots, those of early fragments included, lead by
their positions to their names in the last order, and of any two, in one template or in two, the
names are equal exactly if the positions are, and then the slots are the same. -/
theorem numbered_bindEach (fragments : List (List Glyph)) :
    let steps := empty.bindEach fragments
    let last := steps.getLast?.elim empty Prod.snd
    ([] :: steps.map fun step => step.2.order).IsChain (· <+: ·) ∧
      (∀ step ∈ steps, step.2.order.Nodup) ∧
      last.order = (fragments.flatMap Marker.names).eraseDups ∧
      (steps.map fun step => step.1.slots.map Slot.name) = fragments.map Marker.names ∧
      (∀ step ∈ steps, ∀ s ∈ step.1.slots,
        0 ≤ s.position ∧ last.order[s.position.toNat]? = some s.name) ∧
      (∀ step ∈ steps, ∀ other ∈ steps, ∀ s ∈ step.1.slots, ∀ r ∈ other.1.slots,
        (s = r ↔ s.name = r.name) ∧ (s = r ↔ s.position = r.position)) ∧
      ∀ texts : List String, empty.bindAll texts = empty.bindEach (texts.map Glyph.ofText) := by
  intro steps last
  have hlast : last = empty.afterEach fragments := getLast?_bindEach empty fragments
  have hnumbers : ∀ step ∈ steps, last.Numbers step.1 :=
    hlast ▸ numbers_bindEach empty fragments
  have hnone : empty.order = ([] : List String).eraseDups := List.eraseDups_nil.symm
  have horder : last.order = (fragments.flatMap Marker.names).eraseDups := by
    rw [hlast, order_afterEach_eq_eraseDups hnone, List.nil_append]
  refine ⟨isChain_orders empty fragments, nodup_orders List.nodup_nil fragments, horder,
    names_bindEach empty fragments, ?_, ?_, bindAll_eq_bindEach empty⟩
  · intro step hstep s hs
    obtain ⟨hnonneg, -, hplace⟩ := (hnumbers step hstep).getElem?_position hs
    exact ⟨hnonneg, hplace⟩
  · intro step hstep other hother s hs r hr
    exact (hnumbers step hstep).slot_eq_iff (hnumbers other hother) hs hr

/-- The last of three fragments has the marker of the first one again. -/
theorem numbered_bindEach_stars :
    let steps := empty.bindEach
      (["stars > :least AND cook = :cook", ":count", "cook, :least"].map Glyph.ofText)
    let last := steps.getLast?.elim empty Prod.snd
    ∃ first ∈ steps, ∃ third ∈ steps, ∃ s ∈ first.1.slots, ∃ r ∈ third.1.slots,
      s.name = "least" ∧ s = r ∧ last.order = ["least", "cook", "count"] ∧
        last.order[s.position.toNat]? = some "least" := by
  intro steps last
  obtain ⟨-, -, horder, -, hplaces, hsame, -⟩ := numbered_bindEach
    (["stars > :least AND cook = :cook", ":count", "cook, :least"].map Glyph.ofText)
  have hfirst : steps[0] ∈ steps := List.getElem_mem _
  have hthird : steps[2] ∈ steps := List.getElem_mem _
  have hs : (⟨"least", 0⟩ : Slot) ∈ steps[0].1.slots := by decide
  have hr : (⟨"least", 0⟩ : Slot) ∈ steps[2].1.slots := by decide
  refine ⟨steps[0], hfirst, steps[2], hthird, _, hs, _, hr, rfl, ?_, horder.trans (by decide), ?_⟩
  · exact (hsame _ hfirst _ hthird _ hs _ hr).1.mpr rfl
  · exact (hplaces _ hfirst _ hs).2

end Binder

end NamedQuery
