import NamedQuery.Proofs.Model.Attributes

/-!
# Moves of models

Whatever happens to models is one of three things: a class is created, a backend is changed, or a
finder is attached where this is allowed.  A run is a list of such moves, and what it has attached
is the list of its finders, each behind the class that has got it.
-/

namespace NamedQuery.Models

/-- Finders with the ids of the classes that they were attached to, the earliest first. -/
abbrev Made := List (Nat × Finder)

inductive Move : Models → Made → Models → Prop where
  | add (ms : Models) (plan : ModelPlan) : Move ms [] (ms.add plan).2
  | change {ms : Models} {m : Model} (hm : ms.get? m.id = some m) (backend : Option FixedBackend) :
      Move ms [] (ms.replace { m with backend })
  | attach {ms : Models} {m : Model} {f : Finder} (hm : ms.get? m.id = some m)
      (hfree : isFree (ms.attribute? m f.name) = true)
      (hname : Spec.isFinderName f.name = true) : Move ms [(m.id, f)] (ms.replace (m.attach f))

/-- Moves one after the other. -/
inductive Moves : Models → Made → Models → Prop where
  | refl (ms : Models) : Moves ms [] ms
  | step {ms middle last : Models} {made later : Made} (hmove : Move ms made middle)
      (hmoves : Moves middle later last) : Moves ms (made ++ later) last

variable {ms ms' last : Models} {made later : Made} {m : Model}

theorem Move.moves (hmove : Move ms made ms') : Moves ms made ms' :=
  List.append_nil made ▸ .step hmove (.refl ms')

theorem Moves.trans (hfirst : Moves ms made ms') (hthen : Moves ms' later last) :
    Moves ms (made ++ later) last := by
  induction hfirst with
  | refl ms => exact hthen
  | step hmove hmoves ih =>
      rw [List.append_assoc]
      exact .step hmove (ih hthen)

theorem alike_change (m : Model) (backend : Option FixedBackend) :
    m.Alike { m with backend } :=
  ⟨rfl, rfl, rfl, rfl, rfl, rfl⟩

theorem Move.wellFormed (hmove : Move ms made ms') (h : ms.WellFormed) : ms'.WellFormed := by
  cases hmove with
  | add plan => exact h.add plan
  | change hm backend => exact h.replace hm (alike_change _ backend)
  | attach hm => exact h.replace hm (Model.alike_attach _ _)

theorem Moves.wellFormed (hmoves : Moves ms made ms') (h : ms.WellFormed) : ms'.WellFormed := by
  induction hmoves with
  | refl ms => exact h
  | step hmove hmoves ih => exact ih (hmove.wellFormed h)

/-! ## Attributes that stay -/

/-- A class takes part in prefetching exactly if the classes that it extends do.  To begin with it
further below takes a second class to extend. -/
def Unmixed (ms : Models) (m : Model) : Prop := ∀ c ∈ ms.chain m, c.prefetches = m.prefetches

theorem WellFormed.unmixed_replace (h : ms.WellFormed) {m' c : Model}
    (hm : ms.get? m.id = some m) (halike : m.Alike m') (hc : ms.get? c.id = some c)
    (hunmixed : ms.Unmixed c) : (ms.replace m').Unmixed (swapped m' c) := by
  intro d' hd'
  rw [h.chain_replace hm halike hc, List.mem_map] at hd'
  obtain ⟨d, hd, rfl⟩ := hd'
  rw [(alike_swapped hm halike hc).prefetches,
    (alike_swapped hm halike (h.get?_of_mem_chain hc hd)).prefetches]
  exact hunmixed d hd

/-- No move changes an attribute that a finder cannot take the place of. -/
theorem Move.exists_attribute?_eq (hmove : Move ms made ms') (h : ms.WellFormed) {c : Model}
    (hc : ms.get? c.id = some c) (hunmixed : ms.Unmixed c) :
    ∃ c', ms'.get? c.id = some c' ∧ ms'.Unmixed c' ∧
      ∀ name, isFree (ms.attribute? c name) = false →
        ms'.attribute? c' name = ms.attribute? c name := by
  cases hmove with
  | add plan =>
      have hgrows := h.grows_add plan
      refine ⟨c, hgrows.get? hc, ?_, fun name _ => h.attribute?_of_grows hgrows hc name⟩
      rw [Unmixed, h.chain_of_grows hgrows hc]
      exact hunmixed
  | @change m hm backend =>
      have halike := alike_change m backend
      refine ⟨swapped _ c, by rw [h.get?_swapped hm halike, hc, Option.map_some],
        h.unmixed_replace hm halike hc hunmixed, fun name _ => ?_⟩
      exact h.attribute?_replace_of_own hm halike hc rfl
  | @attach m f hm hfree hname =>
      have halike := m.alike_attach f
      refine ⟨swapped _ c, by rw [h.get?_swapped hm halike, hc, Option.map_some],
        h.unmixed_replace hm halike hc hunmixed, fun name hkept => ?_⟩
      exact h.attribute?_attach hm hfree hname hc hunmixed hkept

theorem Moves.exists_attribute?_eq (hmoves : Moves ms made ms') (h : ms.WellFormed) {c : Model}
    (hc : ms.get? c.id = some c) (hunmixed : ms.Unmixed c) :
    ∃ c', ms'.get? c.id = some c' ∧
      ∀ name, isFree (ms.attribute? c name) = false →
        ms'.attribute? c' name = ms.attribute? c name := by
  induction hmoves generalizing c with
  | refl ms => exact ⟨c, hc, fun _ _ => rfl⟩
  | step hmove hmoves ih =>
      obtain ⟨between, hbetween, hstill, hfirst⟩ := hmove.exists_attribute?_eq h hc hunmixed
      have hsound := hmove.wellFormed h
      have hid := hsound.id hbetween
      obtain ⟨c', hc', hthen⟩ := ih hsound (hid ▸ hbetween) hstill
      refine ⟨c', hid ▸ hc', fun name hkept => ?_⟩
      rw [hthen name (hfirst name hkept ▸ hkept), hfirst name hkept]

end NamedQuery.Models
