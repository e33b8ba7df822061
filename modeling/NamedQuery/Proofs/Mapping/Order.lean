import NamedQuery.Proofs.Mapping.Growth

/-!
# The order of classes

A catalog comes about by placing one class after the other.  So a class stands behind the one that
it extends, each one at the place of its id, and whoever goes up from a class comes to an end.
-/

namespace NamedQuery.Catalog

variable {a b catalog : Catalog}

/-- Catalogs that come about by placing classes, some of which may fail. -/
inductive Arises : Catalog → Prop where
  | empty : Arises empty
  | place {catalog : Catalog} (h : Arises catalog) (plan : MappingPlan) (name : String)
      (parent : Option Nat) : Arises (catalog.place plan name parent).2

theorem Arises.wellFormed (h : catalog.Arises) : catalog.WellFormed := by
  induction h with
  | empty => exact wellFormed_empty
  | place _ plan name parent ih => exact ih.place plan name parent

/-- Every class is at the place of its id, and its parent has a smaller one. -/
structure Ordered (catalog : Catalog) : Prop where
  id_eq : ∀ {place m}, catalog.find? place = some m → m.id = place
  parent_lt : ∀ m ∈ catalog.classes, ∀ p ∈ m.lineage.parent?, p < m.id

namespace Ordered

theorem find?_id (h : Ordered catalog) {m : MappedClass} (hm : m ∈ catalog.classes) :
    catalog.find? m.id = some m := by
  obtain ⟨place, hplace⟩ := List.mem_iff_getElem?.mp hm
  have hid : m.id = place := h.id_eq hplace
  exact hid ▸ hplace

theorem id_lt (h : Ordered catalog) {m : MappedClass} (hm : m ∈ catalog.classes) :
    m.id < catalog.classes.length :=
  (List.getElem?_eq_some_iff.mp (h.find?_id hm)).1

theorem eq_of_id (h : Ordered catalog) {m m' : MappedClass} (hm : m ∈ catalog.classes)
    (hm' : m' ∈ catalog.classes) (hid : m.id = m'.id) : m = m' := by
  have hfound := h.find?_id hm
  rw [hid, h.find?_id hm'] at hfound
  exact (Option.some.inj hfound).symm

theorem nodup_ids (h : Ordered catalog) : (catalog.classes.map MappedClass.id).Nodup := by
  have hids : catalog.classes.map MappedClass.id = List.range catalog.classes.length := by
    apply List.ext_getElem (by simp)
    intro place hplace _
    have hplace' : place < catalog.classes.length := by simpa using hplace
    simpa using h.id_eq (List.getElem?_eq_getElem hplace')
  exact hids ▸ List.nodup_range

/-- What holds of a class if it holds of the one that it extends holds of all classes. -/
theorem induction (h : Ordered catalog) {P : MappedClass → Prop}
    (hstep : ∀ m ∈ catalog.classes,
      (∀ p ∈ catalog.classes, m.lineage.parent? = some p.id → P p) → P m) :
    ∀ m ∈ catalog.classes, P m := by
  have hbelow (bound : Nat) : ∀ m ∈ catalog.classes, m.id < bound → P m := by
    induction bound with
    | zero => exact fun m _ hlt => absurd hlt (Nat.not_lt_zero _)
    | succ bound ih =>
        intro m hm hlt
        refine hstep m hm fun p hp hparent => ih p hp ?_
        exact Nat.lt_of_lt_of_le (h.parent_lt m hm p.id hparent) (Nat.le_of_lt_succ hlt)
  exact fun m hm => hbelow _ m hm (Nat.lt_succ_self _)

theorem of_classes (h : Ordered a) (hclasses : b.classes = a.classes) : Ordered b where
  id_eq := by
    intro place m hm
    rw [find?, hclasses] at hm
    exact h.id_eq hm
  parent_lt := hclasses ▸ h.parent_lt

/-- A further class gets the next id, and any class that it extends is there. -/
theorem add (h : Ordered a) {m : MappedClass} (hclasses : b.classes = a.classes ++ [m])
    (hid : m.id = a.classes.length)
    (hparent : ∀ p ∈ m.lineage.parent?, p < a.classes.length) : Ordered b where
  id_eq := by
    intro place other hother
    rw [find?, hclasses, List.getElem?_append] at hother
    split at hother
    · exact h.id_eq hother
    · next hplace =>
      obtain ⟨hzero, rfl⟩ := List.getElem?_eq_some_iff.mp hother
      have hlast : place - a.classes.length = 0 := by simpa using hzero
      simp only [hlast, List.getElem_cons_zero, hid]
      omega
  parent_lt := by
    intro other hother p hp
    rw [hclasses, List.mem_append, List.mem_singleton] at hother
    rcases hother with hold | rfl
    · exact h.parent_lt other hold p hp
    · exact hid ▸ hparent p hp

end Ordered

theorem ordered_empty : Ordered empty := ⟨nofun, nofun⟩

/-- A class has its seat below a class that is there. -/
theorem Ordered.parent_lt_of_seat (h : Ordered catalog) {parent : Option MappedClass}
    (hparent : ∀ p ∈ parent, p ∈ catalog.classes) {number : Nat} {lineage : Lineage}
    (hseat : Placing.Seat catalog.tables parent number lineage) :
    ∀ p ∈ lineage.parent?, p < catalog.classes.length := by
  intro p hp
  cases hseat with
  | root => cases hp
  | joined habove => exact Option.some.inj hp ▸ h.id_lt (hparent _ habove)
  | concrete habove => exact Option.some.inj hp ▸ h.id_lt (hparent _ habove)
  | sharing habove => exact Option.some.inj hp ▸ h.id_lt (hparent _ habove)

theorem Ordered.place (hordered : Ordered catalog) (hsound : catalog.WellFormed)
    (plan : MappingPlan) (name : String) (parent : Option Nat) :
    Ordered (catalog.place plan name parent).2 := by
  have hparent := catalog.mem_classes_of_find? parent
  rcases Placing.cases_of_place catalog plan name parent with
    ⟨hprepares, -⟩ | ⟨tables, bare, m, hbare, hm, hlater, -⟩
  · exact hordered.of_classes hprepares.classes
  · have hsame := (hbare.completes hsound hparent hm).same
    rw [hlater]
    refine hordered.add rfl ?_ ?_
    · rw [hsame]
      exact hbare.id
    · rw [hsame]
      exact hordered.parent_lt_of_seat hparent hbare.seat

theorem Arises.ordered (h : catalog.Arises) : catalog.Ordered := by
  induction h with
  | empty => exact ordered_empty
  | place harises plan name parent ih => exact ih.place harises.wellFormed plan name parent

/-! ## Levels -/

/-- The class `x` lies so many levels below the class `m`. -/
inductive Below (catalog : Catalog) (m : MappedClass) : Nat → MappedClass → Prop where
  | self : Below catalog m 0 m
  | child {level : Nat} {p x : MappedClass} (hp : Below catalog m level p)
      (hx : x ∈ catalog.children p.id) : Below catalog m (level + 1) x

theorem mem_children {id : Nat} {x : MappedClass} :
    x ∈ catalog.children id ↔ x ∈ catalog.classes ∧ x.lineage.parent? = some id := by
  rw [children, List.mem_filter, decide_eq_true_eq]

variable {m x y : MappedClass} {level : Nat}

theorem Below.mem (h : catalog.Below m level x) (hm : m ∈ catalog.classes) :
    x ∈ catalog.classes := by
  cases h with
  | self => exact hm
  | child _ hx => exact (mem_children.mp hx).1

theorem Below.id_le (hordered : Ordered catalog) (h : catalog.Below m level x) :
    m.id + level ≤ x.id := by
  induction h with
  | self => exact Nat.le_refl _
  | child _ hx ih =>
      obtain ⟨hmem, hparent⟩ := mem_children.mp hx
      exact Nat.lt_of_le_of_lt ih (hordered.parent_lt _ hmem _ hparent)

/-- A class is on one level only. -/
theorem Below.level_eq (hordered : Ordered catalog) (hm : m ∈ catalog.classes) {other : Nat}
    (h : catalog.Below m level x) (hother : catalog.Below m other x) : level = other := by
  induction h generalizing other with
  | self =>
      have hle := hother.id_le hordered
      omega
  | @child level p x hp hx ih =>
      obtain ⟨hmem, hparent⟩ := mem_children.mp hx
      cases hother with
      | self =>
          have hle := (Below.child hp hx).id_le hordered
          omega
      | @child other q x hq hx' =>
          have hid : p.id = q.id :=
            Option.some.inj (hparent.symm.trans (mem_children.mp hx').2)
          obtain rfl := hordered.eq_of_id (hp.mem hm) (hq.mem hm) hid
          rw [ih hq]

theorem Below.trans (hy : catalog.Below m level y) {further : Nat}
    (hx : catalog.Below y further x) : catalog.Below m (level + further) x := by
  induction hx with
  | self => exact hy
  | child _ hx ih => exact .child ih hx

theorem Below.of_child (hy : y ∈ catalog.children m.id) (h : catalog.Below y level x) :
    catalog.Below m (level + 1) x :=
  Nat.add_comm 1 level ▸ (Below.child .self hy).trans h

theorem Below.exists_child (h : catalog.Below m (level + 1) x) :
    ∃ y ∈ catalog.children m.id, catalog.Below y level x := by
  generalize hdeep : level + 1 = deep at h
  induction h generalizing level with
  | self => cases hdeep
  | @child above p x hp hx ih =>
      obtain rfl := Nat.succ.inj hdeep
      cases level with
      | zero =>
          cases hp with
          | self => exact ⟨x, hx, .self⟩
      | succ level =>
          obtain ⟨y, hy, hbelow⟩ := ih rfl
          exact ⟨y, hy, .child hbelow hx⟩

end NamedQuery.Catalog
