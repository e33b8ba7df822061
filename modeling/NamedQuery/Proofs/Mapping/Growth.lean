import NamedQuery.Proofs.Mapping.Completing
import NamedQuery.Proofs.Mapping.Seating

/-!
# Catalogs only grow

Placing a class in a catalog leaves the classes that are there as they are, and their tables keep
their names and shapes, even if the placing fails.  So whatever a mapped class answers about its
attributes, it answers for good.
-/

namespace NamedQuery

/-- What attributes depend on in a table. -/
def Table.face (t : Table) : String × TableShape := (t.label, t.shape)

theorem Tables.Widens.faces {old new : Tables} (h : old.Widens new) :
    old.list.map Table.face <+: new.list.map Table.face := by
  let face (called : Option String × String × TableShape) : String × TableShape :=
    let t : Table := ⟨called.1, called.2.1, called.2.2, [], none, none⟩
    (t.label, t.shape)
  have hface : Table.face = face ∘ Table.called := rfl
  rw [hface, ← List.map_map, ← List.map_map]
  exact h.called.map face

namespace Catalog

/-- Classes and tables are still there, in the same places, and others may have come behind them. -/
structure Grows (old new : Catalog) : Prop where
  classes : old.classes <+: new.classes
  tables : old.tables.list.map Table.face <+: new.tables.list.map Table.face

variable {a b c : Catalog}

theorem Grows.refl (c : Catalog) : Grows c c := ⟨List.prefix_rfl, List.prefix_rfl⟩

theorem Grows.trans (hab : Grows a b) (hbc : Grows b c) : Grows a c :=
  ⟨hab.classes.trans hbc.classes, hab.tables.trans hbc.tables⟩

theorem Grows.find? (h : Grows a b) {id : Nat} {m : MappedClass} (hm : a.find? id = some m) :
    b.find? id = some m := by
  obtain ⟨later, hlater⟩ := h.classes
  have hid : id < a.classes.length := (List.getElem?_eq_some_iff.mp hm).1
  rw [Catalog.find?, ← hlater, List.getElem?_append_left hid]
  exact hm

theorem Grows.length_tables_le (h : Grows a b) : a.tables.list.length ≤ b.tables.list.length := by
  simpa using h.tables.length_le

theorem Grows.face_tableOf (h : Grows a b) {m : MappedClass}
    (htable : m.table < a.tables.list.length) :
    (b.tableOf m).map Table.face = (a.tableOf m).map Table.face := by
  obtain ⟨later, hlater⟩ := h.tables
  have hm : m.table < (a.tables.list.map Table.face).length := by simpa using htable
  rw [Catalog.tableOf, Catalog.tableOf, ← List.getElem?_map, ← List.getElem?_map, ← hlater,
    List.getElem?_append_left hm]

/-- The tables of classes exist, and so do the classes that have defined their properties. -/
structure WellFormed (catalog : Catalog) : Prop where
  table : ∀ m ∈ catalog.classes, m.table < catalog.tables.list.length
  owner : ∀ m ∈ catalog.classes, ∀ e ∈ m.properties, e.2.owner < catalog.classes.length

theorem wellFormed_empty : WellFormed empty := ⟨nofun, nofun⟩

theorem Prepares.grows (h : Prepares a b) : Grows a b :=
  ⟨h.classes ▸ List.prefix_rfl, h.widens.faces⟩

theorem WellFormed.of_tables (h : WellFormed a) (hab : Grows a b)
    (hclasses : b.classes = a.classes) : WellFormed b where
  table := hclasses ▸ fun m hm => Nat.lt_of_lt_of_le (h.table m hm) hab.length_tables_le
  owner := hclasses ▸ h.owner

/-- A further class may have any table that exists, and properties of its own or of classes that
exist. -/
theorem WellFormed.add (h : WellFormed a) (hab : Grows a b) {m : MappedClass}
    (hclasses : b.classes = a.classes ++ [m]) (htable : m.table < b.tables.list.length)
    (howner : ∀ e ∈ m.properties, e.2.owner ≤ a.classes.length) : WellFormed b := by
  have hlength : b.classes.length = a.classes.length + 1 := by simp [hclasses]
  constructor
  · intro other hother
    rw [hclasses, List.mem_append, List.mem_singleton] at hother
    rcases hother with hold | rfl
    · exact Nat.lt_of_lt_of_le (h.table other hold) hab.length_tables_le
    · exact htable
  · intro other hother e he
    rw [hclasses, List.mem_append, List.mem_singleton] at hother
    rw [hlength, Nat.lt_succ_iff]
    rcases hother with hold | rfl
    · exact Nat.le_of_lt (h.owner other hold e he)
    · exact howner e he

end Catalog

namespace Placing

variable {catalog : Catalog} {plan : MappingPlan} {parent : Option MappedClass} {tables : Tables}
  {bare m : MappedClass}

/-- The property was defined by a class up to this one. -/
def OwnedUpTo (id : Nat) (p : Property) : Prop := p.owner ≤ id

theorem kept_ownedUpTo (catalog : Catalog) (bare : MappedClass) :
    Kept catalog bare (OwnedUpTo bare.id) (OwnedUpTo bare.id) where
  lost := Nat.le_refl _
  own _ := Nat.le_refl _
  reconciled habove _ _ := habove
  first _ _ := Nat.le_refl _
  further _ _ _ _ := Nat.le_refl _

/-- A class that is seated keeps its seat and has properties of its own and of classes before it. -/
theorem Bare.completes (hbare : Bare catalog plan parent tables bare) (h : catalog.WellFormed)
    (hparent : ∀ p ∈ parent, p ∈ catalog.classes)
    (hm : m = bare ∨
      complete ⟨tables, catalog.classes ++ [bare]⟩ plan bare parent = .ok m) :
    Completes (OwnedUpTo bare.id) ⟨tables, catalog.classes ++ [bare]⟩ plan parent bare m := by
  rcases hm with rfl | hm
  · exact completes_bare hbare.properties hbare.typeColumn plan parent
  · refine (kept_ownedUpTo _ bare).complete hbare.properties ?_ ?_ hm
    · intro p hp e he
      rw [OwnedUpTo, hbare.id]
      exact Nat.le_of_lt (h.owner p (hparent p hp) e he)
    · intro e he
      obtain ⟨declared, -, rfl⟩ := List.mem_map.mp he
      exact Nat.le_refl _

theorem Bare.grows (h : Bare catalog plan parent tables bare) (m : MappedClass) :
    catalog.Grows ⟨tables, catalog.classes ++ [m]⟩ :=
  ⟨List.prefix_append _ _, h.prepares.widens.faces⟩

end Placing

namespace Catalog

variable {catalog : Catalog}

theorem mem_classes_of_find? (catalog : Catalog) (parent : Option Nat) :
    ∀ p ∈ parent.bind catalog.find?, p ∈ catalog.classes := by
  intro p hp
  obtain ⟨id, -, hid⟩ := Option.bind_eq_some_iff.mp hp
  exact List.mem_of_getElem? hid

theorem grows_place (catalog : Catalog) (plan : MappingPlan) (name : String)
    (parent : Option Nat) : catalog.Grows (catalog.place plan name parent).2 := by
  rcases Placing.cases_of_place catalog plan name parent with
    ⟨hprepares, -⟩ | ⟨tables, bare, m, hbare, -, hlater, -⟩
  · exact hprepares.grows
  · rw [hlater]
    exact hbare.grows m

theorem WellFormed.place (h : catalog.WellFormed) (plan : MappingPlan) (name : String)
    (parent : Option Nat) : (catalog.place plan name parent).2.WellFormed := by
  have hparent := catalog.mem_classes_of_find? parent
  rcases Placing.cases_of_place catalog plan name parent with
    ⟨hprepares, -⟩ | ⟨tables, bare, m, hbare, hm, hlater, -⟩
  · exact h.of_tables hprepares.grows hprepares.classes
  · have hcompletes := hbare.completes h hparent hm
    have hoffers := hbare.offers fun p hp => h.table p (hparent p hp)
    rw [hlater]
    refine h.add (hbare.grows m) rfl ?_ ?_
    · rw [hcompletes.same]
      exact hoffers.lt
    · exact hbare.id ▸ hcompletes.properties

theorem isSome_place {plan : MappingPlan} {name : String} {parent : Option Nat} {id : Nat}
    (hid : (catalog.place plan name parent).1 = .ok id) :
    ((catalog.place plan name parent).2.find? id).isSome := by
  rcases Placing.cases_of_place catalog plan name parent with
    ⟨-, e, herror⟩ | ⟨tables, bare, m, hbare, -, hlater, hplace⟩
  · rw [herror] at hid
    cases hid
  · rw [hlater, hplace id hid, hbare.id]
    simp [Catalog.find?]

end Catalog

end NamedQuery
