import NamedQuery.Mapping.Placing

/-!
# What completing a class gives it

A class is completed by taking over properties and by mapping the columns of its source.  It gets
its properties, its type column and its keys and stays what it is otherwise.  Whatever holds of the
properties of the class above and is kept by the few ways to make one of another holds of all
properties that it gets.
-/

namespace NamedQuery

/-- Every entry has a property. -/
def Entries.All {α : Type} (P : α → Prop) (entries : List (String × α)) : Prop :=
  ∀ e ∈ entries, P e.2

section Entries

variable {α : Type} {P : α → Prop} {entries : List (String × α)} {name : String} {entry : α}

theorem Entries.All.assign (h : All P entries) (name : String) (hentry : P entry) :
    All P (Entries.assign entries name entry) := by
  intro e he
  rcases Entries.mem_assign he with rfl | hold
  · exact hentry
  · exact h e hold

theorem Entries.All.of_lookup (h : All P entries) (hentry : entries.lookup name = some entry) :
    P entry := by
  obtain ⟨before, behind, rfl, -⟩ := List.lookup_eq_some_iff.mp hentry
  exact h (name, entry) (by simp)

end Entries

namespace Placing

variable {catalog : Catalog} {bare m : MappedClass} {P Q : Property → Prop}

/-- Properties of a class and those that it declares under names of its own keep what they have
while the class is completed. -/
structure Kept (catalog : Catalog) (bare : MappedClass) (P Q : Property → Prop) : Prop where
  lost : P ⟨[], bare.id⟩
  own : ∀ {p}, Q p → P { p with owner := bare.id }
  reconciled : ∀ {above own first rest}, P above → Q own → own.columns = first :: rest →
    Q ⟨first :: above.columns, above.owner⟩
  first : ∀ c ∈ catalog.tables.columns bare.source, P ⟨[c], bare.id⟩
  further : ∀ c ∈ catalog.tables.columns bare.source, ∀ {old}, P old →
    P ⟨c :: old.columns, bare.id⟩

/-- The class is the bare one but for its properties, and these have what they should have. -/
structure Grown (P : Property → Prop) (bare m : MappedClass) : Prop where
  same : m = { bare with properties := m.properties }
  properties : Entries.All P m.properties

theorem Grown.id_eq (h : Grown P bare m) : m.id = bare.id := by
  rw [h.same]

theorem Grown.source_eq (h : Grown P bare m) : m.source = bare.source := by
  rw [h.same]

theorem Grown.assign (h : Grown P bare m) (name : String) {p : Property} (hp : P p) :
    Grown P bare { m with properties := Entries.assign m.properties name p } where
  same := by
    obtain ⟨hsame, -⟩ := h
    rw [hsame]
  properties := h.properties.assign name hp

theorem grown_adopt (hlost : P ⟨[], bare.id⟩) (h : Grown P bare m) (catalog : Catalog)
    (name : String) {p : Property} (hp : P p) : Grown P bare (adopt catalog m name p) := by
  unfold adopt
  split
  · exact h.assign name hp
  · split
    · exact h
    · split
      · split
        · exact h.assign name (h.id_eq ▸ hlost)
        · exact h
      · exact h

theorem Kept.of_reconciled (h : Kept catalog bare P Q) {name : String} {above own p : Property}
    (hp : Placing.reconciled catalog m name above own = .ok p) (habove : P above) (hown : Q own) :
    Q p := by
  unfold Placing.reconciled at hp
  split at hp
  · next hcolumns =>
    split at hp
    · exact Except.ok.inj hp ▸ hown
    · split at hp
      · exact Except.ok.inj hp ▸ h.reconciled habove hown hcolumns
      · cases hp
  · exact Except.ok.inj hp ▸ hown

theorem Kept.of_propertyFor (h : Kept catalog bare P Q) (hm : Grown P bare m) {name : String}
    {c : Column} {p : Property} (hc : c ∈ catalog.tables.columns bare.source)
    (hp : propertyFor catalog m name c = .ok p) : P p := by
  unfold propertyFor at hp
  rw [hm.id_eq] at hp
  split at hp
  · next old hold =>
    have hkept := hm.properties.of_lookup hold
    split at hp
    · exact Except.ok.inj hp ▸ h.first c hc
    · next hcolumns =>
      split at hp
      · exact Except.ok.inj hp ▸ h.further c hc hkept
      · cases hp
  · exact Except.ok.inj hp ▸ h.first c hc

theorem Kept.takeOver (h : Kept catalog bare P Q) {d d' : Draft}
    {above : List (String × Property)} (hd : Placing.takeOver catalog d above = .ok d')
    (habove : Entries.All P above) (hcls : Grown P bare d.cls) (hown : Entries.All Q d.own) :
    Grown P bare d'.cls ∧ Entries.All Q d'.own := by
  induction above generalizing d with
  | nil => exact Except.ok.inj hd ▸ ⟨hcls, hown⟩
  | cons e rest ih =>
      obtain ⟨name, p⟩ := e
      obtain ⟨hp, hrest⟩ := List.forall_mem_cons.mp habove
      rw [Placing.takeOver] at hd
      split at hd
      · exact ih hd hrest hcls hown
      · split at hd
        · next own hlookup =>
          obtain ⟨q, hq, hd⟩ := bind_eq_ok.mp hd
          have hkept := h.of_reconciled hq hp (hown.of_lookup hlookup)
          exact ih hd hrest hcls (hown.assign name hkept)
        · exact ih hd hrest (grown_adopt h.lost hcls catalog name hp) hown

theorem Kept.mapColumns (h : Kept catalog bare P Q) {d : Draft} {columns : List Column}
    (hm : Placing.mapColumns catalog d columns = .ok m)
    (hcolumns : columns ⊆ catalog.tables.columns bare.source) (hcls : Grown P bare d.cls)
    (hown : Entries.All Q d.own) : Grown P bare m := by
  induction columns generalizing d with
  | nil => exact Except.ok.inj hm ▸ hcls
  | cons c rest ih =>
      obtain ⟨hc, hrest⟩ := List.cons_subset.mp hcolumns
      rw [Placing.mapColumns] at hm
      dsimp only at hm
      split at hm
      · next name p hfound =>
        have hp := h.own (hown _ (List.mem_of_find?_eq_some hfound))
        exact ih hm hrest (hcls.assign name (hcls.id_eq ▸ hp)) hown
      · split at hm
        · exact ih hm hrest hcls hown
        · obtain ⟨p, hp, hm⟩ := bind_eq_ok.mp hm
          exact ih hm hrest (hcls.assign _ (h.of_propertyFor hcls hc hp)) hown

/-- The class is the bare one, but it may have properties that have what they should have, the type
column that goes with them, and keys. -/
structure Completes (P : Property → Prop) (catalog : Catalog) (plan : MappingPlan)
    (parent : Option MappedClass) (bare m : MappedClass) : Prop where
  same : m = { bare with properties := m.properties, typeColumn := m.typeColumn, keys := m.keys }
  properties : Entries.All P m.properties
  typeColumn : ∀ t ∈ m.typeColumn,
    t ∈ Placing.typeColumn catalog plan { bare with properties := m.properties } parent

theorem Kept.complete (h : Kept catalog bare P Q) {plan : MappingPlan}
    {parent : Option MappedClass} (hbare : bare.properties = [])
    (hparent : ∀ p ∈ parent, Entries.All P p.properties)
    (hown : Entries.All Q (renamed plan bare parent))
    (hm : Placing.complete catalog plan bare parent = .ok m) :
    Completes P catalog plan parent bare m := by
  unfold Placing.complete at hm
  have habove : Entries.All P ((parent.map MappedClass.properties).getD []) := by
    cases parent with
    | none => exact nofun
    | some p => exact hparent p rfl
  have hstart : Grown P bare bare := ⟨rfl, hbare ▸ nofun⟩
  dsimp only at hm
  split at hm
  · cases hm
  · obtain ⟨d, hd, hm⟩ := bind_eq_ok.mp hm
    obtain ⟨filled, hfilled, hm⟩ := bind_eq_ok.mp hm
    obtain ⟨hcls, hdeclared⟩ := h.takeOver hd habove hstart hown
    have hgrown := h.mapColumns hfilled (hcls.source_eq ▸ List.Subset.refl _) hcls hdeclared
    generalize (if filled.lineage.isConcrete then none else parent) = above at hm
    split at hm
    · cases hm
    · obtain rfl := Except.ok.inj hm
      obtain ⟨hsame, hproperties⟩ := hgrown
      refine ⟨?_, hproperties, ?_⟩
      · rw [hsame]
      · rw [← hsame]
        exact fun t ht => ht

theorem completes_bare (hproperties : bare.properties = []) (htype : bare.typeColumn = none)
    (plan : MappingPlan) (parent : Option MappedClass) :
    Completes P catalog plan parent bare bare :=
  ⟨rfl, hproperties ▸ nofun, htype ▸ nofun⟩

end Placing

end NamedQuery
