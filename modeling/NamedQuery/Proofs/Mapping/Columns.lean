import NamedQuery.Proofs.Mapping.Subtrees

/-!
# Where type columns are

A class reads from the tables of the classes above it, and the columns of its properties are among
the columns of these tables.  So is its type column.  It is in the very table of the class where
that table was not joined to another one.
-/

namespace NamedQuery

namespace Placing

variable {catalog : Catalog} {plan : MappingPlan} {parent : Option MappedClass} {tables : Tables}
  {bare m : MappedClass} {ts old new : Tables} {p : Property}

/-! ## Columns of properties -/

/-- The columns of a property exist, and the first one is in a table that the class draws from. -/
structure Leads (ts : Tables) (m : MappedClass) (p : Property) : Prop where
  has : ∀ c ∈ p.columns, ts.Has c
  first : ∀ c ∈ p.columns.head?, ts.Draws m.source c.table

/-- The same of a property with a column of the table of the class.  One without may stay from a
class above. -/
structure Fits (ts : Tables) (m : MappedClass) (p : Property) : Prop where
  has : ∀ c ∈ p.columns, ts.Has c
  first : (∃ c ∈ p.columns, c.table = m.table) → ∀ c ∈ p.columns.head?, ts.Draws m.source c.table

theorem Leads.fits (h : Leads ts m p) : Fits ts m p := ⟨h.has, fun _ => h.first⟩

theorem Fits.widens (hwidens : old.Widens new) (h : Fits old m p) : Fits new m p :=
  ⟨fun c hc => hwidens.has (h.has c hc), fun hown c hc => hwidens.draws (h.first hown c hc)⟩

theorem kept_fits (hsound : catalog.tables.Sound) (bare : MappedClass) :
    Kept catalog bare (Fits catalog.tables bare) (Leads catalog.tables bare) where
  lost := ⟨nofun, fun _ => nofun⟩
  own hp := ⟨hp.has, fun _ => hp.first⟩
  reconciled habove hown hcolumns := by
    obtain ⟨hhas, hfirst⟩ := hown
    rw [hcolumns] at hhas hfirst
    constructor
    · exact List.forall_mem_cons.mpr ⟨hhas _ List.mem_cons_self, habove.has⟩
    · exact fun c hc => hfirst c hc
  first c hc := by
    obtain ⟨hhas, hdraws⟩ := hsound _ c hc
    refine Leads.fits ⟨List.forall_mem_singleton.mpr hhas, fun d hd => ?_⟩
    obtain rfl := Option.some.inj hd
    exact hdraws
  further c hc _ hold := by
    obtain ⟨hhas, hdraws⟩ := hsound _ c hc
    refine Leads.fits ⟨List.forall_mem_cons.mpr ⟨hhas, hold.has⟩, fun d hd => ?_⟩
    obtain rfl := Option.some.inj hd
    exact hdraws

end Placing

/-! ## Classes in their places -/

namespace Catalog

variable {a b catalog : Catalog} {m : MappedClass}

def above? (catalog : Catalog) (m : MappedClass) : Option MappedClass :=
  m.lineage.parent?.bind catalog.find?

/-- A class has its place by its lineage, and its columns are where it can read them. -/
structure Housed (catalog : Catalog) (m : MappedClass) : Prop where
  stands : Placing.Stands catalog.tables (catalog.above? m) m.lineage m.table m.source
  draws : catalog.tables.Draws m.source m.table
  properties : Entries.All (Placing.Fits catalog.tables m) m.properties
  typed : ∀ t ∈ m.typeColumn,
    catalog.tables.Has t.column ∧ catalog.tables.Draws m.source t.column.table

theorem Housed.grows (h : Housed a m) (hgrows : a.Grows b) (hwidens : a.tables.Widens b.tables) :
    Housed b m where
  stands := by
    refine h.stands.mono hwidens fun p hp _ => ?_
    obtain ⟨id, hid, hfound⟩ := Option.bind_eq_some_iff.mp hp
    rw [above?, hid, Option.bind_some, hgrows.find? hfound]
  draws := hwidens.draws h.draws
  properties e he := (h.properties e he).widens hwidens
  typed t ht := by
    obtain ⟨hhas, hdraws⟩ := h.typed t ht
    exact ⟨hwidens.has hhas, hwidens.draws hdraws⟩

/-- All that classes read is there. -/
structure Laid (catalog : Catalog) : Prop where
  sound : catalog.tables.Sound
  housed : ∀ m ∈ catalog.classes, catalog.Housed m

theorem laid_empty : Laid empty := ⟨Tables.sound_empty, nofun⟩

theorem mem_ancestryWithin {depth : Nat} {c : MappedClass}
    (hc : c ∈ catalog.ancestryWithin depth m) : c = m ∨ c ∈ catalog.classes := by
  induction depth generalizing m with
  | zero => exact .inl (List.mem_singleton.mp hc)
  | succ depth ih =>
      rw [ancestryWithin] at hc
      split at hc
      · next parent hparent =>
        obtain ⟨id, -, hid⟩ := Option.bind_eq_some_iff.mp hparent
        rcases List.mem_cons.mp hc with rfl | habove
        · exact .inl rfl
        · rcases ih habove with rfl | hmem
          · exact .inr (List.mem_of_getElem? hid)
          · exact .inr hmem
      · exact .inl (List.mem_singleton.mp hc)

end Catalog

namespace Placing

variable {catalog : Catalog} {plan : MappingPlan} {parent : Option MappedClass} {tables : Tables}
  {bare m : MappedClass}

/-- What a class takes over from the one above fits it: it has the same table and source as that
one, or a new table, which no column of that one is in. -/
theorem Bare.fits_above (hbare : Bare catalog plan parent tables bare) {above : MappedClass}
    (hparent : parent = some above) (hhoused : catalog.Housed above) :
    Entries.All (Fits tables bare) above.properties := by
  intro e he
  have hfits := hhoused.properties e he
  have hwidened := hfits.widens hbare.prepares.widens
  cases hshares : bare.lineage.isSharing with
  | true =>
      obtain ⟨p, hp, -, htable, hsource⟩ := hbare.stands.of_isSharing hshares
      obtain rfl := Option.some.inj (hparent.symm.trans hp)
      refine ⟨hwidened.has, ?_⟩
      rw [htable, hsource]
      exact hwidened.first
  | false =>
      -- the table is new, and the column has been there before it
      refine ⟨hwidened.has, ?_⟩
      rintro ⟨c, hc, htable⟩
      have hold := (hfits.has c hc).table_lt
      rw [htable, hbare.seat.number_eq hshares] at hold
      exact absurd hold (Nat.lt_irrefl _)

/-- A class draws from its own table. -/
theorem Bare.draws (hbare : Bare catalog plan parent tables bare)
    (hparent : ∀ p ∈ parent, catalog.Housed p) : tables.Draws bare.source bare.table := by
  have hstands := hbare.stands
  generalize bare.lineage = lineage at hstands
  generalize bare.table = number at *
  generalize bare.source = source at *
  cases hstands with
  | root => exact .table _
  | concrete => exact .table _
  | sharing habove => exact hbare.prepares.widens.draws (hparent _ habove).draws
  | joined _ hparts => exact .right hparts

theorem leads_renamed (hbare : Bare catalog plan parent tables bare)
    (hparent : ∀ p ∈ parent, catalog.Housed p)
    (htables : ∀ p ∈ parent, p.table < catalog.tables.list.length) :
    Entries.All (Leads tables bare) (renamed plan bare parent) := by
  intro e he
  obtain ⟨declared, hdeclared, rfl⟩ := List.mem_map.mp he
  have hown := (hbare.offers htables).declared declared (List.mem_filter.mp hdeclared).1
  constructor
  · refine List.forall_mem_cons.mpr ⟨hown, ?_⟩
    intro c hc
    dsimp only at hc
    split at hc
    · cases hc
    · cases hp : parent.bind fun p => p.properties.lookup declared.1 with
      | none =>
          rw [hp] at hc
          cases hc
      | some above =>
          rw [hp] at hc
          obtain ⟨p, hsome, hlookup⟩ := Option.bind_eq_some_iff.mp hp
          have hfits := hbare.fits_above hsome (hparent p hsome)
          exact (hfits.of_lookup hlookup).has c hc
  · intro c hc
    obtain rfl := Option.some.inj hc
    exact hbare.draws hparent

/-- A class upward that has a type column is an earlier one. -/
theorem Bare.mem_classes_of_ancestry (hbare : Bare catalog plan parent tables bare)
    (hparent : ∀ p ∈ parent, p ∈ catalog.classes) {c : MappedClass}
    (hc : c ∈ (parent.map (Catalog.ancestry ⟨tables, catalog.classes ++ [bare]⟩)).getD [])
    {t : TypeColumn} (ht : c.typeColumn = some t) : c ∈ catalog.classes := by
  cases parent with
  | none => cases hc
  | some above =>
      rcases Catalog.mem_ancestryWithin hc with rfl | hmem
      · exact hparent c rfl
      · rcases List.mem_append.mp hmem with hold | hnew
        · exact hold
        · obtain rfl := List.mem_singleton.mp hnew
          rw [hbare.typeColumn] at ht
          cases ht

/-- The type column of a class is one that it can read: it is the first column of a property with
the own type column, or the type column of a class above. -/
theorem typed_of_typeColumn (hbare : Bare catalog plan parent tables bare)
    (hsound : tables.Sound) (hparent : ∀ p ∈ parent, p ∈ catalog.classes)
    (hhoused : ∀ c ∈ catalog.classes, catalog.Housed c) {properties : List (String × Property)}
    (hproperties : Entries.All (Fits tables bare) properties) :
    ∀ t ∈ typeColumn ⟨tables, catalog.classes ++ [bare]⟩ plan { bare with properties } parent,
      tables.Has t.column ∧ tables.Draws bare.source t.column.table := by
  intro t ht
  unfold typeColumn at ht
  split at ht
  -- a column of its own, or else that of the nearest class above which has one
  · next member p hown =>
    obtain ⟨own, howned, hfound⟩ := Option.bind_eq_some_iff.mp hown
    obtain ⟨d, -, rfl⟩ := Option.map_eq_some_iff.mp howned
    obtain ⟨first, hfirst, rfl⟩ := Option.map_eq_some_iff.mp ht
    have hfits := hproperties _ (List.mem_of_find?_eq_some hfound)
    have hcontains := List.find?_some hfound
    have hmem := List.contains_iff_mem.mp hcontains
    exact ⟨hfits.has first (List.mem_of_mem_head? hfirst), hfits.first ⟨_, hmem, rfl⟩ first hfirst⟩
  · dsimp only at ht
    split at ht
    · next c hfound =>
      obtain ⟨hkept, hreads⟩ := Option.filter_eq_some_iff.mp ht
      have hclass := hbare.mem_classes_of_ancestry hparent (List.mem_of_find?_eq_some hfound) hkept
      obtain ⟨hhas, hdraws⟩ := (hhoused c hclass).typed t hkept
      refine ⟨hbare.prepares.widens.has hhas, ?_⟩
      rcases Bool.or_eq_true_iff.mp hreads with hsame | hcolumn
      · have hsource : c.source = bare.source := of_decide_eq_true hsame
        exact hsource ▸ hbare.prepares.widens.draws hdraws
      · exact (hsound _ t.column (List.contains_iff_mem.mp hcolumn)).2
    · cases ht

/-- A class that is seated is housed, whether it is bare or complete. -/
theorem Bare.housed (hbare : Bare catalog plan parent tables bare) (h : catalog.Laid)
    (hordered : catalog.Ordered) (hwellFormed : catalog.WellFormed)
    (hparent : ∀ p ∈ parent, p ∈ catalog.classes)
    (hm : m = bare ∨
      complete ⟨tables, catalog.classes ++ [bare]⟩ plan bare parent = .ok m) :
    Catalog.Housed ⟨tables, catalog.classes ++ [m]⟩ m := by
  have hsound : tables.Sound := hbare.prepares.sound h.sound
  have hhoused : ∀ p ∈ parent, catalog.Housed p := fun p hp => h.housed p (hparent p hp)
  have hcompletes : Completes (Fits tables bare) ⟨tables, catalog.classes ++ [bare]⟩ plan parent
      bare m := by
    rcases hm with rfl | hm
    · exact completes_bare hbare.properties hbare.typeColumn plan parent
    · have hkept : Kept ⟨tables, catalog.classes ++ [bare]⟩ bare (Fits tables bare)
          (Leads tables bare) := kept_fits hsound bare
      exact hkept.complete hbare.properties (fun p hp => hbare.fits_above hp (hhoused p hp))
        (leads_renamed hbare hhoused fun p hp => hwellFormed.table p (hparent p hp)) hm
  obtain ⟨hsame, hproperties, htype⟩ := hcompletes
  have htyped := typed_of_typeColumn hbare hsound hparent h.housed hproperties
  rw [hsame]
  refine ⟨?_, hbare.draws hhoused, ?_, fun t ht => htyped t (htype t ht)⟩
  · refine hbare.stands.mono (.refl tables) fun p hp hlineage => ?_
    have hfound := hordered.find?_id (hparent p hp)
    rw [Catalog.above?, hlineage, Option.bind_some, (hbare.grows _).find? hfound]
  · exact fun e he => ⟨(hproperties e he).has, (hproperties e he).first⟩

end Placing

namespace Catalog

variable {catalog : Catalog} {m : MappedClass}

theorem Laid.place (h : Laid catalog) (hordered : Ordered catalog) (hsound : catalog.WellFormed)
    (plan : MappingPlan) (name : String) (parent : Option Nat) :
    Laid (catalog.place plan name parent).2 := by
  have hparent := catalog.mem_classes_of_find? parent
  rcases Placing.cases_of_place catalog plan name parent with
    ⟨hprepares, -⟩ | ⟨tables, bare, m, hbare, hm, hlater, -⟩
  · refine ⟨hprepares.sound h.sound, ?_⟩
    rw [hprepares.classes]
    exact fun c hc => (h.housed c hc).grows hprepares.grows hprepares.widens
  · rw [hlater]
    refine ⟨hbare.prepares.sound h.sound, ?_⟩
    intro c hc
    rcases List.mem_append.mp hc with hold | hnew
    · exact (h.housed c hold).grows (hbare.grows m) hbare.prepares.widens
    · obtain rfl := List.mem_singleton.mp hnew
      exact hbare.housed h hordered hsound hparent hm

theorem Arises.laid (h : catalog.Arises) : catalog.Laid := by
  induction h with
  | empty => exact laid_empty
  | place harises plan name parent ih =>
      exact ih.place harises.ordered harises.wellFormed plan name parent

/-! ## The tables of a class -/

/-- The table is that of a class upward from `m`. -/
def Upward (catalog : Catalog) (m : MappedClass) (number : Nat) : Prop :=
  ∃ holder ∈ catalog.classes, (∃ level, catalog.Below holder level m) ∧ holder.table = number

theorem Upward.of_parent {p : MappedClass} {number : Nat} (h : catalog.Upward p number)
    (hm : m ∈ catalog.classes) (hparent : m.lineage.parent? = some p.id) :
    catalog.Upward m number := by
  obtain ⟨holder, hholder, ⟨level, hbelow⟩, htable⟩ := h
  exact ⟨holder, hholder, ⟨level + 1, .child hbelow (mem_children.mpr ⟨hm, hparent⟩)⟩, htable⟩

/-- A class draws from tables of classes upward from it. -/
theorem Laid.upward_of_draws (h : Laid catalog) (hordered : Ordered catalog) :
    ∀ m ∈ catalog.classes, ∀ number, catalog.tables.Draws m.source number →
      catalog.Upward m number := by
  refine hordered.induction fun m hm ih number hdraws => ?_
  have hstands := (h.housed m hm).stands
  have hself : catalog.Upward m m.table := ⟨m, hm, ⟨0, .self⟩, rfl⟩
  have habove {p : MappedClass} (hp : catalog.above? m = some p)
      (hparent : m.lineage.parent? = some p.id) (hdrawn : catalog.tables.Draws p.source number) :
      catalog.Upward m number := by
    obtain ⟨id, -, hid⟩ := Option.bind_eq_some_iff.mp hp
    exact (ih p (List.mem_of_getElem? hid) hparent number hdrawn).of_parent hm hparent
  generalize hlineage : m.lineage = lineage at *
  generalize hsource : m.source = source at *
  generalize htable : m.table = table at *
  cases hstands with
  | root => exact hdraws.eq_of_table ▸ hself
  | concrete => exact hdraws.eq_of_table ▸ hself
  | sharing hp => exact habove hp rfl hdraws
  | joined hp hparts =>
      rcases hdraws.of_join hparts with hleft | hright
      · exact habove hp rfl hleft
      · exact hright ▸ hself

/-- The class `f` is the nearest one upward from `m` that does not share the table of its parent. -/
inductive Founder (catalog : Catalog) (f : MappedClass) : MappedClass → Prop where
  | self (hown : f.lineage.isSharing = false) : Founder catalog f f
  | shared {p m : MappedClass} (hp : Founder catalog f p) (hshares : m.lineage = .sharing p.id)
      (hm : m ∈ catalog.classes) : Founder catalog f m

/-- Classes that share a table read from the same source as the class that has founded it. -/
theorem Laid.exists_founder (h : Laid catalog) (hordered : Ordered catalog) :
    ∀ m ∈ catalog.classes, ∃ f ∈ catalog.classes, catalog.Founder f m ∧ f.table = m.table ∧
      f.source = m.source := by
  refine hordered.induction fun m hm ih => ?_
  cases hshares : m.lineage.isSharing with
  | false => exact ⟨m, hm, .self hshares, rfl, rfl⟩
  | true =>
      obtain ⟨p, hp, hlineage, htable, hsource⟩ := (h.housed m hm).stands.of_isSharing hshares
      obtain ⟨id, -, hid⟩ := Option.bind_eq_some_iff.mp hp
      have hparent : m.lineage.parent? = some p.id := by rw [hlineage]; rfl
      obtain ⟨f, hf, hfounder, hsame, hsame'⟩ := ih p (List.mem_of_getElem? hid) hparent
      exact ⟨f, hf, .shared hfounder hlineage hm, hsame.trans htable.symm,
        hsame'.trans hsource.symm⟩

theorem Founder.own {f : MappedClass} (h : catalog.Founder f m) : f.lineage.isSharing = false := by
  induction h with
  | self hown => exact hown
  | shared _ _ _ ih => exact ih

/-- A table that was not joined to another one is all that its classes read. -/
theorem Laid.source_of_not_joined (h : Laid catalog) {f : MappedClass} (hf : f ∈ catalog.classes)
    (hown : f.lineage.isSharing = false) (hjoined : ∀ p, f.lineage ≠ .joined p) :
    f.source = .table f.table := by
  have hstands := (h.housed f hf).stands
  generalize f.lineage = lineage at *
  generalize f.source = source at *
  generalize f.table = table at *
  cases hstands with
  | root => rfl
  | concrete => rfl
  | sharing => cases hown
  | joined => exact absurd rfl (hjoined _)

end Catalog

end NamedQuery
