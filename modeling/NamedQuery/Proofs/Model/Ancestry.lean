import NamedQuery.Model.Creation
import NamedQuery.Proofs.Mapping.Growth

/-!
# Ancestry of models

A class extends at most one other class, which was created before it and offers what it offers.  So
the classes that a class goes through for its attributes begin with the class itself, and behind it
stand those that the class above goes through.  Creating, changing and attaching keep this.
-/

namespace NamedQuery

/-- A class that lies directly below another one, and takes over what this one offers. -/
structure Model.Extends (m parent : Model) : Prop where
  ancestors : m.ancestors = parent.id :: parent.ancestors
  later : parent.id < m.id
  offersFinders : parent.offersFinders = m.offersFinders
  mapping : parent.mapping.isSome = m.mapping.isSome

/-- What a class is, apart from its backend and its attributes, is the same. -/
structure Model.Alike (m m' : Model) : Prop where
  id : m'.id = m.id
  name : m'.name = m.name
  ancestors : m'.ancestors = m.ancestors
  offersFinders : m'.offersFinders = m.offersFinders
  prefetches : m'.prefetches = m.prefetches
  mapping : m'.mapping = m.mapping

theorem Model.Alike.refl (m : Model) : m.Alike m := ⟨rfl, rfl, rfl, rfl, rfl, rfl⟩

theorem Model.alike_attach (m : Model) (f : Finder) : m.Alike (m.attach f) :=
  ⟨rfl, rfl, rfl, rfl, rfl, rfl⟩

theorem Model.Extends.of_alike {m parent m' parent' : Model} (h : m.Extends parent)
    (hm : m.Alike m') (hparent : parent.Alike parent') : m'.Extends parent' where
  ancestors := by rw [hm.ancestors, h.ancestors, hparent.id, hparent.ancestors]
  later := by rw [hm.id, hparent.id]; exact h.later
  offersFinders := by rw [hparent.offersFinders, h.offersFinders, hm.offersFinders]
  mapping := by rw [hparent.mapping, h.mapping, hm.mapping]

namespace Models

/-- Models stand at their own places, below classes that are there, and mapped ones are known to the
catalog. -/
structure WellFormed (ms : Models) : Prop where
  id : ∀ {place m}, ms.get? place = some m → m.id = place
  parent : ∀ {place m}, ms.get? place = some m →
    m.ancestors = [] ∨ ∃ parent, ms.get? parent.id = some parent ∧ m.Extends parent
  mapping : ∀ {place m}, ms.get? place = some m → ∀ number ∈ m.mapping,
    (ms.catalog.find? number).isSome
  catalog : ms.catalog.WellFormed

theorem wellFormed_empty : WellFormed empty := ⟨nofun, nofun, nofun, Catalog.wellFormed_empty⟩

variable {ms : Models} {m d : Model}

theorem WellFormed.get?_id (h : ms.WellFormed) {place : Nat} (hm : ms.get? place = some m) :
    ms.get? m.id = some m := by
  rw [h.id hm]
  exact hm

theorem WellFormed.get?_of_mem (h : ms.WellFormed) (hm : m ∈ ms.list) : ms.get? m.id = some m := by
  obtain ⟨place, hplace⟩ := List.mem_iff_getElem?.mp hm
  exact h.get?_id hplace

theorem WellFormed.get?_of_find? (h : ms.WellFormed) {name : String}
    (hm : ms.find? name = some m) : ms.get? m.id = some m :=
  h.get?_of_mem (List.mem_reverse.mp (List.mem_of_find?_eq_some hm))

/-! ## Chains -/

theorem chain_of_root (hroot : m.ancestors = []) : ms.chain m = [m] := by
  rw [chain, hroot, List.filterMap_nil]

theorem chain_of_extends {parent : Model} (hparent : ms.get? parent.id = some parent)
    (hextends : m.Extends parent) : ms.chain m = m :: ms.chain parent := by
  rw [chain, hextends.ancestors, List.filterMap_cons_some hparent, chain]

/-- What holds for classes that extend none, and for a class whenever it does for the one above,
holds for all classes. -/
theorem WellFormed.induct (h : ms.WellFormed) {motive : Model → Prop}
    (root : ∀ m, m.ancestors = [] → motive m)
    (heir : ∀ m parent, ms.get? parent.id = some parent → m.Extends parent → motive parent →
      motive m) : ∀ m, ms.get? m.id = some m → motive m := by
  intro m hm
  induction hid : m.id using Nat.strongRecOn generalizing m with
  | ind id ih =>
      rcases h.parent hm with hroot | ⟨parent, hparent, hextends⟩
      · exact root m hroot
      · have hlater : parent.id < id := hid ▸ hextends.later
        exact heir m parent hparent hextends (ih parent.id hlater parent hparent rfl)

theorem WellFormed.get?_of_mem_chain (h : ms.WellFormed) (hm : ms.get? m.id = some m)
    (hd : d ∈ ms.chain m) : ms.get? d.id = some d := by
  rw [chain, List.mem_cons, List.mem_filterMap] at hd
  rcases hd with rfl | ⟨place, -, hplace⟩
  · exact hm
  · exact h.get?_id hplace

theorem WellFormed.id_le_of_mem_chain (h : ms.WellFormed) (hm : ms.get? m.id = some m)
    (hd : d ∈ ms.chain m) : d.id ≤ m.id := by
  refine h.induct (motive := fun m => d ∈ ms.chain m → d.id ≤ m.id) ?_ ?_ m hm hd
  · intro m hroot hd
    rw [chain_of_root hroot, List.mem_singleton] at hd
    exact Nat.le_of_eq (congrArg Model.id hd)
  · intro m parent hparent hextends ih hd
    rw [chain_of_extends hparent hextends, List.mem_cons] at hd
    rcases hd with rfl | hd
    · exact Nat.le_refl _
    · exact Nat.le_of_lt (Nat.lt_of_le_of_lt (ih hd) hextends.later)

/-- Every class of a chain is where the chain of its own begins; those before it came later. -/
theorem WellFormed.exists_chain_eq (h : ms.WellFormed) (hm : ms.get? m.id = some m)
    (hd : d ∈ ms.chain m) :
    ∃ nearer, ms.chain m = nearer ++ ms.chain d ∧ ∀ c ∈ nearer, d.id < c.id := by
  refine h.induct (motive := fun m => d ∈ ms.chain m →
    ∃ nearer, ms.chain m = nearer ++ ms.chain d ∧ ∀ c ∈ nearer, d.id < c.id) ?_ ?_ m hm hd
  · intro m hroot hd
    rw [chain_of_root hroot, List.mem_singleton] at hd
    exact ⟨[], by rw [hd, List.nil_append], nofun⟩
  · intro m parent hparent hextends ih hd
    rw [chain_of_extends hparent hextends, List.mem_cons] at hd
    rw [chain_of_extends hparent hextends]
    rcases hd with rfl | hd
    · exact ⟨[], (chain_of_extends hparent hextends).symm, nofun⟩
    · obtain ⟨nearer, hchain, hlater⟩ := ih hd
      refine ⟨m :: nearer, by rw [hchain, List.cons_append], ?_⟩
      rw [List.forall_mem_cons]
      exact ⟨Nat.lt_of_le_of_lt (h.id_le_of_mem_chain hparent hd) hextends.later, hlater⟩

/-- What a class offers and whether it is mapped is the same in a whole chain. -/
theorem WellFormed.offers_of_mem_chain (h : ms.WellFormed) (hm : ms.get? m.id = some m)
    (hd : d ∈ ms.chain m) :
    d.offersFinders = m.offersFinders ∧ d.mapping.isSome = m.mapping.isSome := by
  refine h.induct (motive := fun m => d ∈ ms.chain m →
    d.offersFinders = m.offersFinders ∧ d.mapping.isSome = m.mapping.isSome) ?_ ?_ m hm hd
  · intro m hroot hd
    rw [chain_of_root hroot, List.mem_singleton] at hd
    exact hd ▸ ⟨rfl, rfl⟩
  · intro m parent hparent hextends ih hd
    rw [chain_of_extends hparent hextends, List.mem_cons] at hd
    rcases hd with rfl | hd
    · exact ⟨rfl, rfl⟩
    · obtain ⟨hoffers, hmapping⟩ := ih hd
      exact ⟨hoffers.trans hextends.offersFinders, hmapping.trans hextends.mapping⟩

/-! ## Changes of one model -/

theorem get?_replace {m' : Model} (hm : ms.get? m.id = some m) (hid : m'.id = m.id) (place : Nat) :
    (ms.replace m').get? place = if place = m.id then some m' else ms.get? place := by
  have hplace : m.id < ms.list.length := (List.getElem?_eq_some_iff.mp hm).1
  change (ms.list.set m'.id m')[place]? = _
  rw [hid, List.getElem?_set]
  split
  · next heq => exact (if_pos heq.symm).symm
  · next hne => exact (if_neg (Ne.symm hne)).symm

/-- What stands at a place where there was a model is like it. -/
theorem exists_alike_of_get?_replace {m' c' : Model} (hm : ms.get? m.id = some m)
    (halike : m.Alike m') {place : Nat} (hc' : (ms.replace m').get? place = some c') :
    ∃ c, ms.get? place = some c ∧ c.Alike c' := by
  rw [get?_replace hm halike.id] at hc'
  split at hc'
  · next heq =>
    obtain rfl := Option.some.inj hc'
    exact ⟨m, heq ▸ hm, halike⟩
  · exact ⟨c', hc', .refl c'⟩

theorem exists_get?_replace {m' c : Model} (hm : ms.get? m.id = some m) (halike : m.Alike m')
    {place : Nat} (hc : ms.get? place = some c) :
    ∃ c', (ms.replace m').get? place = some c' ∧ c.Alike c' := by
  rw [get?_replace hm halike.id]
  split
  · next heq =>
    obtain rfl := Option.some.inj (hm.symm.trans (heq ▸ hc))
    exact ⟨m', rfl, halike⟩
  · exact ⟨c, hc, .refl c⟩

theorem WellFormed.replace {m' : Model} (h : ms.WellFormed) (hm : ms.get? m.id = some m)
    (halike : m.Alike m') : (ms.replace m').WellFormed where
  id hc' := by
    obtain ⟨c, hc, hcc'⟩ := exists_alike_of_get?_replace hm halike hc'
    rw [hcc'.id, h.id hc]
  parent hc' := by
    obtain ⟨c, hc, hcc'⟩ := exists_alike_of_get?_replace hm halike hc'
    rw [hcc'.ancestors]
    refine (h.parent hc).imp_right ?_
    rintro ⟨parent, hparent, hextends⟩
    obtain ⟨parent', hparent', hpp'⟩ := exists_get?_replace hm halike hparent
    exact ⟨parent', hpp'.id ▸ hparent', hextends.of_alike hcc' hpp'⟩
  mapping hc' number hnumber := by
    obtain ⟨c, hc, hcc'⟩ := exists_alike_of_get?_replace hm halike hc'
    exact h.mapping hc number (hcc'.mapping ▸ hnumber)
  catalog := h.catalog

/-! ## Creation -/

/-- Models are still there, as they were, and others may have come behind them. -/
structure Grows (old new : Models) : Prop where
  list : old.list <+: new.list
  catalog : old.catalog.Grows new.catalog

theorem Grows.get? {old new : Models} (h : old.Grows new) {place : Nat}
    (hm : old.get? place = some m) : new.get? place = some m := by
  obtain ⟨later, hlater⟩ := h.list
  have hplace : place < old.list.length := (List.getElem?_eq_some_iff.mp hm).1
  rw [Models.get?, ← hlater, List.getElem?_append_left hplace]
  exact hm

theorem WellFormed.of_catalog (h : ms.WellFormed) {catalog : Catalog}
    (hgrows : ms.catalog.Grows catalog) (hcatalog : catalog.WellFormed) :
    WellFormed { ms with catalog } where
  id := h.id
  parent := h.parent
  mapping hm number hnumber := by
    obtain ⟨c, hc⟩ := Option.isSome_iff_exists.mp (h.mapping hm number hnumber)
    exact Option.isSome_of_eq_some (hgrows.find? hc)
  catalog := hcatalog

/-- A further class may stand below a class that is there. -/
theorem WellFormed.append (h : ms.WellFormed) (hid : m.id = ms.list.length)
    (hparent : m.ancestors = [] ∨ ∃ parent, ms.get? parent.id = some parent ∧ m.Extends parent)
    (hmapping : ∀ number ∈ m.mapping, (ms.catalog.find? number).isSome) :
    WellFormed { ms with list := ms.list ++ [m] } := by
  have hgrows : ms.Grows { ms with list := ms.list ++ [m] } :=
    ⟨List.prefix_append _ _, .refl _⟩
  have hcases {place : Nat} {c : Model} (hc : (ms.list ++ [m])[place]? = some c) :
      ms.get? place = some c ∨ place = ms.list.length ∧ c = m := by
    by_cases hplace : place < ms.list.length
    · rw [List.getElem?_append_left hplace] at hc
      exact .inl hc
    · rw [List.getElem?_append_right (Nat.not_lt.mp hplace), List.getElem?_singleton] at hc
      split at hc
      · next hlast => exact .inr ⟨by omega, (Option.some.inj hc).symm⟩
      · cases hc
  constructor
  · intro place c hc
    rcases hcases hc with hold | ⟨rfl, rfl⟩
    · exact h.id hold
    · exact hid
  · intro place c hc
    have hbelow : c.ancestors = [] ∨
        ∃ parent, ms.get? parent.id = some parent ∧ c.Extends parent := by
      rcases hcases hc with hold | ⟨rfl, rfl⟩
      · exact h.parent hold
      · exact hparent
    exact hbelow.imp_right fun ⟨parent, hp, hextends⟩ => ⟨parent, hgrows.get? hp, hextends⟩
  · intro place c hc
    rcases hcases hc with hold | ⟨rfl, rfl⟩
    · exact h.mapping hold
    · exact hmapping
  · exact h.catalog

/-- A plan places its class in the catalog, and gives it a number there if it is to be mapped. -/
theorem WellFormed.exists_place (h : ms.WellFormed) (plan : ModelPlan) (parent : Option Model) :
    ∃ catalog, (ms.place plan parent).2 = { ms with catalog } ∧ ms.catalog.Grows catalog ∧
      catalog.WellFormed ∧ ∀ mapping, (ms.place plan parent).1 = .ok mapping →
        mapping.isSome = (plan.mappingPlan? parent).isSome ∧
          ∀ number ∈ mapping, (catalog.find? number).isSome := by
  unfold Models.place
  cases hplan : plan.mappingPlan? parent with
  | none =>
      refine ⟨ms.catalog, rfl, .refl _, h.catalog, ?_⟩
      rintro mapping hmapping
      obtain rfl := Except.ok.inj hmapping
      exact ⟨rfl, nofun⟩
  | some mapping =>
      let parentClass := parent.bind Model.mapping
      refine ⟨(ms.catalog.place mapping plan.name parentClass).2, rfl,
        ms.catalog.grows_place mapping plan.name parentClass,
        h.catalog.place mapping plan.name parentClass, ?_⟩
      intro number hnumber
      obtain ⟨id, hid, rfl⟩ := map_eq_ok.mp hnumber
      refine ⟨rfl, fun other hother => ?_⟩
      obtain rfl := Option.some.inj hother
      exact Catalog.isSome_place hid

/-- Creation leaves the models, or puts one behind them that has no finders yet. -/
theorem WellFormed.exists_add (h : ms.WellFormed) (plan : ModelPlan) :
    ∃ catalog, ms.catalog.Grows catalog ∧ catalog.WellFormed ∧
      ((ms.add plan).2 = { ms with catalog } ∨
        ∃ parent mapping, parent = plan.parent.bind ms.get? ∧
          (ms.add plan).2 =
            ⟨ms.list ++ [plan.create ms.list.length parent mapping], catalog⟩ ∧
          mapping.isSome = (plan.mappingPlan? parent).isSome ∧
          ∀ number ∈ mapping, (catalog.find? number).isSome) := by
  unfold Models.add
  split
  · exact ⟨ms.catalog, .refl _, h.catalog, .inl rfl⟩
  · obtain ⟨catalog, hplaced, hgrows, hcatalog, hmapped⟩ :=
      h.exists_place plan (plan.parent.bind ms.get?)
    refine ⟨catalog, hgrows, hcatalog, ?_⟩
    dsimp only
    rw [hplaced]
    cases hresult : (ms.place plan (plan.parent.bind ms.get?)).1 with
    | error e => exact .inl rfl
    | ok mapping => exact .inr ⟨_, mapping, rfl, rfl, hmapped mapping hresult⟩

theorem WellFormed.grows_add (h : ms.WellFormed) (plan : ModelPlan) :
    ms.Grows (ms.add plan).2 := by
  obtain ⟨catalog, hgrows, -, hadd | ⟨parent, mapping, -, hadd, -⟩⟩ := h.exists_add plan
  · exact hadd ▸ ⟨List.prefix_rfl, hgrows⟩
  · exact hadd ▸ ⟨List.prefix_append _ _, hgrows⟩

/-- A class that is created below another one extends it. -/
theorem extends_create {plan : ModelPlan} {parent : Model} {place : Nat} {mapping : Option Nat}
    (hlater : parent.id < place)
    (hmapping : mapping.isSome = (plan.mappingPlan? (some parent)).isSome) :
    (plan.create place (some parent) mapping).Extends parent where
  ancestors := rfl
  later := hlater
  offersFinders := rfl
  mapping := by
    rw [ModelPlan.create, hmapping, ModelPlan.mappingPlan?]
    cases parent.mapping <;> rfl

theorem WellFormed.add (h : ms.WellFormed) (plan : ModelPlan) : (ms.add plan).2.WellFormed := by
  obtain ⟨catalog, hgrows, hcatalog, hadd | ⟨parent, mapping, hparent, hadd, hmapped, hnumber⟩⟩ :=
    h.exists_add plan
  · exact hadd ▸ h.of_catalog hgrows hcatalog
  · rw [hadd]
    refine (h.of_catalog hgrows hcatalog).append rfl ?_ hnumber
    cases parent with
    | none => exact .inl rfl
    | some p =>
        obtain ⟨place, -, hplace⟩ := Option.bind_eq_some_iff.mp hparent.symm
        have hlater : p.id < ms.list.length :=
          (List.getElem?_eq_some_iff.mp (h.get?_id hplace)).1
        exact .inr ⟨p, h.get?_id hplace, extends_create hlater hmapped⟩

end Models

end NamedQuery
