import NamedQuery.Proofs.Mapping.Sources

/-!
# What placing a class does

Placing a class gets it a table, then a source, then its properties.  It can fail at each of these
stages.  What becomes of the catalog is told here once for all of them: the class is refused and at
most tables were prepared, or it is seated behind the others, complete or bare.
-/

namespace NamedQuery

/-- Tables may have come or grown, and classes have not. -/
structure Catalog.Prepares (old new : Catalog) : Prop where
  classes : new.classes = old.classes
  widens : old.tables.Widens new.tables
  sound : old.tables.Sound → new.tables.Sound

theorem Catalog.Prepares.refl (c : Catalog) : Prepares c c := ⟨rfl, .refl _, id⟩

theorem Catalog.Prepares.trans {a b c : Catalog} (hab : Prepares a b) (hbc : Prepares b c) :
    Prepares a c :=
  ⟨hbc.classes.trans hab.classes, hab.widens.trans hbc.widens, hbc.sound ∘ hab.sound⟩

namespace Placing

variable {α β : Type} {catalog : Catalog}

/-! ## Steps -/

/-- A second part goes on from the catalog that the first one has left, unless this one failed. -/
theorem run_bind (p : Placing α) (next : α → Placing β) (catalog : Catalog) :
    (p >>= next).run.run catalog =
      match p.run.run catalog with
      | (.ok a, later) => (next a).run.run later
      | (.error e, later) => (.error e, later) := by
  rw [ExceptT.run_bind, StateT.run_bind]
  rcases p.run.run catalog with ⟨e | a, later⟩ <;> rfl

theorem run_get_bind (next : Catalog → Placing α) (catalog : Catalog) :
    (get >>= next).run.run catalog = (next catalog).run.run catalog :=
  rfl

theorem run_set_bind (new : Catalog) (next : PUnit → Placing α) (catalog : Catalog) :
    (set new >>= next).run.run catalog = (next ⟨⟩).run.run new :=
  rfl

/-- From this catalog the steps prepare tables at most, also if they fail, and a result of theirs
has a property in the catalog that they leave. -/
structure Readies (p : Placing α) (catalog : Catalog) (post : Catalog → α → Prop) : Prop where
  prepares : catalog.Prepares (p.run.run catalog).2
  result : ∀ a, (p.run.run catalog).1 = .ok a → post (p.run.run catalog).2 a

theorem readies_pure {post : Catalog → α → Prop} {a : α} (hpost : post catalog a) :
    Readies (pure a) catalog post :=
  ⟨.refl catalog, fun _ ha => Except.ok.inj ha ▸ hpost⟩

theorem readies_throw (e : Error) (post : Catalog → α → Prop) : Readies (throw e) catalog post :=
  ⟨.refl catalog, nofun⟩

theorem readies_throw_bind (e : Error) (next : α → Placing β) (post : Catalog → β → Prop) :
    Readies (throw e >>= next) catalog post :=
  ⟨.refl catalog, nofun⟩

theorem readies_get_bind {next : Catalog → Placing β} {post : Catalog → β → Prop}
    (hnext : Readies (next catalog) catalog post) : Readies (get >>= next) catalog post :=
  ⟨hnext.prepares, hnext.result⟩

theorem readies_set_bind {new : Catalog} (hnew : catalog.Prepares new)
    {next : PUnit → Placing β} {post : Catalog → β → Prop} (hnext : Readies (next ⟨⟩) new post) :
    Readies (set new >>= next) catalog post :=
  ⟨hnew.trans hnext.prepares, hnext.result⟩

theorem Readies.bind {p : Placing α} {next : α → Placing β} {middle : Catalog → α → Prop}
    {post : Catalog → β → Prop} (hp : Readies p catalog middle)
    (hnext : ∀ later a, catalog.Prepares later → middle later a → Readies (next a) later post) :
    Readies (p >>= next) catalog post := by
  obtain ⟨hprepares, hresult⟩ := hp
  have hrun := run_bind p next catalog
  rcases hfirst : p.run.run catalog with ⟨e | a, later⟩
  · rw [hfirst] at hrun hprepares
    exact ⟨hrun ▸ hprepares, by rw [hrun]; exact nofun⟩
  · rw [hfirst] at hrun hprepares hresult
    have hthen := hnext later a hprepares (hresult a rfl)
    exact ⟨hrun ▸ hprepares.trans hthen.prepares, by rw [hrun]; exact hthen.result⟩

/-! ## Tables -/

/-- The table exists and has the columns that a plan declares. -/
structure Offers (ts : Tables) (plan : MappingPlan) (number : Nat) : Prop where
  lt : number < ts.list.length
  declared : ∀ e ∈ plan.declared, ts.Has ⟨number, e.2⟩

/-- The table of a class together with its lineage: a class below another one shares the table of
that one, and every other class has a new table. -/
inductive Seat (old : Tables) (parent : Option MappedClass) : Nat → Lineage → Prop where
  | root {number : Nat} (hnew : number = old.list.length) : Seat old parent number .root
  | joined {p : MappedClass} {number : Nat} (hparent : parent = some p)
      (hnew : number = old.list.length) : Seat old parent number (.joined p.id)
  | concrete {p : MappedClass} {number : Nat} (hparent : parent = some p)
      (hnew : number = old.list.length) : Seat old parent number (.concrete p.id)
  | sharing {p : MappedClass} (hparent : parent = some p) : Seat old parent p.table (.sharing p.id)

theorem Seat.number_eq {old : Tables} {parent : Option MappedClass} {number : Nat}
    {lineage : Lineage} (h : Seat old parent number lineage) (hown : lineage.isSharing = false) :
    number = old.list.length := by
  cases h with
  | root hnew => exact hnew
  | joined _ hnew => exact hnew
  | concrete _ hnew => exact hnew
  | sharing => cases hown

/-- The table is new and has what the plan needs. -/
def Founds (old : Tables) (plan : MappingPlan) (later : Catalog) (number : Nat) : Prop :=
  number = old.list.length ∧ Offers later.tables plan number

theorem readies_register (t : Table) :
    Readies (register t) catalog fun later number =>
      number = catalog.tables.list.length ∧ later.tables.list = catalog.tables.list ++ [t] := by
  refine readies_get_bind ?_
  rw [Tables.register]
  split
  · next hregister =>
    split at hregister
    · cases hregister
    · split at hregister
      · cases hregister
      · obtain rfl := Except.ok.inj hregister
        have hwidens := catalog.tables.widens_append t
        have hprepares : catalog.Prepares
            { catalog with tables := { catalog.tables with list := catalog.tables.list ++ [t] } } :=
          ⟨rfl, hwidens, fun h => h.of_joins_eq hwidens rfl⟩
        refine readies_set_bind hprepares ?_
        exact readies_pure ⟨rfl, rfl⟩
  · exact readies_throw _ _

/-- A table that is registered offers what it was given for a plan. -/
theorem founds_of_register {t : Table} {plan : MappingPlan} {later : Catalog} {number : Nat}
    (hcolumns : ∀ e ∈ plan.declared, e.2 ∈ t.columns)
    (h : number = catalog.tables.list.length ∧ later.tables.list = catalog.tables.list ++ [t]) :
    Founds catalog.tables plan later number := by
  obtain ⟨hnumber, hlist⟩ := h
  have hplace : later.tables.list[number]? = some t := by simp [hlist, hnumber]
  exact ⟨hnumber, by simp [hlist, hnumber], fun e he => ⟨t, hplace, hcolumns e he⟩⟩

theorem readies_plainTable (plan : MappingPlan) (schema : Option String) (name : String)
    (reference : Option Column) :
    Readies (plainTable plan schema name reference) catalog (Founds catalog.tables plan) := by
  have hregister : Readies (plainTable plan schema name reference) catalog fun later number =>
      number = catalog.tables.list.length ∧ later.tables.list = catalog.tables.list ++ [{
        schema, name, shape := .plain
        columns := plan.declared.map Prod.snd
        key := plan.key
        reference := if plan.key.isSome then reference else none }] := readies_register _
  exact ⟨hregister.prepares, fun number hnumber =>
    founds_of_register (fun e he => List.mem_map_of_mem he) (hregister.result number hnumber)⟩

/-- A join or a subquery has no column of its own for a plan. -/
theorem readies_compound {plan : MappingPlan} {name : String} {joins : Bool}
    (hstyle : plan.style = .compound name joins) :
    Readies (compound plan name joins) catalog (Founds catalog.tables plan) := by
  refine (readies_register _).bind ?_
  intro later number _ hfound
  split
  · exact readies_throw _ _
  · next hnone =>
    refine readies_pure (founds_of_register ?_ hfound)
    simp [MappingPlan.declared, MappingPlan.usualNames, hnone, hstyle]

theorem readies_referred (parent : MappedClass) :
    Readies (referred parent) catalog fun later _ => later = catalog := by
  refine readies_get_bind ?_
  split
  · split
    · exact readies_throw _ _
    · exact readies_pure rfl
  · exact readies_pure rfl

theorem readies_shared {plan : MappingPlan} (hstyle : plan.style = .sharing) (name : String)
    (parent : MappedClass) :
    Readies (shared plan name parent) catalog fun later number => number = parent.table ∧
      (parent.table < catalog.tables.list.length → Offers later.tables plan parent.table) := by
  have hdeclared : plan.declared =
      (plan.discriminator.map fun d => (d.member, d.column)).toList := by
    simp only [MappingPlan.declared, MappingPlan.usualNames, hstyle, List.map_nil]
    cases plan.discriminator <;> rfl
  refine readies_get_bind ?_
  split
  · next d t hd _ =>
    dsimp only
    split
    · exact readies_throw_bind _ _ _
    · split
      · exact readies_throw_bind _ _ _
      · have hcolumn := catalog.tables.widens_addColumn parent.table d.column
        have hfresh := (catalog.tables.addColumn parent.table d.column).widens_refreshed
          parent.source
        have hprepares : catalog.Prepares
            { catalog with
              tables := (catalog.tables.addColumn parent.table d.column).refreshed
                parent.source } :=
          ⟨rfl, hcolumn.trans hfresh, fun h => (h.of_joins_eq hcolumn rfl).refresh _ _⟩
        refine readies_set_bind hprepares ?_
        refine readies_pure ⟨rfl, fun htable => ?_⟩
        refine ⟨Nat.lt_of_lt_of_le htable hprepares.widens.length_le, ?_⟩
        rw [hdeclared, hd]
        exact List.forall_mem_singleton.mpr
          (hfresh.has (Tables.has_addColumn (.inr ⟨rfl, htable⟩)))
  · next hnone =>
    refine readies_pure ⟨rfl, fun htable => ⟨htable, ?_⟩⟩
    cases hd : plan.discriminator with
    | none =>
        rw [hdeclared, hd]
        exact List.forall_mem_nil _
    | some d => exact absurd (List.getElem?_eq_getElem htable) (hnone d _ hd)

theorem readies_table (catalog : Catalog) (plan : MappingPlan) (name : String)
    (parent : Option MappedClass) :
    Readies (table plan name parent) catalog fun later place =>
      Seat catalog.tables parent place.1 place.2 ∧
        ((∀ p ∈ parent, p.table < catalog.tables.list.length) →
          Offers later.tables plan place.1) := by
  have hbehind {p : Placing Nat} {catalog : Catalog} (lineage : Lineage)
      (hp : Readies p catalog (Founds catalog.tables plan))
      (hseat : Seat catalog.tables parent catalog.tables.list.length lineage) :
      Readies (p >>= fun number => pure (number, lineage)) catalog fun later place =>
        Seat catalog.tables parent place.1 place.2 ∧
          ((∀ p ∈ parent, p.table < catalog.tables.list.length) →
            Offers later.tables plan place.1) := by
    refine hp.bind ?_
    rintro later _ - ⟨rfl, hoffers⟩
    exact readies_pure ⟨hseat, fun _ => hoffers⟩
  -- one case for each way to give a class its table, in the order of the definition
  unfold table
  split
  · next p hstyle => exact hbehind _ (readies_compound hstyle) (.joined rfl rfl)
  · next hstyle => exact hbehind _ (readies_compound hstyle) (.root rfl)
  · refine (readies_referred _).bind ?_
    rintro _ reference - rfl
    exact hbehind _ (readies_plainTable _ _ _ _) (.joined rfl rfl)
  · exact hbehind _ (readies_plainTable _ _ _ _) (.concrete rfl rfl)
  · next p hstyle =>
    refine (readies_shared hstyle name p).bind ?_
    rintro later _ - ⟨rfl, hoffers⟩
    exact readies_pure ⟨.sharing rfl, fun htable => hoffers (htable p rfl)⟩
  · exact hbehind _ (readies_plainTable _ _ _ _) (.root rfl)
  · exact hbehind _ (readies_plainTable _ _ _ _) (.root rfl)
  · exact hbehind _ (readies_plainTable _ _ _ _) (.root rfl)
  · exact readies_throw _ _

/-! ## Sources -/

/-- Where the rows of a class come from, by its lineage: from the table of its own, from the source
of the class above, or from that source joined with the table of its own. -/
inductive Stands (ts : Tables) (above : Option MappedClass) : Lineage → Nat → Source → Prop where
  | root (number : Nat) : Stands ts above .root number (.table number)
  | concrete {p : MappedClass} (habove : above = some p) (number : Nat) :
      Stands ts above (.concrete p.id) number (.table number)
  | sharing {p : MappedClass} (habove : above = some p) :
      Stands ts above (.sharing p.id) p.table p.source
  | joined {p : MappedClass} {number join : Nat} (habove : above = some p)
      (hparts : ts.parts[join]? = some (p.source, number)) :
      Stands ts above (.joined p.id) number (.join join)

/-- A class stands as it stood if tables have come or grown and the class above is the same. -/
theorem Stands.mono {old new : Tables} (hwidens : old.Widens new)
    {above above' : Option MappedClass} {lineage : Lineage} {number : Nat} {source : Source}
    (h : Stands old above lineage number source)
    (habove : ∀ p ∈ above, lineage.parent? = some p.id → above' = some p) :
    Stands new above' lineage number source := by
  cases h with
  | root => exact .root _
  | concrete hp => exact .concrete (habove _ hp rfl) _
  | sharing hp => exact .sharing (habove _ hp rfl)
  | joined hp hparts => exact .joined (habove _ hp rfl) (hwidens.parts_eq hparts)

theorem Stands.of_isSharing {ts : Tables} {above : Option MappedClass} {lineage : Lineage}
    {number : Nat} {source : Source} (h : Stands ts above lineage number source)
    (hshares : lineage.isSharing = true) :
    ∃ p, above = some p ∧ lineage = .sharing p.id ∧ number = p.table ∧ source = p.source := by
  cases h with
  | root => cases hshares
  | concrete => cases hshares
  | sharing habove => exact ⟨_, habove, rfl, rfl, rfl⟩
  | joined => cases hshares

theorem readies_source (catalog : Catalog) {old : Tables} {parent : Option MappedClass}
    {number : Nat} {lineage : Lineage} (hseat : Seat old parent number lineage) :
    Readies (source number lineage parent) catalog fun later source =>
      Stands later.tables parent lineage number source := by
  refine readies_get_bind ?_
  cases hseat with
  | root => exact readies_pure (.root _)
  | concrete hparent => exact readies_pure (.concrete hparent _)
  | sharing hparent =>
      subst hparent
      exact readies_pure (.sharing rfl)
  | @joined p _ hparent =>
      subst hparent
      dsimp only
      split
      · exact readies_throw_bind _ _ _
      · have hprepares : catalog.Prepares
            { catalog with tables := catalog.tables.addJoin p.source number } :=
          ⟨rfl, catalog.tables.widens_addJoin p.source number, fun h => h.addJoin p.source number⟩
        refine readies_set_bind hprepares ?_
        exact readies_pure (.joined rfl (catalog.tables.parts_addJoin p.source number))

/-! ## Classes -/

/-- A class before it has properties, behind the classes of a catalog the tables of which were
prepared for it. -/
structure Bare (catalog : Catalog) (plan : MappingPlan) (parent : Option MappedClass)
    (tables : Tables) (bare : MappedClass) : Prop where
  prepares : catalog.Prepares { catalog with tables }
  id : bare.id = catalog.classes.length
  properties : bare.properties = []
  typeColumn : bare.typeColumn = none
  seat : Seat catalog.tables parent bare.table bare.lineage
  stands : Stands tables parent bare.lineage bare.table bare.source
  offers : (∀ p ∈ parent, p.table < catalog.tables.list.length) → Offers tables plan bare.table

/-- What can become of placing a class: a failure after which tables were prepared at most, or a
class behind the others, which a failure has left bare or which is complete. -/
theorem cases_of_place (catalog : Catalog) (plan : MappingPlan) (name : String)
    (parent : Option Nat) :
    let placed := catalog.place plan name parent
    let above := parent.bind catalog.find?
    (catalog.Prepares placed.2 ∧ ∃ e, placed.1 = .error e) ∨
      ∃ tables bare m, Bare catalog plan above tables bare ∧
        (m = bare ∨ complete ⟨tables, catalog.classes ++ [bare]⟩ plan bare above = .ok m) ∧
        placed.2 = ⟨tables, catalog.classes ++ [m]⟩ ∧ ∀ id, placed.1 = .ok id → id = bare.id := by
  intro placed above
  obtain ⟨htables, hplace⟩ := readies_table catalog plan name above
  have hplaced : (place plan name above).run.run catalog = placed := rfl
  unfold place at hplaced
  rw [run_bind] at hplaced
  rcases hfirst : (table plan name above).run.run catalog with ⟨e | ⟨number, lineage⟩, settled⟩
  · rw [hfirst] at htables hplaced
    exact .inl (hplaced ▸ ⟨htables, e, rfl⟩)
  rw [hfirst] at htables hplace hplaced
  obtain ⟨hseat, hoffers⟩ := hplace (number, lineage) rfl
  obtain ⟨hjoins, hstands⟩ := readies_source settled hseat
  dsimp only at hplaced
  rw [run_bind] at hplaced
  rcases hthen : (source number lineage above).run.run settled with ⟨e | source, sourced⟩
  · rw [hthen] at hjoins hplaced
    exact .inl (hplaced ▸ ⟨htables.trans hjoins, e, rfl⟩)
  rw [hthen] at hjoins hstands hplaced
  have hprepares := htables.trans hjoins
  have hclasses : sourced.classes = catalog.classes := hprepares.classes
  dsimp only at hplaced
  rw [run_get_bind, run_set_bind] at hplaced
  -- from here on only what is known of the bare class counts
  generalize hbody : ({ id := sourced.classes.length, .. } : MappedClass) = bare at hplaced
  have hbare : Bare catalog plan above sourced.tables bare := by
    subst hbody
    refine ⟨⟨rfl, hprepares.widens, hprepares.sound⟩, congrArg List.length hclasses, rfl, rfl,
      hseat, hstands source rfl, ?_⟩
    intro hparent
    obtain ⟨hlt, hdeclared⟩ := hoffers hparent
    exact ⟨Nat.lt_of_lt_of_le hlt hjoins.widens.length_le,
      fun e he => hjoins.widens.has (hdeclared e he)⟩
  rw [hclasses] at hplaced
  cases hm : complete ⟨sourced.tables, catalog.classes ++ [bare]⟩ plan bare above with
  | error e =>
      rw [hm] at hplaced
      exact .inr ⟨sourced.tables, bare, bare, hbare, .inl rfl, hplaced ▸ rfl,
        fun id hid => by rw [← hplaced] at hid; cases hid⟩
  | ok m =>
      rw [hm] at hplaced
      have hset : (catalog.classes ++ [bare]).set catalog.classes.length m =
          catalog.classes ++ [m] := by simp
      refine .inr ⟨sourced.tables, bare, m, hbare, .inr hm, ?_, ?_⟩
      · rw [← hplaced, ← hset]
        rfl
      · intro id hid
        rw [← hplaced] at hid
        exact (Except.ok.inj hid).symm.trans hbare.id.symm

end Placing

end NamedQuery
