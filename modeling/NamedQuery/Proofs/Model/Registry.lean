import NamedQuery.Proofs.Model.Moves

/-!
# Finders of classes

A finder is kept in two places: in the table of the class it was defined on, and among the
attributes of that class, where classes further below find it, too.  Whatever moves the models make,
both places hold the same finder under a name, and it is the one that was attached last.
-/

namespace NamedQuery.Models

/-- The finder with a name that a class has got last. -/
def latest? (made : Made) (id : Nat) (name : String) : Option Finder :=
  (made.reverse.find? fun e => id = e.1 ∧ name = e.2.name).map Prod.snd

theorem latest?_append_singleton (made : Made) (owner : Nat) (f : Finder) (id : Nat)
    (name : String) :
    latest? (made ++ [(owner, f)]) id name =
      if id = owner ∧ name = f.name then some f else latest? made id name := by
  rw [latest?, List.reverse_append, List.reverse_singleton, List.singleton_append, List.find?_cons]
  by_cases h : id = owner ∧ name = f.name
  · rw [decide_eq_true h, if_pos h, Option.map_some]
  · rw [decide_eq_false h, if_neg h, latest?]

theorem name_latest? {made : Made} {id : Nat} {name : String} {f : Finder}
    (hf : latest? made id name = some f) : f.name = name := by
  obtain ⟨e, he, rfl⟩ := Option.map_eq_some_iff.mp hf
  have hmatch := List.find?_some he
  exact (of_decide_eq_true hmatch).2.symm

variable {ms ms' : Models} {made later : Made} {m : Model} {f : Finder} {name : String}

/-- The tables of finders, the attributes of classes and what was attached agree. -/
structure Coherent (ms : Models) (made : Made) : Prop where
  known : ∀ e ∈ made, e.1 < ms.list.length
  latest : ∀ {place m}, ms.get? place = some m → ∀ name,
    m.finders.lookup name = latest? made place name
  own : ∀ {place m}, ms.get? place = some m → ∀ name f,
    ms.ownMember? m name = some (.finder f) ↔ m.finders.lookup name = some f

theorem coherent_empty : Coherent empty [] := ⟨nofun, nofun, nofun⟩

/-! ## What classes have themselves -/

theorem isFree_column? {member : Member} (hcolumn : ms.column? m name = some member) :
    isFree (some member) = false := by
  obtain ⟨c, -, hc⟩ := Option.bind_eq_some_iff.mp hcolumn
  obtain ⟨p, -, hp⟩ := Option.bind_eq_some_iff.mp hc
  split at hp
  · exact Option.some.inj hp ▸ rfl
  · exact Option.some.inj hp ▸ rfl

theorem isFree_eq_false {member : Member} :
    isFree (some member) = false ↔ (∀ f, member ≠ .finder f) ∧ member ≠ .value .null := by
  cases member with
  | finder f => simp [isFree]
  | value v => cases v <;> simp [isFree]
  | _ => simp [isFree]

theorem ownMember?_eq_finder :
    ms.ownMember? m name = some (.finder f) ↔
      ms.column? m name = none ∧ m.member? name = some (.finder f) := by
  rw [ownMember?]
  cases hcolumn : ms.column? m name with
  | none => simp
  | some member =>
      have hmember : member ≠ .finder f := by
        rintro rfl
        cases isFree_column? hcolumn
      simp [hmember]

/-- The nearest class that has a name is the class itself, if it has it. -/
theorem attribute?_of_own {member : Member} (hown : ms.ownMember? m name = some member) :
    ms.attribute? m name = some member := by
  rw [attribute?_eq, inherited?, chain, List.findSome?_cons, hown]
  rfl

theorem column?_of_isFree (hfree : isFree (ms.attribute? m name) = true) :
    ms.column? m name = none := by
  cases hcolumn : ms.column? m name with
  | none => rfl
  | some member =>
      have hown : ms.ownMember? m name = some member := by
        rw [ownMember?, hcolumn]
        rfl
      rw [attribute?_of_own hown, isFree_column? hcolumn] at hfree
      cases hfree

/-- What a class has itself once a finder was attached to it. -/
theorem ownMember?_attach_eq (hfree : isFree (ms.attribute? m f.name) = true) (name : String) :
    ms.ownMember? (m.attach f) name =
      if name = f.name then some (.finder f) else ms.ownMember? m name := by
  split
  · next hname =>
    subst hname
    have hcolumn : ms.column? (m.attach f) f.name = none := column?_of_isFree (m := m) hfree
    refine ownMember?_eq_finder.mpr ⟨hcolumn, ?_⟩
    rw [Model.member?, Model.attach, Entries.lookup_assign, if_pos rfl]
  · next hname => exact ownMember?_attach hname

theorem lookup_finders_attach (m : Model) (f : Finder) (name : String) :
    (m.attach f).finders.lookup name = if name = f.name then some f else m.finders.lookup name :=
  Entries.lookup_assign m.finders f.name f name

/-- A plan gives a class no finders. -/
theorem member?_create (plan : ModelPlan) (id : Nat) (parent : Option Model)
    (mapping : Option Nat) (name : String) (f : Finder) :
    (plan.create id parent mapping).member? name ≠ some (.finder f) := by
  intro hmember
  obtain ⟨before, behind, hmembers, -⟩ := List.lookup_eq_some_iff.mp hmember
  have hmem : (name, Member.finder f) ∈ plan.members mapping.isSome := by
    change plan.members mapping.isSome = _ at hmembers
    simp [hmembers]
  simp only [ModelPlan.members, List.mem_append, List.mem_map, Option.mem_toList] at hmem
  rcases hmem with ((⟨e, -, he⟩ | hbackend) | hrule) | hdeclared
  · cases he
  · split at hbackend <;> simp at hbackend
  · simp at hrule
  · split at hdeclared
    · cases hdeclared
    · obtain ⟨e, -, he⟩ := List.mem_map.mp hdeclared
      cases he

/-! ## Moves -/

theorem latest?_of_known {made : Made} {bound id : Nat} (hknown : ∀ e ∈ made, e.1 < bound)
    (hid : bound ≤ id) (name : String) : latest? made id name = none := by
  rw [latest?, Option.map_eq_none_iff, List.find?_eq_none]
  intro e he hmatch
  have hearlier := hknown e (List.mem_reverse.mp he)
  have hsame := (of_decide_eq_true hmatch).1
  omega

/-- Classes that come later without finders leave everything in agreement. -/
theorem Coherent.of_grows (h : Coherent ms made) (hsound : ms.WellFormed) (hgrows : ms.Grows ms')
    (hnew : ∀ {place m}, ms'.get? place = some m → ms.list.length ≤ place →
      m.finders = [] ∧ ∀ name f, m.member? name ≠ some (.finder f)) : Coherent ms' made := by
  have hcases {place : Nat} {m : Model} (hm : ms'.get? place = some m) :
      ms.get? place = some m ∨ ms.list.length ≤ place := by
    by_cases hplace : place < ms.list.length
    · have hold : ms.get? place = some ms.list[place] := List.getElem?_eq_getElem hplace
      exact .inl (hold.trans ((hgrows.get? hold).symm.trans hm))
    · exact .inr (Nat.not_lt.mp hplace)
  constructor
  · exact fun e he => Nat.lt_of_lt_of_le (h.known e he) hgrows.list.length_le
  · intro place m hm name
    rcases hcases hm with hold | hlater
    · exact h.latest hold name
    · rw [(hnew hm hlater).1, latest?_of_known h.known hlater, List.lookup_nil]
  · intro place m hm name f
    rcases hcases hm with hold | hlater
    · rw [hsound.ownMember?_of_grows hgrows (hsound.get?_id hold)]
      exact h.own hold name f
    · obtain ⟨hfinders, hmembers⟩ := hnew hm hlater
      rw [ownMember?_eq_finder, hfinders]
      simp [hmembers]

theorem Coherent.add (h : Coherent ms made) (hsound : ms.WellFormed) (plan : ModelPlan) :
    Coherent (ms.add plan).2 made := by
  refine h.of_grows hsound (hsound.grows_add plan) ?_
  intro place m hm hlater
  obtain ⟨catalog, -, -, hadd | ⟨parent, mapping, -, hadd, -⟩⟩ := hsound.exists_add plan
  · rw [hadd] at hm
    have hplace : place < ms.list.length := (List.getElem?_eq_some_iff.mp hm).1
    omega
  · rw [hadd, get?, List.getElem?_append_right hlater, List.getElem?_singleton] at hm
    split at hm
    · obtain rfl := Option.some.inj hm
      exact ⟨rfl, member?_create plan _ parent mapping⟩
    · cases hm

theorem Coherent.change (h : Coherent ms made) (hm : ms.get? m.id = some m)
    (backend : Option FixedBackend) : Coherent (ms.replace { m with backend }) made := by
  have hlength : (ms.replace { m with backend }).list.length = ms.list.length := List.length_set ..
  constructor
  · exact hlength ▸ h.known
  · intro place c hc name
    rw [get?_replace hm (alike_change m backend).id] at hc
    split at hc
    · next hplace =>
      subst hplace
      obtain rfl := Option.some.inj hc
      exact h.latest hm name
    · exact h.latest hc name
  · intro place c hc name f
    rw [get?_replace hm (alike_change m backend).id] at hc
    split at hc
    · obtain rfl := Option.some.inj hc
      exact h.own hm name f
    · exact h.own hc name f

theorem Coherent.attach (h : Coherent ms made) (hm : ms.get? m.id = some m)
    (hfree : isFree (ms.attribute? m f.name) = true) :
    Coherent (ms.replace (m.attach f)) (made ++ [(m.id, f)]) := by
  have hlength : (ms.replace (m.attach f)).list.length = ms.list.length := List.length_set ..
  constructor
  · intro e he
    rw [hlength]
    rcases List.mem_append.mp he with hold | hnew
    · exact h.known e hold
    · rw [List.mem_singleton.mp hnew]
      exact (List.getElem?_eq_some_iff.mp hm).1
  · intro place c hc name
    rw [get?_replace hm (m.alike_attach f).id] at hc
    rw [latest?_append_singleton]
    split at hc
    · next hplace =>
      obtain rfl := Option.some.inj hc
      rw [lookup_finders_attach, h.latest hm, hplace]
      simp
    · next hplace =>
      rw [if_neg fun hsame => hplace hsame.1]
      exact h.latest hc name
  · intro place c hc name g
    rw [get?_replace hm (m.alike_attach f).id] at hc
    split at hc
    · obtain rfl := Option.some.inj hc
      have hown : (ms.replace (m.attach f)).ownMember? (m.attach f) name =
        ms.ownMember? (m.attach f) name := rfl
      rw [hown, ownMember?_attach_eq hfree, lookup_finders_attach]
      split
      · simp
      · exact h.own hm name g
    · exact h.own hc name g

theorem Coherent.move (h : Coherent ms made) (hsound : ms.WellFormed)
    (hmove : Move ms later ms') : Coherent ms' (made ++ later) := by
  cases hmove with
  | add plan => exact (List.append_nil made).symm ▸ h.add hsound plan
  | change hm backend => exact (List.append_nil made).symm ▸ h.change hm backend
  | attach hm hfree => exact h.attach hm hfree

/-- Whatever moves are made, finders and attributes stay in agreement. -/
theorem Coherent.moves (h : Coherent ms made) (hsound : ms.WellFormed)
    (hmoves : Moves ms later ms') : Coherent ms' (made ++ later) := by
  induction hmoves generalizing made with
  | refl ms => exact (List.append_nil made).symm ▸ h
  | step hmove hmoves ih =>
      rw [← List.append_assoc]
      exact ih (h.move hsound hmove) (hmove.wellFormed hsound)

/-! ## Reading -/

def isFinder : Member → Bool
  | .finder _ => true
  | _ => false

theorem lookup_ne_finder {entries : List (String × Member)}
    (hentries : entries.all (fun e => !isFinder e.2) = true) (name : String) (f : Finder) :
    entries.lookup name ≠ some (.finder f) := by
  intro hlookup
  obtain ⟨before, behind, rfl, -⟩ := List.lookup_eq_some_iff.mp hlookup
  simp [isFinder] at hentries

theorem lookup_offered_ne_finder (ms : Models) (m : Model) (name : String) (f : Finder) :
    (m.offered ++ ms.ofMapping m).lookup name ≠ some (.finder f) := by
  refine lookup_ne_finder ?_ name f
  have hoffered : m.offered.all (fun e => !isFinder e.2) = true := by
    rw [Model.offered]
    cases m.offersFinders <;> cases m.prefetches <;> rfl
  have hmapping : (ms.ofMapping m).all (fun e => !isFinder e.2) = true := by
    rw [ofMapping]
    cases ms.mappedClass? m with
    | none => rfl
    | some c =>
        dsimp only
        cases ((ms.catalog.tableOf c).map Table.shape).getD .plain <;> rfl
  rw [List.all_append, hoffered, hmapping, Bool.and_true]

theorem innate?_ne_finder (ms : Models) (m : Model) (name : String) (f : Finder) :
    ms.innate? m name ≠ some (.finder f) := by
  have hnatural : (ms.natural m).lookup name ≠ some (.finder f) := lookup_ne_finder rfl name f
  have hoffered := lookup_offered_ne_finder ms m name f
  rw [innate?]
  cases hlookup : (m.offered ++ ms.ofMapping m).lookup name with
  | none => exact hnatural
  | some member =>
      rw [hlookup] at hoffered
      exact hoffered

/-- The nearest class of a chain that has anything under a name has this finder. -/
def NearestFinder (ms : Models) (m : Model) (name : String) (f : Finder) : Prop :=
  ∃ nearer owner farther, ms.chain m = nearer ++ owner :: farther ∧
    (∀ c ∈ nearer, ms.ownMember? c name = none) ∧ owner.finders.lookup name = some f

/-- A class reads the finder of the nearest class that has anything under the name. -/
theorem Coherent.inherited?_eq_finder (h : Coherent ms made) (hsound : ms.WellFormed)
    (hm : ms.get? m.id = some m) :
    ms.inherited? m name = some (.finder f) ↔ ms.NearestFinder m name f := by
  rw [inherited?, List.findSome?_eq_some_iff]
  constructor
  · rintro ⟨nearer, owner, farther, hchain, hown, hnone⟩
    have howner : owner ∈ ms.chain m := by simp [hchain]
    exact ⟨nearer, owner, farther, hchain, hnone,
      (h.own (hsound.get?_of_mem_chain hm howner) name f).mp hown⟩
  · rintro ⟨nearer, owner, farther, hchain, hnone, hfinder⟩
    have howner : owner ∈ ms.chain m := by simp [hchain]
    exact ⟨nearer, owner, farther, hchain,
      (h.own (hsound.get?_of_mem_chain hm howner) name f).mpr hfinder, hnone⟩

theorem attribute?_eq_finder :
    ms.attribute? m name = some (.finder f) ↔ ms.inherited? m name = some (.finder f) := by
  rw [attribute?_eq]
  cases ms.inherited? m name with
  | none => simp [innate?_ne_finder]
  | some member => simp

theorem sharedAttribute?_eq_finder :
    ms.sharedAttribute? m name = some (.finder f) ↔ ms.inherited? m name = some (.finder f) := by
  rw [sharedAttribute?, map_source?]
  cases ms.inherited? m name with
  | none => simp [lookup_offered_ne_finder]
  | some member => simp

/-- An instance reads the finder that its class reads, unless it holds its type under the name. -/
theorem instanceAttribute?_eq_finder :
    ms.instanceAttribute? m name = .ok (some (.finder f)) ↔
      ms.typeHeld? m name = none ∧ ms.inherited? m name = some (.finder f) := by
  rw [← sharedAttribute?_eq_finder, instanceAttribute?]
  cases hshared : ms.sharedAttribute? m name with
  | none =>
      dsimp only
      split <;> simp
  | some member =>
      cases htype : ms.typeHeld? m name with
      | none => cases member <;> simp [onInstance, htype, Except.map]
      | some identity => cases member <;> simp [onInstance, htype, Except.map]

/-- An instance that holds its type under a name reads this even where its class reads a finder. -/
theorem instanceAttribute?_of_typeHeld? {identity : Value}
    (htype : ms.typeHeld? m name = some identity)
    (hfinder : ms.inherited? m name = some (.finder f)) :
    ms.instanceAttribute? m name = .ok (some (.value identity)) := by
  rw [instanceAttribute?, sharedAttribute?_eq_finder.mpr hfinder]
  simp [onInstance, htype, Except.map]

end NamedQuery.Models
