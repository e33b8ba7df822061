import NamedQuery.Proofs.Session.Coherence

/-!
# Where finders come from

Every finder that a class has after a run was compiled by a definition at some moment of the run.
The class stood there under its id already, as the same mapped class if it is mapped, and the
catalog of that moment has only grown since.
-/

namespace NamedQuery

theorem Model.Alike.trans {a b c : Model} (hab : a.Alike b) (hbc : b.Alike c) : a.Alike c where
  id := hbc.id.trans hab.id
  name := hbc.name.trans hab.name
  ancestors := hbc.ancestors.trans hab.ancestors
  offersFinders := hbc.offersFinders.trans hab.offersFinders
  prefetches := hbc.prefetches.trans hab.prefetches
  mapping := hbc.mapping.trans hab.mapping

namespace Models

variable {ms ms' now : Models} {made : Made} {dialect : Dialect} {id : Nat} {f : Finder}

/-! ## What continues -/

/-- Classes stand where they stood and are what they were; those that have brought a backend along
still have one, and no others; and no mapped class is forgotten. -/
structure Continues (old new : Models) : Prop where
  stays : ∀ {place c}, old.get? place = some c → ∃ c', new.get? place = some c' ∧ c.Alike c' ∧
    c'.backend.isSome = c.backend.isSome
  catalog : old.catalog.Grows new.catalog

theorem Continues.refl (ms : Models) : Continues ms ms :=
  ⟨fun hc => ⟨_, hc, .refl _, rfl⟩, .refl _⟩

theorem Continues.trans {a b c : Models} (hab : Continues a b) (hbc : Continues b c) :
    Continues a c := by
  refine ⟨?_, hab.catalog.trans hbc.catalog⟩
  intro place old hold
  obtain ⟨between, hbetween, hfirst, hbackend⟩ := hab.stays hold
  obtain ⟨new, hnew, hthen, hbackend'⟩ := hbc.stays hbetween
  exact ⟨new, hnew, hfirst.trans hthen, hbackend'.trans hbackend⟩

theorem continues_of_grows (hgrows : ms.Grows ms') : Continues ms ms' :=
  ⟨fun hc => ⟨_, hgrows.get? hc, .refl _, rfl⟩, hgrows.catalog⟩

theorem continues_replace {m m' : Model} (hm : ms.get? m.id = some m) (halike : m.Alike m')
    (hbackend : m'.backend.isSome = m.backend.isSome) : Continues ms (ms.replace m') := by
  refine ⟨?_, .refl _⟩
  intro place c hc
  rw [get?_replace hm halike.id]
  split
  · next heq =>
    obtain rfl := Option.some.inj (hm.symm.trans (heq ▸ hc))
    exact ⟨m', rfl, halike, hbackend⟩
  · exact ⟨c, hc, .refl c, rfl⟩

theorem continues_define {m : Model} (hm : ms.get? m.id = some m) (here : Surroundings)
    (name arity : Value) (options : GivenOptions) :
    Continues ms (ms.define here m name arity options).2 := by
  cases hresult : (ms.define here m name arity options).1.result with
  | error e =>
      rw [define_of_error hresult]
      exact .refl ms
  | ok f =>
      rw [(define_of_ok hresult).1]
      exact continues_replace hm (Model.alike_attach m f) rfl

theorem WellFormed.define (h : ms.WellFormed) {m : Model} (hm : ms.get? m.id = some m)
    (here : Surroundings) (name arity : Value) (options : GivenOptions) :
    (ms.define here m name arity options).2.WellFormed := by
  cases hresult : (ms.define here m name arity options).1.result with
  | error e =>
      rw [define_of_error hresult]
      exact h
  | ok f =>
      rw [(define_of_ok hresult).1]
      exact h.replace hm (Model.alike_attach m f)

theorem WellFormed.continues_meet (h : ms.WellFormed) (here : Surroundings)
    (demands : List Demand) : Continues ms (ms.meet here demands).2 := by
  induction demands generalizing ms with
  | nil => exact .refl ms
  | cons d rest ih =>
      rw [meet]
      cases hm : ms.get? d.model with
      | none => exact .refl ms
      | some m =>
          have hmodel := h.get?_id hm
          have hfirst := continues_define hmodel here d.name d.arity d.options
          have hafter := h.define hmodel here d.name d.arity d.options
          dsimp only
          cases (ms.define here m d.name d.arity d.options).1.result with
          | error e => exact hfirst
          | ok f => exact hfirst.trans (ih hafter)

/-! ## Origins -/

/-- The moment of a run at which a finder was defined on the class with an id. -/
structure Origin (now : Models) (dialect : Dialect) (id : Nat) (f : Finder) where
  /-- The models as they were. -/
  before : Models
  sound : before.WellFormed
  /-- What was attached since. -/
  since : Made
  moves : Moves before since now
  continues : Continues before now
  /-- The class as it was. -/
  definer : Model
  stands : before.get? id = some definer
  name : Value
  arity : Value
  options : GivenOptions
  /-- The settings as they were. -/
  settings : Except Error Settings
  defines : (before.define ⟨dialect, settings⟩ definer name arity options).1.result = .ok f

namespace Origin

/-- A moment stays what it was while the run goes on. -/
def later (o : Origin ms dialect id f) (hmoves : Moves ms made now)
    (hcontinues : Continues ms now) : Origin now dialect id f :=
  { o with
    since := o.since ++ made
    moves := o.moves.trans hmoves
    continues := o.continues.trans hcontinues }

variable {owner : Model}

/-- The definer was mapped as the class is now. -/
theorem mappedClass?_definer (o : Origin now dialect id f) (howner : now.get? id = some owner)
    {mapped : MappedClass} (hmapped : now.mappedClass? owner = some mapped) :
    o.before.mappedClass? o.definer = some mapped := by
  obtain ⟨owner', howner', halike, -⟩ := o.continues.stays o.stands
  obtain rfl := Option.some.inj (howner.symm.trans howner')
  obtain ⟨number, hnumber, hfound⟩ := Option.bind_eq_some_iff.mp hmapped
  rw [halike.mapping] at hnumber
  obtain ⟨earlier, hearlier⟩ :=
    Option.isSome_iff_exists.mp (o.sound.mapping o.stands number hnumber)
  have hsame : earlier = mapped :=
    Option.some.inj ((o.continues.catalog.find? hearlier).symm.trans hfound)
  rw [mappedClass?, hnumber, Option.bind_some, hearlier, hsame]

/-- A class whose chain brings no backend along had none when it defined the finder. -/
theorem fixedBackend?_definer (o : Origin now dialect id f) (howner : now.get? id = some owner)
    (hnone : ∀ c ∈ now.chain owner, c.backend = none) :
    o.before.fixedBackend? o.definer = none := by
  obtain ⟨owner', howner', halike, hbackend⟩ := o.continues.stays o.stands
  obtain rfl := Option.some.inj (howner.symm.trans howner')
  have hchain : ∀ c ∈ o.before.chain o.definer, c.backend = none := by
    intro c hc
    rw [← Option.isNone_iff_eq_none, ← Option.not_isSome]
    cases List.mem_cons.mp hc with
    | inl hself =>
        subst hself
        simp [← hbackend, hnone owner List.mem_cons_self]
    | inr habove =>
        obtain ⟨place, hplace, hstands⟩ := List.mem_filterMap.mp habove
        obtain ⟨c', hc', -, hsame⟩ := o.continues.stays hstands
        have hmem : c' ∈ now.chain owner := by
          refine List.mem_cons_of_mem _ (List.mem_filterMap.mpr ⟨place, ?_, hc'⟩)
          rw [halike.ancestors]
          exact hplace
        simp [← hsame, hnone c' hmem]
  unfold fixedBackend?
  split
  · split
    · next owner operation hsource =>
      obtain ⟨c, hc, hfound⟩ := List.exists_of_findSome?_eq_some hsource
      obtain ⟨member, -, hpair⟩ := Option.map_eq_some_iff.mp hfound
      exact (Prod.mk.inj hpair).1 ▸ hchain c hc
    · rfl
  · rfl

end Origin

/-- What demands make was defined on the way. -/
theorem WellFormed.origin_of_mem_meet (h : ms.WellFormed) (here : Surroundings)
    (demands : List Demand) :
    ∀ e ∈ (ms.meet here demands).1,
      Nonempty (Origin (ms.meet here demands).2 here.dialect e.1 e.2) := by
  induction demands generalizing ms with
  | nil => exact List.forall_mem_nil _
  | cons d rest ih =>
      have hmoves := h.moves_meet here (d :: rest)
      have hcontinues := h.continues_meet here (d :: rest)
      rw [meet] at hmoves hcontinues ⊢
      cases hm : ms.get? d.model with
      | none => exact List.forall_mem_nil _
      | some m =>
          have hmodel := h.get?_id hm
          rw [hm] at hmoves hcontinues
          dsimp only at hmoves hcontinues ⊢
          cases hresult : (ms.define here m d.name d.arity d.options).1.result with
          | error e => exact List.forall_mem_nil _
          | ok f =>
              rw [hresult] at hmoves hcontinues
              intro e he
              cases List.mem_cons.mp he with
              | inl hhere =>
                  subst hhere
                  exact ⟨⟨ms, h, _, hmoves, hcontinues, m, hmodel, d.name, d.arity, d.options,
                    here.settings, hresult⟩⟩
              | inr hlater => exact ih (h.define hmodel here d.name d.arity d.options) e hlater

theorem mem_of_latest? {name : String} (hf : latest? made id name = some f) : (id, f) ∈ made := by
  obtain ⟨e, he, rfl⟩ := Option.map_eq_some_iff.mp hf
  have hmatch := List.find?_some he
  obtain ⟨rfl, -⟩ := of_decide_eq_true hmatch
  exact List.mem_reverse.mp (List.mem_of_find?_eq_some he)

/-- A class that has something itself under a name is the nearest one that has. -/
theorem owner_of_own {m owner : Model} {nearer farther : List Model} {name : String}
    {member : Member} (hchain : ms.chain m = nearer ++ owner :: farther)
    (hnone : ∀ c ∈ nearer, ms.ownMember? c name = none)
    (hown : ms.ownMember? m name = some member) : owner = m := by
  cases nearer with
  | nil => exact (List.cons.inj hchain).1.symm
  | cons first rest =>
      have hfirst : m = first := (List.cons.inj hchain).1
      have habsent := hnone first List.mem_cons_self
      rw [← hfirst, hown] at habsent
      cases habsent

/-- If all that was attached has an origin, then a finder that a class reads was defined on the
nearest class that has anything under the name. -/
theorem exists_origin (hsound : ms.WellFormed) (hcoherent : ms.Coherent made)
    (horigins : ∀ e ∈ made, Nonempty (Origin ms dialect e.1 e.2)) {m : Model} (hm : m ∈ ms.list)
    {name : String} (hread : ms.attribute? m name = some (.finder f)) :
    ∃ nearer owner farther, ms.chain m = nearer ++ owner :: farther ∧
      (∀ c ∈ nearer, ms.ownMember? c name = none) ∧ owner.finders.lookup name = some f ∧
      ms.get? owner.id = some owner ∧ Nonempty (Origin ms dialect owner.id f) := by
  have hmodel := hsound.get?_of_mem hm
  rw [attribute?_eq_finder, hcoherent.inherited?_eq_finder hsound hmodel] at hread
  obtain ⟨nearer, owner, farther, hchain, hnone, hfinder⟩ := hread
  have howner := hsound.get?_of_mem_chain hmodel (hchain ▸ List.mem_append_cons_self)
  have hlatest := (hcoherent.latest howner name).symm.trans hfinder
  exact ⟨nearer, owner, farther, hchain, hnone, hfinder, howner,
    horigins _ (mem_of_latest? hlatest)⟩

end Models

namespace Session

variable {s : Session}

/-! ## Steps and runs -/

theorem continues_step (h : s.models.WellFormed) (st : Step) :
    Models.Continues s.models (s.step st).2.models := by
  have hmeet := h.continues_meet s.here (s.demands st)
  cases st with
  | create plan parent =>
      change Models.Continues s.models (s.create plan parent).2.models
      unfold create
      split
      · exact .refl s.models
      · exact Models.continues_of_grows (h.grows_add _)
  | define r => exact (models_request h r).symm ▸ hmeet
  | call t args stored => exact (models_call h t args stored).symm ▸ hmeet
  | change name changes =>
      change Models.Continues s.models (s.change name changes).2.models
      unfold change
      dsimp only
      split
      · next m backend howner =>
        obtain ⟨owner, hmem, hfound⟩ := List.exists_of_findSome?_eq_some howner
        split at hfound
        · obtain ⟨found, hbackend, hpair⟩ := Option.map_eq_some_iff.mp hfound
          obtain ⟨rfl, -⟩ := Prod.mk.inj hpair
          have hm := h.get?_of_mem (List.mem_reverse.mp hmem)
          exact Models.continues_replace hm (Models.alike_change owner _) (by simp [hbackend])
        · cases hfound
      · exact .refl s.models
  | load file text path configured =>
      exact (s.keeps_load file text path configured).models.symm ▸ .refl s.models
  | apply document known => exact (s.models_apply document known).symm ▸ hmeet
  | _ => exact .refl s.models

theorem continues_next (h : s.models.WellFormed) (st : Step) :
    Models.Continues s.models (s.next st).models :=
  (s.keeps_next st).models.symm ▸ continues_step h st

theorem continues_after (h : s.models.WellFormed) (steps : List Step) :
    Models.Continues s.models (s.after steps).models := by
  induction steps generalizing s with
  | nil => exact .refl s.models
  | cons st rest ih =>
      exact (continues_next h st).trans (ih ((moves_next h st).wellFormed h))

/-- What a step attaches was defined during the step. -/
theorem origin_of_mem_made (h : s.models.WellFormed) (st : Step) :
    ∀ e ∈ s.made st, Nonempty (Models.Origin (s.next st).models s.dialect e.1 e.2) := by
  rw [(s.keeps_next st).models]
  have hmet := h.origin_of_mem_meet s.here (s.demands st)
  cases st with
  | define r => exact (models_request h r).symm ▸ hmet
  | call t args stored => exact (models_call h t args stored).symm ▸ hmet
  | apply document known => exact (s.models_apply document known).symm ▸ hmet
  | _ => exact List.forall_mem_nil _

/-! ## The dialect of a session -/

theorem dialect_defineThrough (s : Session) (m : Model) (args : Arguments) :
    (s.defineThrough m args).2.dialect = s.dialect := by
  unfold defineThrough
  split <;> rfl

theorem dialect_call (s : Session) (t : Target) (args : Arguments) (stored : List StoredRow) :
    (s.call t args stored).2.dialect = s.dialect := by
  unfold call
  split
  · rfl
  · next m member hreach =>
    cases member with
    | operation o =>
        cases o with
        | define => exact s.dialect_defineThrough m args
        | _ => rfl
    | _ => rfl

theorem dialect_requestThrough (s : Session) (r : Request) (name : String) :
    (s.requestThrough r name).2.dialect = s.dialect := by
  unfold requestThrough
  dsimp only
  split
  · rfl
  · next m member keywords hprepared =>
    split
    · exact s.dialect_defineThrough m _
    · rfl
    · rfl

theorem dialect_request (s : Session) (r : Request) :
    (s.request r).2.dialect = s.dialect := by
  unfold request
  dsimp only
  split
  · rfl
  · rfl
  · split
    · exact s.dialect_requestThrough r _
    · rfl
  · rfl

theorem dialect_step (s : Session) (st : Step) : (s.step st).2.dialect = s.dialect := by
  cases st with
  | create plan parent =>
      change (s.create plan parent).2.dialect = s.dialect
      unfold create
      split <;> rfl
  | define r => exact s.dialect_request r
  | call t args stored => exact s.dialect_call t args stored
  | change name changes =>
      change (s.change name changes).2.dialect = s.dialect
      unfold change
      dsimp only
      split <;> rfl
  | load file text path configured => exact (s.keeps_load file text path configured).dialect
  | apply document known =>
      change (s.apply document known).2.dialect = s.dialect
      rw [apply_eq]
      split <;> rfl
  | _ => rfl

theorem dialect_next (s : Session) (st : Step) : (s.next st).dialect = s.dialect :=
  (s.keeps_next st).dialect.trans (s.dialect_step st)

/-- What a run attaches was defined during the run. -/
theorem origin_of_mem_madeIn (h : s.models.WellFormed) (steps : List Step) :
    ∀ e ∈ s.madeIn steps, Nonempty (Models.Origin (s.after steps).models s.dialect e.1 e.2) := by
  induction steps generalizing s with
  | nil => exact List.forall_mem_nil _
  | cons st rest ih =>
      have hsound := (moves_next h st).wellFormed h
      have hdialect := s.dialect_next st
      intro e he
      cases List.mem_append.mp he with
      | inl hfirst =>
          obtain ⟨o⟩ := origin_of_mem_made h st e hfirst
          exact ⟨o.later (moves_after hsound rest) (continues_after hsound rest)⟩
      | inr hrest => exact hdialect ▸ ih hsound e hrest

end Session

end NamedQuery
