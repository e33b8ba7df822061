import NamedQuery.Proofs.Model.Defining
import NamedQuery.Proofs.Model.Registry
import NamedQuery.Session

/-!
# What steps define

A step may ask for finders: outright, through the operation of a class, by calling that operation,
or in a document.  What it asks for is a list of demands, and these are met one after the other up
to the first that fails.  Nothing but this, creation and changes of backends happens to models.
-/

namespace NamedQuery

/-- A finder that is asked for, and the id of the class that is to get it. -/
structure Demand where
  model : Nat
  name : Value
  arity : Value
  options : GivenOptions

namespace Models

variable {ms : Models} {here : Surroundings} {m : Model} {name arity : Value}
  {options : GivenOptions} {f : Finder}

/-- What demands make, up to the first that fails, and the models after that. -/
def meet (ms : Models) (here : Surroundings) : List Demand → Made × Models
  | [] => ([], ms)
  | d :: rest =>
    match ms.get? d.model with
    | none => ([], ms)
    | some m =>
      let (finder, after) := ms.define here m d.name d.arity d.options
      match finder.result with
      | .error _ => ([], after)
      | .ok f =>
        let (made, last) := after.meet here rest
        ((m.id, f) :: made, last)

theorem WellFormed.moves_meet (h : ms.WellFormed) (here : Surroundings) (demands : List Demand) :
    Moves ms (ms.meet here demands).1 (ms.meet here demands).2 := by
  induction demands generalizing ms with
  | nil => exact .refl ms
  | cons d rest ih =>
      rw [meet]
      cases hm : ms.get? d.model with
      | none => exact .refl ms
      | some m =>
          dsimp only
          cases hresult : (ms.define here m d.name d.arity d.options).1.result with
          | error e =>
              dsimp only
              rw [define_of_error hresult]
              exact .refl ms
          | ok f =>
              obtain ⟨hafter, hfree, hname⟩ := define_of_ok hresult
              have hmove : Move ms [(m.id, f)] (ms.replace (m.attach f)) :=
                .attach (h.get?_id hm) hfree (Spec.isFinderName_of_readName hname)
              dsimp only
              rw [hafter]
              exact .step hmove (ih (hmove.wellFormed h))

theorem models_defineAll (ms : Models) (here : Surroundings) (located : List (Nat × Definition)) :
    (ms.defineAll here located).2 =
      (ms.meet here (located.map fun e =>
        ⟨e.1, e.2.name, e.2.arity, .value (.dict e.2.options)⟩)).2 := by
  induction located generalizing ms with
  | nil => rfl
  | cons e rest ih =>
      obtain ⟨id, d⟩ := e
      rw [List.map_cons, defineAll, meet]
      cases ms.get? id with
      | none => rfl
      | some m =>
          dsimp only
          cases hresult :
              (ms.define here m d.name d.arity (.value (.dict d.options))).1.result with
          | error e => rfl
          | ok f => exact ih _

theorem models_meet_singleton (hm : ms.get? m.id = some m) (here : Surroundings)
    (name arity : Value) (options : GivenOptions) :
    (ms.meet here [⟨m.id, name, arity, options⟩]).2 =
      (ms.define here m name arity options).2 := by
  rw [meet, hm]
  dsimp only
  cases (ms.define here m name arity options).1.result with
  | error e => rfl
  | ok f => rfl

end Models

namespace Session

/-- What a call of the operation that defines finders asks for. -/
def demandsThrough (m : Model) (args : Arguments) : List Demand :=
  match Operation.define.bind args with
  | .ok (name :: arity :: _, options) =>
    [⟨m.id, name, arity, .value (.dict (options.map fun e => (.str e.1, e.2)))⟩]
  | _ => []

def requestedThrough (s : Session) (r : Request) (name : String) : List Demand :=
  match s.reach ⟨name, "define_finder", false⟩ with
  | .ok (m, .operation .define) =>
    match keywordsOf (defineLabel (.operation .define))
        (if r.checked then .object "OptionSet" else r.options) with
    | .ok keywords => demandsThrough m ⟨[r.name, r.arity], keywords⟩
    | .error _ => []
  | _ => []

/-- What a definition asks for. -/
def requested (s : Session) (r : Request) : List Demand :=
  match r.model.mapM s.model, requestOptions r, r.given with
  | .ok (some m), .ok options, none =>
    if r.through then s.requestedThrough r m.name else [⟨m.id, r.name, r.arity, options⟩]
  | _, _, _ => []

/-- What a call asks for, if it is one of the operation that defines finders. -/
def called (s : Session) (t : Target) (args : Arguments) : List Demand :=
  match s.reach t with
  | .ok (m, .operation .define) => demandsThrough m args
  | _ => []

/-- The definitions of a document, or those that were read last, and the models they may name. -/
def prepare (s : Session) (document : Option Value) (known : KnownModels) :
    Except Error (List Definition × Models.Known) := do
  let definitions ← match document with
    | some v => Definition.ofDocument v
    | none => .ok s.definitions
  let known ← s.known known
  .ok (definitions, known)

/-- What a document asks for. -/
def applied (s : Session) (document : Option Value) (known : KnownModels) : List Demand :=
  match s.prepare document known with
  | .error _ => []
  | .ok (definitions, known) =>
    match Models.locate known definitions with
    | .error _ => []
    | .ok located => located.map fun e =>
      ⟨e.1, e.2.name, e.2.arity, .value (.dict e.2.options)⟩

def demands (s : Session) : Step → List Demand
  | .define r => s.requested r
  | .call t args _ => s.called t args
  | .apply document known => s.applied document known
  | _ => []

/-- What a step attaches to classes. -/
def made (s : Session) (st : Step) : Models.Made := (s.models.meet s.here (s.demands st)).1

/-- What a run attaches to classes. -/
def madeIn (s : Session) : List Step → Models.Made
  | [] => []
  | st :: rest => s.made st ++ (s.next st).madeIn rest

variable {s : Session} {m : Model}

theorem get?_of_model (h : s.models.WellFormed) {name : String} (hm : s.model name = .ok m) :
    s.models.get? m.id = some m := by
  unfold model at hm
  split at hm
  · next found hfound => exact Except.ok.inj hm ▸ h.get?_of_find? hfound
  · cases hm

/-- What a target is: an attribute of the class with its name, or of an instance of this class. -/
theorem reach_eq_ok {t : Target} {member : Member} :
    s.reach t = .ok (m, member) ↔ s.model t.model = .ok m ∧
      (if t.ofInstance then s.models.instanceAttribute? m t.name
        else .ok (s.models.attribute? m t.name)) = .ok (some member) := by
  unfold reach
  -- both ways of reading go on alike, once it is clear which one is taken
  cases t.ofInstance
  all_goals
    simp only [Bool.false_eq_true, if_false, if_true]
    constructor
    · intro h
      obtain ⟨c, hc, hrest⟩ := bind_eq_ok.mp h
      obtain ⟨found, hfound, hanswer⟩ := bind_eq_ok.mp hrest
      split at hanswer
      · obtain ⟨rfl, rfl⟩ := Prod.mk.inj (Except.ok.inj hanswer)
        exact ⟨hc, hfound⟩
      · cases hanswer
    · rintro ⟨hm, hfound⟩
      exact bind_eq_ok.mpr ⟨m, hm, bind_eq_ok.mpr ⟨some member, hfound, rfl⟩⟩

theorem exists_model_of_mapM {name? : Option String} (hm : name?.mapM s.model = .ok (some m)) :
    ∃ name, name? = some name ∧ s.model name = .ok m := by
  cases name? with
  | none => cases hm
  | some name =>
      refine ⟨name, rfl, ?_⟩
      cases hmodel : s.model name with
      | error e => simp [hmodel] at hm
      | ok found => simpa [hmodel] using hm

theorem models_defineThrough (hm : s.models.get? m.id = some m) (args : Arguments) :
    (s.defineThrough m args).2.models =
      (s.models.meet s.here (demandsThrough m args)).2 := by
  unfold defineThrough demandsThrough
  rcases Operation.define.bind args with e | ⟨_ | ⟨name, _ | ⟨arity, rest⟩⟩, options⟩
  · rfl
  · rfl
  · rfl
  · exact (Models.models_meet_singleton hm s.here _ _ _).symm

theorem get?_of_reach (h : s.models.WellFormed) {t : Target} {member : Member}
    (hreach : s.reach t = .ok (m, member)) : s.models.get? m.id = some m :=
  get?_of_model h (reach_eq_ok.mp hreach).1

theorem models_call (h : s.models.WellFormed) (t : Target) (args : Arguments)
    (stored : List StoredRow) :
    (s.call t args stored).2.models = (s.models.meet s.here (s.called t args)).2 := by
  unfold call called
  cases hreach : s.reach t with
  | error e => rfl
  | ok found =>
      obtain ⟨m, member⟩ := found
      cases member with
      | operation o =>
          cases o with
          | define => exact models_defineThrough (get?_of_reach h hreach) args
          | _ => rfl
      | _ => rfl

theorem models_requestThrough (h : s.models.WellFormed) (r : Request) (name : String) :
    (s.requestThrough r name).2.models =
      (s.models.meet s.here (s.requestedThrough r name)).2 := by
  unfold requestThrough requestedThrough
  cases hreach : s.reach ⟨name, "define_finder", false⟩ with
  | error e => rfl
  | ok found =>
      obtain ⟨m, member⟩ := found
      dsimp only [bind, Except.bind]
      cases hkeywords : keywordsOf (defineLabel member)
          (if r.checked then .object "OptionSet" else r.options) with
      | error e =>
          cases member with
          | operation o => cases o <;> simp [hkeywords, Models.meet]
          | _ => rfl
      | ok keywords =>
          cases member with
          | operation o =>
              cases o with
              | define =>
                  simp only [hkeywords]
                  exact models_defineThrough (get?_of_reach h hreach) _
              | _ => rfl
          | _ => rfl

theorem models_request (h : s.models.WellFormed) (r : Request) :
    (s.request r).2.models = (s.models.meet s.here (s.requested r)).2 := by
  unfold request requested
  cases hm : r.model.mapM s.model with
  | error e => rfl
  | ok m =>
      cases hoptions : requestOptions r with
      | error e => cases m <;> rfl
      | ok options =>
          cases hgiven : r.given with
          | some v => cases m <;> rfl
          | none =>
              cases m with
              | none => rfl
              | some m =>
                  obtain ⟨name, -, hname⟩ := exists_model_of_mapM hm
                  have hmodel := get?_of_model h hname
                  dsimp only [bind, Except.bind]
                  split
                  · exact models_requestThrough h r m.name
                  · exact (Models.models_meet_singleton hmodel s.here _ _ _).symm

theorem apply_eq (s : Session) (document : Option Value) (known : KnownModels) :
    s.apply document known =
      match s.prepare document known with
      | .error e => (Traced.fail e, s)
      | .ok (definitions, known) =>
        (Outcome.finders <$> (s.models.applyAll s.here known definitions).1,
          { s with models := (s.models.applyAll s.here known definitions).2 }) := rfl

theorem models_apply (s : Session) (document : Option Value) (known : KnownModels) :
    (s.apply document known).2.models =
      (s.models.meet s.here (s.applied document known)).2 := by
  rw [apply_eq, applied]
  rcases s.prepare document known with e | ⟨definitions, known⟩
  · rfl
  · dsimp only
    unfold Models.applyAll
    cases Models.locate known definitions with
    | error e => rfl
    | ok located => exact s.models.models_defineAll s.here located

/-! ## Reading definitions -/

/-- Files, settings and definitions may differ, but the models and the dialect are the same. -/
structure Keeps (s t : Session) : Prop where
  models : t.models = s.models
  dialect : t.dialect = s.dialect

theorem Keeps.refl (s : Session) : Keeps s s := ⟨rfl, rfl⟩

theorem Keeps.trans {t u : Session} (hfirst : Keeps s t) (hthen : Keeps t u) : Keeps s u :=
  ⟨hthen.models.trans hfirst.models, hthen.dialect.trans hfirst.dialect⟩

theorem keeps_save {file : String} {text : Option String} {t : Session}
    (ht : s.save file text = .ok t) : Keeps s t := by
  unfold save at ht
  split at ht
  · obtain ⟨files, -, rfl⟩ := map_eq_ok.mp ht
    exact ⟨rfl, rfl⟩
  · exact Except.ok.inj ht ▸ .refl s

theorem keeps_configure {path : Option String} {t : Session} (ht : s.configure path = .ok t) :
    Keeps s t := by
  unfold configure at ht
  split at ht
  · split at ht
    · cases ht
    · exact Except.ok.inj ht ▸ ⟨rfl, rfl⟩
  · exact Except.ok.inj ht ▸ .refl s

theorem keeps_definitionsPath {path : Option String} {found : Option String × Session}
    (hfound : s.definitionsPath path = .ok found) : Keeps s found.2 := by
  unfold definitionsPath at hfound
  split at hfound
  · exact Except.ok.inj hfound ▸ .refl s
  · obtain ⟨⟨settings, t⟩, ht, hrest⟩ := bind_eq_ok.mp hfound
    obtain rfl := Except.ok.inj hrest
    obtain ⟨read, -, hread⟩ := map_eq_ok.mp ht
    exact (Prod.mk.inj hread).2 ▸ ⟨rfl, rfl⟩

theorem keeps_readDefinitions (s : Session) (path : Option String) :
    Keeps s (s.readDefinitions path).2 := by
  unfold readDefinitions
  split
  · exact .refl s
  · next path t ht =>
    refine (keeps_definitionsPath ht).trans ?_
    unfold readFrom
    dsimp only
    split
    · exact ⟨rfl, rfl⟩
    · exact .refl t

theorem keeps_load (s : Session) (file : String) (text path configured : Option String) :
    Keeps s (s.load file text path configured).2 := by
  unfold load
  split
  · exact .refl s
  · next t ht =>
    split
    · exact keeps_save ht
    · next u hu =>
      exact ((keeps_save ht).trans (keeps_configure hu)).trans (keeps_readDefinitions u path)

/-- Settings that were asked for on the way make no difference to models. -/
theorem keeps_next (s : Session) (st : Step) : Keeps (s.step st).2 (s.next st) := by
  unfold next keeping
  split
  · exact ⟨rfl, rfl⟩
  · exact .refl _

/-! ## Steps and runs -/

theorem moves_create (s : Session) (plan : ModelPlan) (parent : Option String) :
    Models.Moves s.models [] (s.create plan parent).2.models := by
  unfold create
  split
  · exact .refl s.models
  · exact (Models.Move.add s.models _).moves

theorem moves_change (h : s.models.WellFormed) (name : String) (changes : BackendChange) :
    Models.Moves s.models [] (s.change name changes).2.models := by
  unfold change
  dsimp only
  split
  · next m backend howner =>
    obtain ⟨owner, hmem, hfound⟩ := List.exists_of_findSome?_eq_some howner
    split at hfound
    · obtain ⟨found, -, hpair⟩ := Option.map_eq_some_iff.mp hfound
      obtain ⟨rfl, -⟩ := Prod.mk.inj hpair
      have hm := h.get?_of_mem (List.mem_reverse.mp hmem)
      exact (Models.Move.change hm (some (changes.applyTo backend))).moves
    · cases hfound
  · exact .refl s.models

/-- A step makes moves, and attaches what its demands make. -/
theorem moves_step (h : s.models.WellFormed) (st : Step) :
    Models.Moves s.models (s.made st) (s.step st).2.models := by
  have hmeet := h.moves_meet s.here (s.demands st)
  cases st with
  | create plan parent => exact moves_create s plan parent
  | define r =>
      exact (models_request h r).symm ▸ hmeet
  | call t args stored => exact (models_call h t args stored).symm ▸ hmeet
  | change name changes => exact moves_change h name changes
  | load file text path configured =>
      exact (s.keeps_load file text path configured).models.symm ▸ .refl s.models
  | apply document known => exact (s.models_apply document known).symm ▸ hmeet
  | _ => exact .refl s.models

theorem moves_next (h : s.models.WellFormed) (st : Step) :
    Models.Moves s.models (s.made st) (s.next st).models :=
  (s.keeps_next st).models.symm ▸ moves_step h st

theorem moves_after (h : s.models.WellFormed) (steps : List Step) :
    Models.Moves s.models (s.madeIn steps) (s.after steps).models := by
  induction steps generalizing s with
  | nil => exact .refl s.models
  | cons st rest ih =>
      have hstep := moves_next h st
      exact hstep.trans (ih (hstep.wellFormed h))

theorem wellFormed_start (dialect : Dialect) (environment : List (String × String))
    (settings : Option Settings) : (start dialect environment settings).models.WellFormed :=
  Models.wellFormed_empty

/-- The models that a run leaves are sound. -/
theorem wellFormed_after (dialect : Dialect) (environment : List (String × String))
    (settings : Option Settings) (steps : List Step) :
    ((start dialect environment settings).after steps).models.WellFormed :=
  have hstart := wellFormed_start dialect environment settings
  (moves_after hstart steps).wellFormed hstart

/-! ## Short runs -/

/-- A class that offers finders on a fixed backend, below another one or none. -/
def creation (name : String) (parent : Option String) : Step :=
  .create
    { name, parent := none, offersFinders := true, prefetches := false, rule := none
      backend := some .standard, mapping := none, attributes := [] } parent

/-- A finder that is asked for outright. -/
def asked (model name arity : String) (options : List (Value × Value)) : Request :=
  { model := some model, given := none, name := .str name, arity := .str arity
    options := .dict options, checked := false, through := false }

end Session

end NamedQuery
