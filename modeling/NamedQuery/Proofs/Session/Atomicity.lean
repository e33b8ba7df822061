import NamedQuery.Proofs.Session.Demands

/-!
# Definitions as a whole

A definition either fails and leaves everything as it was, or gives one class one finder and leaves
everything else.  On the way it quotes no value and runs no statement, unless a finder stands where
the hook of the class is looked for: this finder is called then.
-/

namespace NamedQuery

namespace Traced

variable {α β : Type} {t : Traced α} {next : α → Traced β}

/-- Nothing was done but writing records. -/
def OnlyLogs (t : Traced α) : Prop := ∀ event ∈ t.events, ∃ record, event = .logged record

theorem onlyLogs_of_nil (hnone : t.events = []) : t.OnlyLogs := by
  rw [OnlyLogs, hnone]
  exact nofun

theorem onlyLogs_ofExcept (result : Except Error α) : (ofExcept result).OnlyLogs :=
  onlyLogs_of_nil rfl

theorem onlyLogs_log (record : Log.Record) : (log record).OnlyLogs :=
  List.forall_mem_singleton.mpr ⟨record, rfl⟩

theorem OnlyLogs.bind (ht : t.OnlyLogs) (hnext : ∀ a, (next a).OnlyLogs) :
    (t >>= next).OnlyLogs := by
  intro event hevent
  cases mem_events_bind hevent with
  | inl hfirst => exact ht event hfirst
  | inr hlater =>
      obtain ⟨a, ha⟩ := hlater
      exact hnext a event ha

theorem OnlyLogs.statements_eq_nil (ht : t.OnlyLogs) : t.statements = [] := by
  refine List.filterMap_eq_nil_iff.mpr fun event hevent => ?_
  obtain ⟨record, rfl⟩ := ht event hevent
  rfl

theorem OnlyLogs.quotedValues_eq_nil (ht : t.OnlyLogs) : t.quotedValues = [] := by
  refine List.filterMap_eq_nil_iff.mpr fun event hevent => ?_
  obtain ⟨record, rfl⟩ := ht event hevent
  rfl

end Traced

namespace Models

variable {ms : Models} {m : Model} {name arity : Value} {options : GivenOptions} {f : Finder}

/-- What a class has under the name of the hook is no finder. -/
def HasPlainHook (ms : Models) (m : Model) : Prop :=
  m.prefetches = true → ∀ owner f, ms.source? m "apply_prefetch" ≠ some (owner, .finder f)

theorem HasPlainHook.onlyLogs (hplain : ms.HasPlainHook m) (here : Surroundings) :
    ∀ hook ∈ ms.hookOf here m, ∀ o, (hook o).OnlyLogs := by
  intro hook hhook o
  rw [hookOf] at hhook
  split at hhook
  · next hprefetches =>
    split at hhook
    · exact Option.some.inj hhook ▸ Traced.onlyLogs_ofExcept _
    · next owner f hsource => exact absurd hsource (hplain hprefetches owner f)
    · exact Option.some.inj hhook ▸ Traced.onlyLogs_of_nil rfl
    · exact Option.some.inj hhook ▸ Traced.onlyLogs_ofExcept _
  · cases hhook

theorem onlyLogs_prefetched {o : Options} {model : String} {hook : Option Hook}
    (hhook : ∀ h ∈ hook, ∀ o, (h o).OnlyLogs) : (o.prefetched model hook).OnlyLogs := by
  cases hook with
  | none => exact Traced.onlyLogs_of_nil rfl
  | some h =>
      refine (hhook h rfl o).bind fun answer => ?_
      cases answer with
      | options c => exact (Traced.onlyLogs_log _).bind fun _ => Traced.onlyLogs_of_nil rfl
      | other v => exact Traced.onlyLogs_of_nil rfl

theorem onlyLogs_compileWith {hook : Option Hook} (hhook : ∀ h ∈ hook, ∀ o, (h o).OnlyLogs)
    (dialect : Dialect) (m : Model) (name arity : Value) (options : GivenOptions) :
    (ms.compileWith hook dialect m name arity options).OnlyLogs := by
  refine (Traced.onlyLogs_ofExcept _).bind fun spec => ?_
  split
  · refine (Traced.onlyLogs_ofExcept _).bind fun backend => ?_
    have hassembled : (spec.normalized.assemble m.name hook backend .empty).OnlyLogs :=
      (onlyLogs_prefetched hhook).bind fun c => Traced.onlyLogs_ofExcept _
    exact hassembled.bind fun _ => Traced.onlyLogs_ofExcept _
  · exact Traced.onlyLogs_of_nil rfl

/-- A definition does nothing but write records, unless its hook does. -/
theorem HasPlainHook.onlyLogs_define (hplain : ms.HasPlainHook m) (here : Surroundings)
    (name arity : Value) (options : GivenOptions) :
    (ms.define here m name arity options).1.OnlyLogs := by
  have hcompiled :
      (ms.compileWith (ms.hookOf here m) here.dialect m name arity options).OnlyLogs :=
    onlyLogs_compileWith (hplain.onlyLogs here) here.dialect m name arity options
  unfold define defineWith
  dsimp only
  split
  · exact hcompiled
  · exact List.forall_mem_append.mpr ⟨hcompiled, Traced.onlyLogs_log _⟩

/-- The only difference between models: the class with an id has got a finder. -/
structure Gets (ms : Models) (id : Nat) (f : Finder) (ms' : Models) : Prop where
  catalog : ms'.catalog = ms.catalog
  length : ms'.list.length = ms.list.length
  classes : ∀ {place c}, ms.get? place = some c → ∃ c', ms'.get? place = some c' ∧
    (place ≠ id → c' = c) ∧ ∀ name,
      c'.finders.lookup name =
        (if place = id ∧ name = f.name then some f else c.finders.lookup name) ∧
      ms'.ownMember? c' name =
        if place = id ∧ name = f.name then some (.finder f) else ms.ownMember? c name

theorem gets_attach (hm : ms.get? m.id = some m)
    (hfree : isFree (ms.attribute? m f.name) = true) :
    ms.Gets m.id f (ms.replace (m.attach f)) where
  catalog := rfl
  length := List.length_set ..
  classes := by
    intro place c hc
    rw [get?_replace hm (m.alike_attach f).id]
    by_cases hplace : place = m.id
    · subst hplace
      obtain rfl := Option.some.inj (hm.symm.trans hc)
      refine ⟨m.attach f, if_pos rfl, fun hne => absurd rfl hne, fun name => ?_⟩
      have hown : (ms.replace (m.attach f)).ownMember? (m.attach f) name = _ :=
        ownMember?_attach_eq hfree name
      rw [hown, lookup_finders_attach]
      simp only [true_and, and_self]
    · have hother (name : String) : ¬(place = m.id ∧ name = f.name) := fun h => hplace h.1
      refine ⟨c, by rw [if_neg hplace, hc], fun _ => rfl, fun name => ?_⟩
      rw [if_neg (hother name), if_neg (hother name)]
      exact ⟨rfl, rfl⟩

end Models

theorem Operation.values_of_bind_define {name arity : Value} {keywords : List (String × Value)}
    {values : List Value} {options : List (String × Value)}
    (h : Operation.define.bind ⟨[name, arity], keywords⟩ = .ok (values, options)) :
    values = [name, arity] := by
  obtain ⟨-, -, hrest⟩ := bind_eq_ok.mp h
  exact (Prod.mk.inj (Except.ok.inj hrest)).1.symm

namespace Session

variable {s : Session} {m : Model} {r : Request}

/-- What may become of the definition of a finder: it fails and changes nothing, or the requested
class gets the finder and nothing else changes.  A plain hook keeps it from quoting and running
anything. -/
structure Atomic (s : Session) (r : Request) (answer : Traced Outcome × Session) : Prop where
  failed : ∀ e, answer.1.result = .error e → answer.2 = s
  made : ∀ outcome, answer.1.result = .ok outcome → ∃ name m f models,
    r.model = some name ∧ s.model name = .ok m ∧ Spec.readName r.name = .ok f.name ∧
      outcome = .finder f ∧ answer.2 = { s with models } ∧ s.models.Gets m.id f models
  quiet : (∀ name m, r.model = some name → s.model name = .ok m → s.models.HasPlainHook m) →
    answer.1.OnlyLogs

theorem atomic_fail (s : Session) (r : Request) (e : Error) : Atomic s r (Traced.fail e, s) where
  failed _ _ := rfl
  made outcome houtcome := by cases houtcome
  quiet _ := Traced.onlyLogs_of_nil rfl

theorem atomic_define (h : s.models.WellFormed) {name : String} (hname : r.model = some name)
    (hm : s.model name = .ok m) (arity : Value) (options : GivenOptions) :
    Atomic s r (defined (s.define m r.name arity options)) := by
  have hdefined : defined (s.define m r.name arity options) =
      (Outcome.finder <$> (s.models.define s.here m r.name arity options).1,
        { s with models := (s.models.define s.here m r.name arity options).2 }) := rfl
  rw [hdefined, Traced.map_eq]
  constructor
  · intro e he
    rw [Models.define_of_error (map_eq_error.mp he)]
  · intro outcome houtcome
    obtain ⟨f, hf, rfl⟩ := map_eq_ok.mp houtcome
    obtain ⟨hmodels, hfree, hread⟩ := Models.define_of_ok hf
    refine ⟨name, m, f, s.models.replace (m.attach f), hname, hm, hread, rfl, ?_,
      Models.gets_attach (get?_of_model h hm) hfree⟩
    rw [hmodels]
  · intro hplain
    exact (hplain name m hname hm).onlyLogs_define s.here r.name arity options

theorem name_of_model {name : String} (hm : s.model name = .ok m) : m.name = name := by
  unfold model at hm
  split at hm
  · next found hfound =>
    have hname := List.find?_some hfound
    exact Except.ok.inj hm ▸ of_decide_eq_true hname
  · cases hm

/-- A request goes through the operation of a class where a finder stands in its place.  It is a
call of this finder, and no definition. -/
def CallsFinder (s : Session) (r : Request) : Prop :=
  r.through = true ∧ ∃ name m f, r.model = some name ∧ s.model name = .ok m ∧
    s.models.attribute? m "define_finder" = some (.finder f)

theorem atomic_requestThrough (h : s.models.WellFormed) {name : String}
    (hname : r.model = some name) (hm : s.model name = .ok m)
    (hdefines : ∀ f, s.models.attribute? m "define_finder" ≠ some (.finder f)) :
    Atomic s r (s.requestThrough r m.name) := by
  unfold requestThrough
  cases hreach : s.reach ⟨m.name, "define_finder", false⟩ with
  | error e => exact atomic_fail s r e
  | ok found =>
      obtain ⟨c, member⟩ := found
      obtain ⟨hc, hmember⟩ := reach_eq_ok.mp hreach
      have hsame : c = m := by
        rw [name_of_model hm, hm] at hc
        exact (Except.ok.inj hc).symm
      subst hsame
      dsimp only [bind, Except.bind]
      cases keywordsOf (defineLabel member)
          (if r.checked then .object "OptionSet" else r.options) with
      | error e => exact atomic_fail s r e
      | ok keywords =>
          cases member with
          | finder f => exact absurd (Except.ok.inj hmember) (hdefines f)
          | operation o =>
              cases o with
              | define =>
                  dsimp only
                  unfold defineThrough
                  cases hbind : Operation.define.bind ⟨[r.name, r.arity], keywords⟩ with
                  | error e => exact atomic_fail s r e
                  | ok bound =>
                      obtain ⟨values, options⟩ := bound
                      rw [Operation.values_of_bind_define hbind]
                      exact atomic_define h hname hm _ _
              | _ => exact atomic_fail s r _
          | _ => exact atomic_fail s r _

theorem atomic_request (h : s.models.WellFormed) (hdefines : ¬s.CallsFinder r) :
    Atomic s r (s.request r) := by
  unfold request
  cases hm : r.model.mapM s.model with
  | error e => exact atomic_fail s r e
  | ok m =>
      cases requestOptions r with
      | error e => exact atomic_fail s r e
      | ok options =>
          cases r.given with
          | some v => cases m <;> exact atomic_fail s r _
          | none =>
              cases m with
              | none => exact atomic_fail s r _
              | some m =>
                  obtain ⟨name, hname, hmodel⟩ := exists_model_of_mapM hm
                  dsimp only [bind, Except.bind]
                  split
                  · next hthrough =>
                    refine atomic_requestThrough h hname hmodel fun f hf => ?_
                    exact hdefines ⟨hthrough, name, m, f, hname, hmodel, hf⟩
                  · exact atomic_define h hname hmodel r.arity options

/-- After any run, a definition that fails changes nothing, and one that succeeds gives the class it
names the finder it names and changes nothing else.  Neither quotes a value or runs a statement, if
what the class has under the name of its hook is no finder. -/
theorem request_atomic_after (dialect : Dialect) (environment : List (String × String))
    (settings : Option Settings) (steps : List Step) (r : Request)
    (hdefines : ¬((start dialect environment settings).after steps).CallsFinder r) :
    let s := (start dialect environment settings).after steps
    let answer := s.step (.define r)
    (∀ e, answer.1.result = .error e → answer.2 = s) ∧
    (∀ outcome, answer.1.result = .ok outcome → ∃ name m f models,
      r.model = some name ∧ s.model name = .ok m ∧ Spec.readName r.name = .ok f.name ∧
        outcome = .finder f ∧ answer.2 = { s with models } ∧ s.models.Gets m.id f models) ∧
    ((∀ name m, r.model = some name → s.model name = .ok m → s.models.HasPlainHook m) →
      answer.1.statements = [] ∧ answer.1.quotedValues = []) := by
  intro s answer
  have hsound : s.models.WellFormed := wellFormed_after dialect environment settings steps
  have hatomic : Atomic s r answer := atomic_request hsound hdefines
  refine ⟨hatomic.failed, hatomic.made, fun hplain => ?_⟩
  have honly := hatomic.quiet hplain
  exact ⟨honly.statements_eq_nil, honly.quotedValues_eq_nil⟩

theorem request_atomic_after_creation :
    let s := (start .sqlite [] none).after [creation "Recipe" none]
    let answer := s.step (.define (asked "Recipe" "cheap" "all" []))
    (∃ m f models, s.model "Recipe" = .ok m ∧ Spec.readName (.str "cheap") = .ok f.name ∧
      answer.2 = { s with models } ∧ s.models.Gets m.id f models) ∧
    answer.1.statements = [] := by
  have hsucceeds : (((start .sqlite [] none).after [creation "Recipe" none]).step
      (.define (asked "Recipe" "cheap" "all" []))).1.result.toBool = true := by decide +kernel
  have hplain : (((start .sqlite [] none).after [creation "Recipe" none]).models.find?
      "Recipe").any (fun m => !m.prefetches) = true := by decide +kernel
  have hatomic := request_atomic_after .sqlite [] none [creation "Recipe" none]
    (asked "Recipe" "cheap" "all" []) (fun hcalls => by cases hcalls.1)
  dsimp only at hatomic ⊢
  generalize (start .sqlite [] none).after [creation "Recipe" none] = s at *
  obtain ⟨-, hmade, hquiet⟩ := hatomic
  constructor
  · obtain ⟨outcome, hresult⟩ := toBool_eq_true.mp hsucceeds
    obtain ⟨name, m, f, models, hname, hm, hread, -, hafter, hgets⟩ := hmade outcome hresult
    obtain rfl := Option.some.inj hname
    exact ⟨m, f, models, hm, hread, hafter, hgets⟩
  · refine (hquiet fun name m hname hm hprefetches => ?_).1
    obtain rfl := Option.some.inj hname
    obtain ⟨found, hfound, hnever⟩ := (Option.any_eq_true _ _).mp hplain
    rw [model, hfound] at hm
    obtain rfl := Except.ok.inj hm
    simp [hprefetches] at hnever

/-- A class that takes part in prefetching stands below one that has a finder under the name of the
hook. -/
def hooking : List Step :=
  [creation "Recipe" none,
    .define (asked "Recipe" "apply_prefetch" "all"
      [(.str "conditions", .str "x = :x"), (.str "positional", .bool true)]),
    .create
      { name := "Soup", parent := none, offersFinders := true, prefetches := true, rule := none
        backend := none, mapping := none, attributes := [] } (some "Recipe")]

/-- This finder is called where a definition looks for the hook: its statement is run, and the
definition fails. -/
theorem statements_hooking :
    let answer :=
      ((start .sqlite [] none).after hooking).step (.define (asked "Soup" "cheap" "all" []))
    (∃ e, answer.1.result = .error e) ∧ answer.1.quotedValues.length = 1 ∧
      answer.1.statements = ["SELECT * FROM recipes WHERE (x = 'select=None from_=None" ++
        " joins=None conditions=None group=None order=None limit=None offset=None" ++
        " positional=False prefetch=None')"] := by
  have hfails : (((start .sqlite [] none).after hooking).step
      (.define (asked "Soup" "cheap" "all" []))).1.result.toBool = false := by decide +kernel
  exact ⟨toBool_eq_false.mp hfails, by decide +kernel, by decide +kernel⟩

end Session

end NamedQuery
