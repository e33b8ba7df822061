import Mathlib.Data.List.Forall2
import Mathlib.Data.List.Induction
import NamedQuery.Proofs.Session.Atomicity

/-!
# Documents put into effect

A document is put into effect as a whole or not at all, as far as its models go: one that names a
model which was not given changes nothing.  Otherwise its definitions are made one by one in their
order, and the first that fails leaves what those before it have made.
-/

namespace NamedQuery

namespace Models

/-- The classes that the definitions of a document may name.  A value that is no class is left out:
nothing can be defined on it. -/
inductive Given where
  /-- Classes, each under its own name. -/
  | classes (list : List Model)
  /-- Classes under names of their own. -/
  | named (entries : List (String × Model))

namespace Given

variable {g : Given} {d : Definition} {m : Model} {name : String}

def entries : Given → List (String × Model)
  | classes list => list.map fun m => (m.name, m)
  | named entries => entries

/-- What definitions get to know of the classes. -/
def known (g : Given) : Known :=
  g.entries.foldl (fun known e => Entries.assign known e.1 e.2.id) []

/-- The class that a name stands for is the last one under it. -/
def class? (g : Given) (name : String) : Option Model :=
  (g.entries.reverse.find? (·.1 = name)).map Prod.snd

/-- The class that a definition is for. -/
def classOf (g : Given) (d : Definition) : Option Model := d.model.text?.bind g.class?

/-- The names that were given, each one once and in their order. -/
structure Lists (g : Given) (names : List String) : Prop where
  sorted : names.Pairwise (· ≤ ·)
  nodup : names.Nodup
  mem : ∀ name, name ∈ names ↔ ∃ m, (name, m) ∈ g.entries

theorem lookup_known (g : Given) (name : String) :
    g.known.lookup name = (g.class? name).map Model.id := by
  rw [known, class?]
  induction g.entries using List.reverseRecOn with
  | nil => rfl
  | append_singleton front e ih =>
      rw [List.foldl_append, List.foldl_cons, List.foldl_nil, Entries.lookup_assign, ih,
        List.reverse_append, List.reverse_singleton, List.singleton_append, List.find?_cons]
      by_cases hname : name = e.1
      · simp [hname]
      · simp [hname, Ne.symm hname]

theorem mem_map_fst_known (g : Given) (name : String) :
    name ∈ g.known.map Prod.fst ↔ ∃ m, (name, m) ∈ g.entries := by
  rw [known]
  induction g.entries using List.reverseRecOn with
  | nil => simp
  | append_singleton front e ih =>
      rw [List.foldl_append, List.foldl_cons, List.foldl_nil, Entries.map_fst_assign]
      have hlast : (∃ m, (name, m) = e) ↔ name = e.1 :=
        ⟨fun ⟨m, hm⟩ => hm ▸ rfl, fun hname => ⟨e.2, hname ▸ rfl⟩⟩
      simp only [List.mem_append, List.mem_singleton, exists_or, ← ih, hlast]
      split
      · next hold => exact ⟨.inl, fun h => h.elim id fun hname => hname ▸ hold⟩
      · rw [List.mem_append, List.mem_singleton]

theorem nodup_known (g : Given) : (g.known.map Prod.fst).Nodup := by
  rw [known]
  induction g.entries using List.reverseRecOn with
  | nil => exact List.nodup_nil
  | append_singleton front e ih =>
      rw [List.foldl_append, List.foldl_cons, List.foldl_nil]
      exact Entries.nodup_assign ih e.1 e.2.id

theorem lists_known (g : Given) :
    g.Lists ((g.known.map Prod.fst).mergeSort fun a b => decide (a ≤ b)) where
  sorted := by
    refine (List.pairwise_mergeSort ?_ ?_ _).imp of_decide_eq_true
    · intro a b c hab hbc
      exact decide_eq_true (String.le_trans (of_decide_eq_true hab) (of_decide_eq_true hbc))
    · intro a b
      rw [Bool.or_eq_true, decide_eq_true_eq, decide_eq_true_eq]
      exact String.le_total a b
  nodup := (List.mergeSort_perm _ _).nodup_iff.mpr g.nodup_known
  mem name := by rw [List.mem_mergeSort, mem_map_fst_known]

theorem mem_entries_of_class? (hm : g.class? name = some m) : (name, m) ∈ g.entries := by
  obtain ⟨⟨other, c⟩, hfind, rfl⟩ := Option.map_eq_some_iff.mp hm
  have hname := List.find?_some hfind
  obtain rfl : other = name := of_decide_eq_true hname
  exact List.mem_reverse.mp (List.mem_of_find?_eq_some hfind)

theorem bind_lookup_known (g : Given) (d : Definition) :
    (d.model.text?.bind fun name => g.known.lookup name) = (g.classOf d).map Model.id := by
  rw [classOf, Option.map_bind]
  exact congrArg d.model.text?.bind (funext g.lookup_known)

theorem locate_cons (hm : g.classOf d = some m) (rest : List Definition) :
    locate g.known (d :: rest) = (locate g.known rest).map ((m.id, d) :: ·) := by
  rw [locate, bind_lookup_known, hm]
  rfl

theorem locate_of_none (hm : g.classOf d = none) (rest : List Definition) :
    locate g.known (d :: rest) = .error (.unknownModel d.model d.name
      ((g.known.map Prod.fst).mergeSort fun a b => decide (a ≤ b))) := by
  rw [locate, bind_lookup_known, hm]
  rfl

/-- One definition of an unknown model is enough, wherever it stands. -/
theorem locate_of_unknown {before behind : List Definition}
    (hbefore : ∀ b ∈ before, g.classOf b ≠ none) (hm : g.classOf d = none) :
    locate g.known (before ++ d :: behind) = .error (.unknownModel d.model d.name
      ((g.known.map Prod.fst).mergeSort fun a b => decide (a ≤ b))) := by
  induction before with
  | nil => exact locate_of_none hm behind
  | cons b rest ih =>
      obtain ⟨hb, hrest⟩ := List.forall_mem_cons.mp hbefore
      obtain ⟨c, hc⟩ := Option.ne_none_iff_exists'.mp hb
      rw [List.cons_append, locate_cons hc, ih hrest]
      rfl

theorem exists_located {ds : List Definition} (hknown : ∀ d ∈ ds, g.classOf d ≠ none) :
    ∃ located, locate g.known ds = .ok located := by
  induction ds with
  | nil => exact ⟨[], rfl⟩
  | cons d rest ih =>
      obtain ⟨hd, hrest⟩ := List.forall_mem_cons.mp hknown
      obtain ⟨m, hm⟩ := Option.ne_none_iff_exists'.mp hd
      obtain ⟨located, hlocated⟩ := ih hrest
      exact ⟨(m.id, d) :: located, by rw [locate_cons hm, hlocated]; rfl⟩

end Given

/-! ## One by one -/

theorem latest?_cons (made : Made) (owner : Nat) (f : Finder) (id : Nat) (name : String) :
    latest? ((owner, f) :: made) id name =
      (latest? made id name).or (if id = owner ∧ name = f.name then some f else none) := by
  rw [latest?, List.reverse_cons, List.find?_append, Option.map_or, latest?]
  by_cases h : id = owner ∧ name = f.name
  · simp [h]
  · simp [h]

/-- The finder that a document defines is defined on a class. -/
def defineOn (ms : Models) (here : Surroundings) (c : Model) (d : Definition) :
    Traced Finder × Models :=
  ms.define here c d.name d.arity (.value (.dict d.options))

/-- Definitions are made one by one, each on its class as that is by then: what was done on the way,
what the classes have got, and the models after that. -/
inductive Given.OneByOne (g : Given) (here : Surroundings) :
    Models → List Definition → List Event → Made → Models → Prop where
  | nil (ms : Models) : OneByOne g here ms [] [] [] ms
  | cons {ms last : Models} {d : Definition} {rest : List Definition} {m c : Model} {f : Finder}
      {events : List Event} {made : Made} (hclass : g.classOf d = some m)
      (hnow : ms.get? m.id = some c) (hdefine : (ms.defineOn here c d).1.result = .ok f)
      (hrest : OneByOne g here (ms.defineOn here c d).2 rest events made last) :
      OneByOne g here ms (d :: rest) ((ms.defineOn here c d).1.events ++ events)
        ((m.id, f) :: made) last

/-- What becomes of definitions: all of them are made, or those before the first that fails. -/
inductive Given.Ends (g : Given) (here : Surroundings) (ms : Models) :
    List Definition → Traced (List Finder) × Models → Prop where
  | complete {ds : List Definition} {events : List Event} {made : Made} {last : Models}
      (hmade : g.OneByOne here ms ds events made last) :
      Ends g here ms ds (⟨events, .ok (made.map Prod.snd)⟩, last)
  | stopped {before behind : List Definition} {d : Definition} {events : List Event} {made : Made}
      {middle : Models} {m c : Model} {e : Error}
      (hmade : g.OneByOne here ms before events made middle) (hclass : g.classOf d = some m)
      (hnow : middle.get? m.id = some c)
      (hfails : (middle.defineOn here c d).1.result = .error e) :
      Ends g here ms (before ++ d :: behind)
        (⟨events ++ (middle.defineOn here c d).1.events, .error e⟩, middle)

namespace Given

variable {g : Given} {here : Surroundings} {ms last : Models} {d : Definition}
  {rest : List Definition} {m c : Model} {f : Finder} {e : Error}

theorem applyAll_of_error (hclass : g.classOf d = some m)
    (hrest : ∀ d ∈ rest, g.classOf d ≠ none) (hnow : ms.get? m.id = some c)
    (hfails : (ms.defineOn here c d).1.result = .error e) :
    ms.applyAll here g.known (d :: rest) =
      (⟨(ms.defineOn here c d).1.events, .error e⟩, ms) := by
  obtain ⟨located, hlocated⟩ := exists_located hrest
  have hsame : (ms.defineOn here c d).2 = ms := define_of_error hfails
  rw [defineOn] at hfails hsame ⊢
  simp only [applyAll, locate_cons hclass, hlocated, Except.map, defineAll, hnow, hfails, hsame]

theorem applyAll_of_ok (hclass : g.classOf d = some m)
    (hrest : ∀ d ∈ rest, g.classOf d ≠ none) (hnow : ms.get? m.id = some c)
    (hdefine : (ms.defineOn here c d).1.result = .ok f) :
    ms.applyAll here g.known (d :: rest) =
      let answer := (ms.defineOn here c d).2.applyAll here g.known rest
      (⟨(ms.defineOn here c d).1.events ++ answer.1.events, answer.1.result.map (f :: ·)⟩,
        answer.2) := by
  obtain ⟨located, hlocated⟩ := exists_located hrest
  rw [defineOn] at hdefine ⊢
  simp only [applyAll, locate_cons hclass, hlocated, Except.map, defineAll, hnow, hdefine]

/-- A definition that is made goes before all that follows it. -/
theorem Ends.cons {answer : Traced (List Finder) × Models} (hclass : g.classOf d = some m)
    (hnow : ms.get? m.id = some c) (hdefine : (ms.defineOn here c d).1.result = .ok f)
    (hends : g.Ends here (ms.defineOn here c d).2 rest answer) :
    g.Ends here ms (d :: rest)
      (⟨(ms.defineOn here c d).1.events ++ answer.1.events, answer.1.result.map (f :: ·)⟩,
        answer.2) := by
  cases hends with
  | complete hmade => exact .complete (.cons hclass hnow hdefine hmade)
  | @stopped before behind failed events made middle _ _ e hmade hfailed hthen hfails =>
      rw [← List.append_assoc]
      exact .stopped (.cons hclass hnow hdefine hmade) hfailed hthen hfails

theorem Ends.exists_made {ds : List Definition} {answer : Traced (List Finder) × Models}
    (hends : g.Ends here ms ds answer) (hsucceeds : answer.1.result.toBool = true) :
    ∃ events made, g.OneByOne here ms ds events made answer.2 ∧
      answer.1.result = .ok (made.map Prod.snd) := by
  cases hends with
  | complete hmade => exact ⟨_, _, hmade, rfl⟩
  | stopped => cases hsucceeds

/-- No definition makes a class or takes one away. -/
theorem length_defineOn (ms : Models) (here : Surroundings) (c : Model) (d : Definition) :
    (ms.defineOn here c d).2.list.length = ms.list.length := by
  rw [defineOn]
  cases hresult : (ms.define here c d.name d.arity (.value (.dict d.options))).1.result with
  | error e => rw [define_of_error hresult]
  | ok f =>
      rw [(define_of_ok hresult).1]
      exact List.length_set ..

theorem ends_applyAll {ds : List Definition}
    (hknown : ∀ d ∈ ds, ∃ m, g.classOf d = some m ∧ m.id < ms.list.length) :
    g.Ends here ms ds (ms.applyAll here g.known ds) := by
  induction ds generalizing ms with
  | nil => exact .complete (.nil ms)
  | cons d rest ih =>
      obtain ⟨⟨m, hclass, hid⟩, hrest⟩ := List.forall_mem_cons.mp hknown
      have hnow : ms.get? m.id = some ms.list[m.id] := List.getElem?_eq_getElem hid
      have hlocated : ∀ d ∈ rest, g.classOf d ≠ none := fun d hd => by
        obtain ⟨c, hc, -⟩ := hrest d hd
        exact hc ▸ Option.some_ne_none c
      cases hresult : (ms.defineOn here ms.list[m.id] d).1.result with
      | error e =>
          rw [applyAll_of_error hclass hlocated hnow hresult]
          have hstopped : g.Ends here ms ([] ++ d :: rest) _ :=
            .stopped (.nil ms) hclass hnow hresult
          exact hstopped
      | ok f =>
          rw [applyAll_of_ok hclass hlocated hnow hresult]
          refine .cons hclass hnow hresult (ih fun d hd => ?_)
          rw [length_defineOn]
          exact hrest d hd

/-- A finder has the name of its definition and is on the class of that. -/
theorem OneByOne.forall₂ {ds : List Definition} {events : List Event} {made : Made}
    (hmade : g.OneByOne here ms ds events made last) :
    List.Forall₂ (fun d e => (∃ m, g.classOf d = some m ∧ m.id = e.1) ∧
      Spec.readName d.name = .ok e.2.name) ds made := by
  induction hmade with
  | nil ms => exact .nil
  | cons hclass hnow hdefine hrest ih =>
      exact .cons ⟨⟨_, hclass, rfl⟩, (define_of_ok hdefine).2.2⟩ ih

/-- What a definition has made of the models. -/
theorem gets_defineOn (hsound : ms.WellFormed) (hnow : ms.get? m.id = some c)
    (hdefine : (ms.defineOn here c d).1.result = .ok f) :
    (ms.defineOn here c d).2.WellFormed ∧ ms.Gets m.id f (ms.defineOn here c d).2 := by
  obtain ⟨hafter, hfree, hname⟩ := define_of_ok hdefine
  have hc := hsound.get?_id hnow
  have hmove : Move ms [(c.id, f)] (ms.replace (c.attach f)) :=
    .attach hc hfree (Spec.isFinderName_of_readName hname)
  rw [defineOn, hafter, ← hsound.id hnow]
  exact ⟨hmove.wellFormed hsound, gets_attach hc hfree⟩

/-- Under each name a class has the finder that was made last for both, or else what it had. -/
theorem OneByOne.finders {ds : List Definition} {events : List Event} {made : Made}
    (hmade : g.OneByOne here ms ds events made last) (hsound : ms.WellFormed) {place : Nat}
    (hc : ms.get? place = some c) :
    ∃ c', last.get? place = some c' ∧ ∀ name,
      c'.finders.lookup name = (latest? made place name).or (c.finders.lookup name) ∧
      last.ownMember? c' name =
        ((latest? made place name).map .finder).or (ms.ownMember? c name) := by
  induction hmade generalizing c with
  | nil ms => exact ⟨c, hc, fun name => ⟨rfl, rfl⟩⟩
  | @cons ms last d rest m b f events made hclass hnow hdefine hrest ih =>
      obtain ⟨hafter, hgets⟩ := gets_defineOn hsound hnow hdefine
      obtain ⟨between, hbetween, -, hfirst⟩ := hgets.classes hc
      obtain ⟨c', hc', hlater⟩ := ih hafter hbetween
      refine ⟨c', hc', fun name => ?_⟩
      obtain ⟨hfinders, hown⟩ := hlater name
      rw [hfinders, hown, (hfirst name).1, (hfirst name).2, latest?_cons]
      split <;> simp

end Given

end Models

namespace Session

open Models

variable {s : Session}

/-! ## Models that steps give -/

theorem exists_given_of_gather {entries : List (String × String)} {start known : Known}
    (hknown : entries.foldlM
      (fun known e => (s.model e.2).map fun m => Entries.assign known e.1 m.id) start = .ok known) :
    ∃ given : List (String × Model),
      List.Forall₂ (fun e found => found.1 = e.1 ∧ s.model e.2 = .ok found.2) entries given ∧
      known = given.foldl (fun known e => Entries.assign known e.1 e.2.id) start := by
  induction entries generalizing start with
  | nil => exact ⟨[], .nil, (Except.ok.inj hknown).symm⟩
  | cons e rest ih =>
      rw [List.foldlM_cons] at hknown
      obtain ⟨next, hnext, hrest⟩ := bind_eq_ok.mp hknown
      obtain ⟨m, hm, rfl⟩ := map_eq_ok.mp hnext
      obtain ⟨given, hgiven, rfl⟩ := ih hrest
      exact ⟨(e.1, m) :: given, .cons ⟨rfl, hm⟩ hgiven, rfl⟩

theorem mem_of_model {name : String} {m : Model} (hm : s.model name = .ok m) :
    m ∈ s.models.list := by
  unfold model at hm
  split at hm
  · next found hfound =>
    exact Except.ok.inj hm ▸ List.mem_reverse.mp (List.mem_of_find?_eq_some hfound)
  · cases hm

theorem mem_of_gathered {entries : List (String × String)} {given : List (String × Model)}
    (hgiven : List.Forall₂ (fun e found => found.1 = e.1 ∧ s.model e.2 = .ok found.2) entries given)
    {found : String × Model} (hfound : found ∈ given) :
    ∃ e ∈ entries, found.1 = e.1 ∧ s.model e.2 = .ok found.2 := by
  induction hgiven with
  | nil => cases hfound
  | cons hfirst hrest ih =>
      rcases List.mem_cons.mp hfound with rfl | hlater
      · exact ⟨_, List.mem_cons_self, hfirst⟩
      · obtain ⟨e, he, hmodel⟩ := ih hlater
        exact ⟨e, List.mem_cons_of_mem _ he, hmodel⟩

/-- What a step gives to a document are classes of its session, under their own names or others. -/
theorem exists_given_of_known {k : KnownModels} {known : Known} (hknown : s.known k = .ok known) :
    ∃ g : Given, known = g.known ∧ ∀ e ∈ g.entries, e.2 ∈ s.models.list := by
  cases k with
  | classes names =>
      obtain ⟨given, hgiven, rfl⟩ := exists_given_of_gather hknown
      -- every class was looked for under its own name
      have hentries : (Given.classes (given.map Prod.snd)).entries = given := by
        rw [Given.entries, List.map_map, List.map_congr_left, List.map_id]
        intro found hfound
        obtain ⟨e, he, hname, hmodel⟩ := mem_of_gathered hgiven hfound
        obtain ⟨name, -, rfl⟩ := List.mem_map.mp he
        exact Prod.ext ((name_of_model hmodel).trans hname.symm) rfl
      refine ⟨.classes (given.map Prod.snd), by rw [Given.known, hentries], ?_⟩
      rw [hentries]
      intro found hfound
      obtain ⟨e, -, -, hmodel⟩ := mem_of_gathered hgiven hfound
      exact mem_of_model hmodel
  | named entries =>
      obtain ⟨given, hgiven, rfl⟩ := exists_given_of_gather hknown
      refine ⟨.named given, rfl, fun found hfound => ?_⟩
      obtain ⟨e, -, -, hmodel⟩ := mem_of_gathered hgiven hfound
      exact mem_of_model hmodel

/-- A step that puts a document into effect does so with classes of its session. -/
theorem step_apply_eq {document : Option Value} {k : KnownModels} {definitions : List Definition}
    {known : Known} (hprepared : s.prepare document k = .ok (definitions, known)) :
    ∃ g : Given, known = g.known ∧ (∀ e ∈ g.entries, e.2 ∈ s.models.list) ∧
      s.step (.apply document k) =
        (Outcome.finders <$> (s.models.applyAll s.here g.known definitions).1,
          { s with models := (s.models.applyAll s.here g.known definitions).2 }) := by
  have hstep : s.step (.apply document k) = s.apply document k := rfl
  have hknown : s.known k = .ok known := by
    have hlast : ∃ found, (s.known k >>= fun known => .ok (found, known)) =
        .ok (definitions, known) := by
      cases document with
      | none => exact ⟨s.definitions, hprepared⟩
      | some v =>
          obtain ⟨found, -, hrest⟩ := bind_eq_ok.mp hprepared
          exact ⟨found, hrest⟩
    obtain ⟨found, hfound⟩ := hlast
    obtain ⟨names, hnames, hpair⟩ := bind_eq_ok.mp hfound
    exact (Prod.mk.inj (Except.ok.inj hpair)).2 ▸ hnames
  obtain ⟨g, rfl, hgiven⟩ := exists_given_of_known hknown
  refine ⟨g, rfl, hgiven, ?_⟩
  rw [hstep, apply_eq, hprepared]

/-- After any run, definitions that name a model which was not given change nothing, wherever the
first of them stands, and tell its model, its finder and all names that were given.  Otherwise they
have the effect of defining their finders one by one in their order: they give these finders, or
the first failure and what was made before it.  Under each name a class then has the finder that was
made for it last. -/
theorem applyAll_one_by_one_after (dialect : Dialect) (environment : List (String × String))
    (settings : Option Settings) (steps : List Step) (g : Given)
    (hgiven : ∀ e ∈ g.entries,
      e.2 ∈ ((start dialect environment settings).after steps).models.list)
    (definitions : List Definition) :
    let s := (start dialect environment settings).after steps
    let answer := s.models.applyAll s.here g.known definitions
    (∀ before d behind, definitions = before ++ d :: behind →
      (∀ b ∈ before, g.classOf b ≠ none) → g.classOf d = none →
      ∃ names, g.Lists names ∧ (Error.unknownModel d.model d.name names).kind = .definition ∧
        answer = (Traced.fail (.unknownModel d.model d.name names), s.models)) ∧
    ((∀ d ∈ definitions, g.classOf d ≠ none) → g.Ends s.here s.models definitions answer) ∧
    ∀ front events made last, g.OneByOne s.here s.models front events made last →
      List.Forall₂ (fun d e => (∃ m, g.classOf d = some m ∧ m.id = e.1) ∧
        Spec.readName d.name = .ok e.2.name) front made ∧
      ∀ c ∈ s.models.list, ∃ c', last.get? c.id = some c' ∧ ∀ name,
        c'.finders.lookup name = (latest? made c.id name).or (c.finders.lookup name) ∧
        last.ownMember? c' name =
          ((latest? made c.id name).map .finder).or (s.models.ownMember? c name) := by
  intro s answer
  have hsound : s.models.WellFormed := wellFormed_after dialect environment settings steps
  refine ⟨?_, ?_, ?_⟩
  · rintro before d behind rfl hbefore hunknown
    refine ⟨_, g.lists_known, rfl, ?_⟩
    simp only [answer, applyAll, Given.locate_of_unknown hbefore hunknown]
  · intro hknown
    refine Given.ends_applyAll fun d hd => ?_
    obtain ⟨m, hm⟩ := Option.ne_none_iff_exists'.mp (hknown d hd)
    obtain ⟨name, -, hclass⟩ := Option.bind_eq_some_iff.mp hm
    have hmem := hgiven _ (Given.mem_entries_of_class? hclass)
    have hget : s.models.get? m.id = some m := hsound.get?_of_mem hmem
    exact ⟨m, hm, (List.getElem?_eq_some_iff.mp hget).1⟩
  · intro front events made last hmade
    exact ⟨hmade.forall₂, fun c hc => hmade.finders hsound (hsound.get?_of_mem hc)⟩

def diner : Session := (start .sqlite [] none).after [creation "Recipe" none]

/-- One class under two names. -/
def dishNames : Given := .named (diner.models.list.flatMap fun m => [("Dish", m), ("Meal", m)])

/-- The class gets a finder under each of its names in turn. -/
def dishes : List Definition :=
  [⟨.str "Dish", .str "cheap", .str "all", []⟩, ⟨.str "Meal", .str "cheap", .str "first", []⟩]

def strange : Definition := ⟨.str "Pasta", .str "cheap", .str "all", []⟩

theorem mem_diner : ∀ e ∈ dishNames.entries, e.2 ∈ diner.models.list := by
  intro e he
  obtain ⟨m, hm, hnamed⟩ := List.mem_flatMap.mp he
  simp only [List.mem_cons, List.not_mem_nil, or_false] at hnamed
  rcases hnamed with rfl | rfl
  · exact hm
  · exact hm

theorem classOf_dishes : ∀ d ∈ dishes, (dishNames.classOf d).map Model.id = some 0 := by
  have hall : dishes.all (fun d => (dishNames.classOf d).map Model.id = some 0) = true := by
    decide +kernel
  exact fun d hd => of_decide_eq_true (List.all_eq_true.mp hall d hd)

/-- The class has the second of two finders with one name, and neither if a third definition names
an unknown model. -/
theorem applyAll_one_by_one_dishes :
    (∃ first second c,
      (diner.models.applyAll diner.here dishNames.known dishes).1.result =
        .ok [first, second] ∧
      (diner.models.applyAll diner.here dishNames.known dishes).2.get? 0 = some c ∧
        c.finders.lookup "cheap" = some second) ∧
    (diner.models.applyAll diner.here dishNames.known (dishes ++ [strange])).2 =
      diner.models := by
  have hsucceeds :
      (diner.models.applyAll diner.here dishNames.known dishes).1.result.toBool = true := by
    decide +kernel
  have hrecipes : (diner.models.get? 0).isSome = true := by decide +kernel
  have hstrange : (dishNames.classOf strange).isNone = true := by decide +kernel
  have hknown : ∀ d ∈ dishes, dishNames.classOf d ≠ none := fun d hd hmissing => by
    have hid := classOf_dishes d hd
    rw [hmissing] at hid
    cases hid
  have hsound : diner.models.WellFormed :=
    wellFormed_after .sqlite [] none [creation "Recipe" none]
  have hdiner : (start .sqlite [] none).after [creation "Recipe" none] = diner := rfl
  have hmain :=
    applyAll_one_by_one_after .sqlite [] none [creation "Recipe" none] dishNames mem_diner
  simp only [hdiner] at hmain
  constructor
  · obtain ⟨-, hends, hfinders⟩ := hmain dishes
    obtain ⟨events, made, hmade, hresult⟩ := (hends hknown).exists_made hsucceeds
    obtain ⟨hmatch, hclass⟩ := hfinders dishes events made _ hmade
    obtain ⟨recipe, hrecipe⟩ := Option.isSome_iff_exists.mp hrecipes
    obtain ⟨c, hc, hnames⟩ := hclass recipe (List.mem_of_getElem? hrecipe)
    rw [hsound.id hrecipe] at hc hnames
    rw [dishes] at hmatch
    obtain ⟨⟨earlier, f⟩, others, -, hothers, rfl⟩ := List.forall₂_cons_left_iff.mp hmatch
    obtain ⟨⟨owner, g⟩, rest, ⟨⟨m, hm, hid⟩, hname⟩, hrest, rfl⟩ :=
      List.forall₂_cons_left_iff.mp hothers
    obtain rfl := List.forall₂_nil_left_iff.mp hrest
    have howner : 0 = owner := by
      have hzero := classOf_dishes _ (List.mem_cons_of_mem _ List.mem_cons_self)
      rw [hm] at hzero
      exact (Option.some.inj hzero).symm.trans hid
    have hcheap : "cheap" = g.name := Except.ok.inj hname
    have hlatest : latest? ([(earlier, f)] ++ [(owner, g)]) 0 "cheap" = some g := by
      rw [latest?_append_singleton, if_pos ⟨howner, hcheap⟩]
    refine ⟨f, g, c, hresult, hc, (hnames "cheap").1.trans ?_⟩
    rw [List.singleton_append] at hlatest
    rw [hlatest, Option.some_or]
  · obtain ⟨hunknown, -, -⟩ := hmain (dishes ++ [strange])
    obtain ⟨names, -, -, hanswer⟩ :=
      hunknown dishes strange [] rfl hknown (Option.isNone_iff_eq_none.mp hstrange)
    exact congrArg Prod.snd hanswer

end Session

end NamedQuery
