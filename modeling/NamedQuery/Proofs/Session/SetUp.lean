import NamedQuery.Proofs.Model.Interchange
import NamedQuery.Proofs.Session.Restrictions

/-!
# The order of setting up

A class can be created before or behind the definition of a finder on another class.  Either way the
same models come out, with the same finder in the same place, but for one text: the restriction that
the finder has got from its class is the one of the time when it was defined.  So the order makes no
difference to what the finder shows and runs exactly if the class that is created does not change
this restriction.
-/

namespace NamedQuery

/-- The text of an outcome that is one. -/
def Outcome.text? : Outcome → Option String
  | .text sql => some sql
  | _ => none

theorem Outcome.eq_of_text? {outcome : Outcome} {sql : String} (h : outcome.text? = some sql) :
    outcome = .text sql := by
  unfold text? at h
  split at h
  · rw [Option.some.inj h]
  · cases h

namespace Session

/-- After any run, a class may be created before or behind a definition on another class.  A
definition that succeeds before succeeds behind it too, unless the restriction cannot be told any
more.  Either way the same comes of the creation, and the models are the same but for the finder.
What the finder shows and runs for arguments is the same but for the restriction, which is the one
of the time of the definition: every statement that is shown in one order is shown in the other
exactly if the restriction has not changed.  It only changes for a class that shares the table of
the one above and whose subtree has got identities. -/
theorem set_up_after (dialect : Dialect) (environment : List (String × String))
    (settings : Option Settings) (steps : List Step) :
    let ms := ((start dialect environment settings).after steps).models
    ∀ m ∈ ms.list, ∀ (here : Surroundings) (plan : ModelPlan) (name arity : Value)
      (options : GivenOptions) (early : Finder),
      let defined := (ms.define here m name arity options).2
      let created := (ms.add plan).2
      (ms.define here m name arity options).1.result = .ok early →
      ((∃ late, (created.define here m name arity options).1.result = .ok late) ↔
        ∃ after, created.restrictionOf here.dialect m = .ok after) ∧
      ∀ late, (created.define here m name arity options).1.result = .ok late →
        let one := (defined.add plan).2
        let other := (created.define here m name arity options).2
        (defined.add plan).1 = (ms.add plan).1 ∧
        one = created.replace (m.attach early) ∧ other = created.replace (m.attach late) ∧
        ∃ before after, ms.restrictionOf here.dialect m = .ok before ∧
          created.restrictionOf here.dialect m = .ok after ∧ (late = early ↔ before = after) ∧
          (∃ words ∈ [" WHERE (", " AND ("], ∃ shown,
            one.ShowsAround here.dialect (m.attach early) early
              (Layout.conjunction words before) shown ∧
            other.ShowsAround here.dialect (m.attach late) late
              (Layout.conjunction words after) shown) ∧
          (∀ args sql, (one.preview here.dialect (m.attach early) early args).result = .ok sql →
            ((other.preview here.dialect (m.attach late) late args).result = .ok sql ↔
              before = after)) ∧
          (before ≠ after → ms.fixedBackend? m = none ∧ ∃ c, ms.mappedClass? m = some c ∧
            c.lineage.isSharing = true ∧
            ms.catalog.identities c ⊆ created.catalog.identities c ∧
            created.catalog.identities c ≠ ms.catalog.identities c) := by
  intro ms m hmem here plan name arity options early defined created hearly
  have hsound : ms.WellFormed := wellFormed_after dialect environment settings steps
  have hm := hsound.get?_of_mem hmem
  have hgrows := hsound.grows_add plan
  have hcalled := Models.called_add ms plan
  constructor
  · simp only [Models.define, Models.result_defineWith] at hearly ⊢
    exact hsound.exists_compileWith_iff hgrows hcalled hm hearly
  · intro late hlate one other
    obtain ⟨hadd, hother, first, last, before, after, hfirst, hlast, hbefore, hafter, hsame,
      words, hwords, shown, hinj, hshows, hshows'⟩ := hsound.define_add hm plan hearly hlate
    obtain ⟨hmade, hone⟩ : (defined.add plan).1 = (ms.add plan).1 ∧
        one = created.replace (m.attach early) := Prod.ext_iff.mp hadd
    rw [← hone] at hshows
    rw [← hother] at hshows'
    refine ⟨hmade, hone, hother, before, after, ?_, ?_, hsame,
      ⟨words, hwords, shown, hshows, hshows'⟩, ?_, ?_⟩
    · rw [Models.restrictionOf_of_backendOf hfirst, hbefore]
    · rw [Models.restrictionOf_of_backendOf hlast, hafter]
    · intro args sql hsql
      exact (hshows.preview_eq_iff hshows' hsql).trans hinj
    · exact hsound.restriction_changes hgrows hcalled hm hfirst hlast hbefore hafter

/-- A class of stews below that of soups, in the same table. -/
def stews (parent : Option Nat) : ModelPlan :=
  { name := "Stew", parent, offersFinders := true, prefetches := false, rule := none
    backend := none, attributes := [], mapping := some ⟨.sharing, none, .str "stew", []⟩ }

/-- The definition of a finder without options. -/
def defineCheap (ms : Models) (m : Model) : Traced Finder × Models :=
  ms.define .usual m (.str "cheap") (.str "all") (.value (.dict []))

/-- Stews change what soups are restricted to, so no statement that a finder on soups shows in one
order is shown in the other. -/
theorem set_up_of_soups :
    let ms := ((start .sqlite [] none).after kitchen).models
    let created := (ms.add (stews (some 1))).2
    ∃ soup early late, ms.get? 1 = some soup ∧ (defineCheap ms soup).1.result = .ok early ∧
      (defineCheap created soup).1.result = .ok late ∧ late ≠ early ∧
      ∀ args sql,
        (((defineCheap ms soup).2.add (stews (some 1))).2.preview .sqlite (soup.attach early) early
            args).result = .ok sql →
          ((defineCheap created soup).2.preview .sqlite (soup.attach late) late args).result ≠
            .ok sql := by
  intro ms created
  have hsoups : (ms.get? 1).any (fun soup =>
      (defineCheap ms soup).1.result.toOption.isSome &&
        (defineCheap created soup).1.result.toOption.isSome &&
        (ms.restrictionOf .sqlite soup).toOption = some (some "recipes.kind IN ('soup')") &&
        (created.restrictionOf .sqlite soup).toOption =
          some (some "recipes.kind IN ('soup', 'stew')")) = true := by
    decide +kernel
  have hsetup := set_up_after .sqlite [] none kitchen
  change ∀ m ∈ ms.list, _ at hsetup
  obtain ⟨soup, hsoup, hall⟩ := (Option.any_eq_true _ _).mp hsoups
  simp only [Bool.and_eq_true, decide_eq_true_eq, Option.isSome_iff_exists, toOption_eq_some]
    at hall
  obtain ⟨⟨⟨⟨early, hearly⟩, ⟨late, hlate⟩⟩, hsoupsOnly⟩, hboth⟩ := hall
  obtain ⟨-, horders⟩ :=
    hsetup soup (List.mem_of_getElem? hsoup) .usual (stews (some 1)) _ _ _ early hearly
  obtain ⟨-, -, -, before, after, hbefore, hafter, hsame, -, hpreview, -⟩ := horders late hlate
  have hne : before ≠ after := by
    obtain rfl := Except.ok.inj (hsoupsOnly.symm.trans hbefore)
    obtain rfl := Except.ok.inj (hboth.symm.trans hafter)
    decide
  refine ⟨soup, early, late, hsoup, hearly, hlate, fun hfinder => hne (hsame.mp hfinder), ?_⟩
  intro args sql hsql hother
  exact hne ((hpreview args sql hsql).mp hother)

/-- What soups show if stews are created behind the definition of their finder, and before it. -/
theorem preview_of_soups :
    let definition := Step.define (asked "Soup" "cheap" "all" [])
    let creation := Step.create (stews none) (some "Soup")
    let one := (start .sqlite [] none).after (kitchen ++ [definition, creation])
    let other := (start .sqlite [] none).after (kitchen ++ [creation, definition])
    (one.models.find? "Stew").isSome = true ∧ (other.models.find? "Stew").isSome = true ∧
      (one.preview ⟨"Soup", "cheap", false⟩ ⟨[], []⟩).result =
        .ok (.text "SELECT * FROM recipes WHERE (recipes.kind IN ('soup'))") ∧
      (other.preview ⟨"Soup", "cheap", false⟩ ⟨[], []⟩).result =
        .ok (.text "SELECT * FROM recipes WHERE (recipes.kind IN ('soup', 'stew'))") := by
  have hshown {s : Session} {target : Target} {sql : String}
      (hsql : (s.preview target ⟨[], []⟩).result.toOption.bind Outcome.text? = some sql) :
      (s.preview target ⟨[], []⟩).result = .ok (.text sql) := by
    obtain ⟨outcome, houtcome, htext⟩ := Option.bind_eq_some_iff.mp hsql
    rw [toOption_eq_some.mp houtcome, Outcome.eq_of_text? htext]
  exact ⟨by decide +kernel, by decide +kernel, hshown (by decide +kernel),
    hshown (by decide +kernel)⟩

end Session

end NamedQuery
