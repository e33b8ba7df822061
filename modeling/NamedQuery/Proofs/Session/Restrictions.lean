import NamedQuery.Proofs.Mapping.Descendants
import NamedQuery.Proofs.Model.Restriction
import NamedQuery.Proofs.Session.Origins

/-!
# Restrictions after any run

A finder that a class reads is held to the restriction of the class that it was defined on, not to
that of the class that reads it.  The restriction names the types below the defining class as they
were at the definition; since types are only added, none of them has left the hierarchy of the class
since.
-/

namespace NamedQuery

/-- The finder that a class has under some name. -/
def Member.finder? : Member → Option Finder
  | .finder f => some f
  | _ => none

theorem Member.eq_of_finder? {member : Member} {f : Finder} (h : member.finder? = some f) :
    member = .finder f := by
  cases member with
  | finder g => exact congrArg Member.finder (Option.some.inj h)
  | _ => cases h

namespace Session

/-- After any run, whatever finder a class reads under a name was defined at some moment of the run
on the nearest class that has anything under the name.  If that class shares the table of the one
above, uses the backend of its mapping and had identities in its subtree at that moment, then every
statement that the finder runs or shows, through whatever class, asks for rows with one of these
identities, all of which are identities of its subtree still. -/
theorem restriction_after (dialect : Dialect) (environment : List (String × String))
    (settings : Option Settings) (steps : List Step) :
    let s := (start dialect environment settings).after steps
    ∀ m ∈ s.models.list, ∀ name f, s.models.attribute? m name = some (.finder f) →
      ∃ nearer owner farther, s.models.chain m = nearer ++ owner :: farther ∧
        (∀ c ∈ nearer, s.models.ownMember? c name = none) ∧ owner.finders.lookup name = some f ∧
        ∃ o : s.models.Origin dialect owner.id f, ∀ c t, s.models.mappedClass? owner = some c →
          c.lineage.isSharing = true → c.typeColumn = some t →
          (∀ above ∈ s.models.chain owner, above.backend = none) →
          o.before.catalog.identities c ≠ [] →
            ∃ table literals, o.before.catalog.tableName c = .ok table ∧
              dialect.quote (.list (o.before.catalog.identities c)) = .ok literals ∧
              f.HeldTo (table ++ "." ++ t.column.name ++ " IN (" ++ literals ++ ")") ∧
              o.before.catalog.identities c ⊆ s.models.catalog.identities c := by
  intro s m hm name f hread
  have hstart := wellFormed_start dialect environment settings
  have hmoves := moves_after hstart steps
  have hsound : s.models.WellFormed := hmoves.wellFormed hstart
  have hcoherent : s.models.Coherent _ := Models.coherent_empty.moves hstart hmoves
  have horigins := origin_of_mem_madeIn hstart steps
  obtain ⟨nearer, owner, farther, hchain, hnone, hfinder, howner, ⟨o⟩⟩ :=
    Models.exists_origin hsound hcoherent horigins hm hread
  refine ⟨nearer, owner, farther, hchain, hnone, hfinder, o, ?_⟩
  intro c t hmapped hshares htype hbackends hsome
  have hcompile := o.defines
  rw [Models.define, Models.result_defineWith] at hcompile
  obtain ⟨table, literals, htable, hliterals, hheld⟩ :=
    Models.heldTo_identities hcompile (o.fixedBackend?_definer howner hbackends)
      (o.mappedClass?_definer howner hmapped) hshares htype hsome
  exact ⟨table, literals, htable, hliterals, hheld, o.continues.catalog.identities_subset c⟩

/-- A class of recipes with a column that tells types apart, and one of soups in the same table. -/
def kitchen : List Step :=
  [.create
    { name := "Recipe", parent := none, offersFinders := true, prefetches := false, rule := none
      backend := none, attributes := []
      mapping := some ⟨.table none "recipes", some ⟨"kind", "kind"⟩, .str "recipe", []⟩ } none,
    .create
      { name := "Soup", parent := none, offersFinders := true, prefetches := false, rule := none
        backend := none, attributes := []
        mapping := some ⟨.sharing, none, .str "soup", []⟩ } (some "Recipe")]

def souped : Session :=
  (start .sqlite [] none).after (kitchen ++ [.define (asked "Soup" "cheap" "all" [])])

/-- A finder that is defined on soups is held to identities of soups. -/
theorem heldTo_of_soups :
    ∃ soup f table literals, souped.models.get? 1 = some soup ∧
      soup.finders.lookup "cheap" = some f ∧
      f.HeldTo (table ++ "." ++ "kind" ++ " IN (" ++ literals ++ ")") := by
  have hsoups : (souped.models.get? 1).any (fun soup =>
      (soup.finders.lookup "cheap").isSome &&
        (souped.models.chain soup).all (fun c => c.backend.isNone) &&
        (souped.models.mappedClass? soup).any fun c => c.lineage.isSharing &&
          !c.identity.isNull && c.typeColumn.any fun t => t.column.name = "kind") = true := by
    decide +kernel
  have hstart := wellFormed_start .sqlite [] none
  have hmoves := moves_after hstart (kitchen ++ [.define (asked "Soup" "cheap" "all" [])])
  have hsound := hmoves.wellFormed hstart
  have hcoherent := Models.coherent_empty.moves hstart hmoves
  have hrestriction := restriction_after .sqlite [] none
    (kitchen ++ [.define (asked "Soup" "cheap" "all" [])])
  dsimp only at hrestriction
  unfold souped at hsoups ⊢
  -- from here on nothing depends on what the steps are
  generalize (start .sqlite [] none).madeIn _ = made at *
  generalize (start .sqlite [] none).after _ = s at *
  obtain ⟨soup, hsoup, hall⟩ := (Option.any_eq_true _ _).mp hsoups
  simp only [Bool.and_eq_true, List.all_eq_true, Option.isNone_iff_eq_none,
    Option.isSome_iff_exists] at hall
  obtain ⟨⟨⟨f, hfinder⟩, hbackends⟩, hclass⟩ := hall
  obtain ⟨c, hmapped, hparts⟩ := (Option.any_eq_true _ _).mp hclass
  simp only [Bool.and_eq_true, Bool.not_eq_true'] at hparts
  obtain ⟨⟨hshares, hidentity⟩, htype⟩ := hparts
  obtain ⟨t, ht, hcolumn⟩ := (Option.any_eq_true _ _).mp htype
  have hread : s.models.attribute? soup "cheap" = some (.finder f) := by
    rw [Models.attribute?_eq_finder,
      hcoherent.inherited?_eq_finder hsound (hsound.get?_id hsoup)]
    exact ⟨[], soup, _, rfl, nofun, hfinder⟩
  obtain ⟨nearer, owner, farther, hchain, hnone, -, o, hheld⟩ :=
    hrestriction soup (List.mem_of_getElem? hsoup) "cheap" f hread
  have hown := (hcoherent.own hsoup "cheap" f).mpr hfinder
  obtain rfl := Models.owner_of_own hchain hnone hown
  obtain ⟨table, literals, -, -, hrows, -⟩ := hheld c t hmapped hshares ht hbackends
    (List.ne_nil_of_mem (o.before.catalog.identity_mem_identities hidentity))
  rw [of_decide_eq_true hcolumn] at hrows
  exact ⟨owner, f, table, literals, hsoup, hfinder, hrows⟩

/-- Soups read the finder that is defined on recipes, and run it without their restriction. -/
theorem preview_inherited :
    let s := (start .sqlite [] none).after
      (kitchen ++ [.define (asked "Recipe" "cheap" "all" [])])
    ∃ soup f backend, s.models.find? "Soup" = some soup ∧
      s.models.attribute? soup "cheap" = some (.finder f) ∧
      s.models.backendOf .sqlite [] soup = .ok backend ∧
      backend.restriction? = .ok (some "recipes.kind IN ('soup')") ∧
      (s.models.preview .sqlite soup f ⟨[], []⟩).result = .ok "SELECT * FROM recipes" := by
  intro s
  have hsoups : (s.models.find? "Soup").any (fun soup =>
      (((s.models.attribute? soup "cheap").bind Member.finder?).any fun f =>
        (s.models.preview .sqlite soup f ⟨[], []⟩).result.toOption =
          some "SELECT * FROM recipes") &&
      (s.models.backendOf .sqlite [] soup).toOption.any fun backend =>
        backend.restriction?.toOption = some (some "recipes.kind IN ('soup')")) = true := by
    decide +kernel
  obtain ⟨soup, hsoup, hboth⟩ := (Option.any_eq_true _ _).mp hsoups
  obtain ⟨hfinders, hbackends⟩ := Bool.and_eq_true_iff.mp hboth
  obtain ⟨f, hfinder, hpreview⟩ := (Option.any_eq_true _ _).mp hfinders
  obtain ⟨backend, hbackend, hrestriction⟩ := (Option.any_eq_true _ _).mp hbackends
  obtain ⟨member, hread, hmember⟩ := Option.bind_eq_some_iff.mp hfinder
  rw [Member.eq_of_finder? hmember] at hread
  exact ⟨soup, f, backend, hsoup, hread, toOption_eq_some.mp hbackend,
    toOption_eq_some.mp (of_decide_eq_true hrestriction),
    toOption_eq_some.mp (of_decide_eq_true hpreview)⟩

end Session

end NamedQuery
