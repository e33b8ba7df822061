import NamedQuery.Proofs.Session.Demands

/-!
# Finders after any run

After any run of a session, what a class lists as its finders is what it has attached to itself, and
under each name this is the finder that was defined on it last.  Whoever reads the name through the
class or an instance gets the finder of the nearest class that has anything under it.
-/

namespace NamedQuery.Session

variable {s : Session} {m : Model} {f : Finder}

theorem reachFinder_eq_ok {t : Target} {next : String} :
    s.reachFinder t next = .ok (m, f) ↔ s.reach t = .ok (m, .finder f) := by
  unfold reachFinder
  rw [bind_eq_ok]
  constructor
  · rintro ⟨⟨c, member⟩, hreach, hrest⟩
    cases member with
    | finder g =>
        obtain ⟨rfl, rfl⟩ := Prod.mk.inj (Except.ok.inj hrest)
        exact hreach
    | _ => cases hrest
  · exact fun hreach => ⟨_, hreach, rfl⟩

/-- What a target that is a finder holds, in models whose finders and attributes agree. -/
theorem reachFinder_eq_nearest {made : Models.Made} (hsound : s.models.WellFormed)
    (hcoherent : s.models.Coherent made) {t : Target} (hm : s.model t.model = .ok m)
    (next : String) :
    s.reachFinder t next = .ok (m, f) ↔
      (t.ofInstance = true → s.models.typeHeld? m t.name = none) ∧
        s.models.NearestFinder m t.name f := by
  have hmodel := get?_of_model hsound hm
  rw [reachFinder_eq_ok, reach_eq_ok, ← hcoherent.inherited?_eq_finder hsound hmodel]
  cases hinstance : t.ofInstance with
  | false => simp [hm, Models.attribute?_eq_finder]
  | true => simp [hm, Models.instanceAttribute?_eq_finder]

/-- After any run, the finders of a class and its own attributes are the same under every name, and
they are what was defined on the class last.  A class and its instances read the finder of the
nearest class that has anything under a name; only an instance that holds its type there reads this
instead. -/
theorem finders_coherent_after (dialect : Dialect) (environment : List (String × String))
    (settings : Option Settings) (steps : List Step) :
    let s := (start dialect environment settings).after steps
    let made := (start dialect environment settings).madeIn steps
    ∀ m ∈ s.models.list, ∀ name f,
      (m.finders.lookup name = some f ↔ s.models.ownMember? m name = some (.finder f)) ∧
      (m.finders.lookup name = some f ↔ Models.latest? made m.id name = some f) ∧
      (m.finders.lookup name = some f → f.name = name) ∧
      (s.models.attribute? m name = some (.finder f) ↔ s.models.NearestFinder m name f) ∧
      ∀ t : Target, t.name = name → s.model t.model = .ok m → ∀ next,
        (s.reachFinder t next = .ok (m, f) ↔
          (t.ofInstance = true → s.models.typeHeld? m name = none) ∧
            s.models.NearestFinder m name f) := by
  intro s made m hmem name f
  have hstart := wellFormed_start dialect environment settings
  have hmoves := moves_after hstart steps
  have hsound : s.models.WellFormed := hmoves.wellFormed hstart
  have hcoherent : s.models.Coherent made := Models.coherent_empty.moves hstart hmoves
  have hm := hsound.get?_of_mem hmem
  have hlatest := hcoherent.latest hm name
  refine ⟨(hcoherent.own hm name f).symm, by rw [hlatest], ?_, ?_, ?_⟩
  · intro hfinder
    exact Models.name_latest? (hlatest.symm.trans hfinder)
  · rw [Models.attribute?_eq_finder, hcoherent.inherited?_eq_finder hsound hm]
  · rintro t rfl hmodel next
    exact reachFinder_eq_nearest hsound hcoherent hmodel next

/-- A class has a finder defined twice, after another class was put below it. -/
def redefining : List Step :=
  [creation "Recipe" none, creation "Soup" (some "Recipe"),
    .define (asked "Recipe" "cheap" "all" []), .define (asked "Recipe" "cheap" "first" [])]

/-- An instance of the class below reads the finder that was defined last. -/
theorem reachFinder_after_redefining :
    ∃ soup f, f.arity = .single ∧
      Models.latest? ((start .sqlite [] none).madeIn redefining) 0 "cheap" = some f ∧
      ((start .sqlite [] none).after redefining).reachFinder ⟨"Soup", "cheap", true⟩ "to_sql" =
        .ok (soup, f) := by
  have hsoups : (((start .sqlite [] none).after redefining).models.find? "Soup").any (fun soup =>
      soup.ancestors = [0] &&
        (((start .sqlite [] none).after redefining).models.ownMember? soup "cheap").isNone &&
        (((start .sqlite [] none).after redefining).models.typeHeld? soup "cheap").isNone) =
      true := by decide +kernel
  have hfinders : ((((start .sqlite [] none).after redefining).models.get? 0).bind fun recipe =>
      recipe.finders.lookup "cheap").map Finder.arity = some .single := by decide +kernel
  have hsound := wellFormed_after .sqlite [] none redefining
  have hcoherent := finders_coherent_after .sqlite [] none redefining
  dsimp only at hcoherent
  -- from here on nothing depends on what the steps are
  generalize (start .sqlite [] none).after redefining = s at *
  generalize (start .sqlite [] none).madeIn redefining = made at *
  obtain ⟨soup, hsoup, hbare⟩ := (Option.any_eq_true _ _).mp hsoups
  obtain ⟨f, hf, harity⟩ := Option.map_eq_some_iff.mp hfinders
  obtain ⟨recipe, hrecipe, hlookup⟩ := Option.bind_eq_some_iff.mp hf
  simp only [Bool.and_eq_true, decide_eq_true_eq, Option.isNone_iff_eq_none] at hbare
  obtain ⟨⟨hancestors, hnone⟩, htype⟩ := hbare
  have hchain : s.models.chain soup = [soup, recipe] := by
    rw [Models.chain, hancestors]
    simp [hrecipe]
  have hnearest : s.models.NearestFinder soup "cheap" f :=
    ⟨[soup], recipe, [], hchain, by simpa using hnone, hlookup⟩
  have hmodel : s.model "Soup" = .ok soup := by rw [model, hsoup]
  have hheir := List.mem_of_getElem? (get?_of_model hsound hmodel)
  obtain ⟨-, hlatest, -⟩ := hcoherent recipe (List.mem_of_getElem? hrecipe) "cheap" f
  obtain ⟨-, -, -, -, hreads⟩ := hcoherent soup hheir "cheap" f
  refine ⟨soup, f, harity, ?_, ?_⟩
  · rw [← hlatest.mp hlookup, hsound.id hrecipe]
  · exact (hreads ⟨"Soup", "cheap", true⟩ rfl hmodel "to_sql").mpr ⟨fun _ => htype, hnearest⟩

/-! ## Instances that hold their type -/

/-- A class that shares the table of the one above, with a value of its own for a column. -/
def variation (name parent : String) (identity column : Value) : Step :=
  .create
    { name, parent := none, offersFinders := true, prefetches := false, rule := none
      backend := none, mapping := some ⟨.sharing, none, identity, []⟩
      attributes := [("kind", column)] } (some parent)

/-- A class has a finder under the name of the column that tells types apart, where this column is
hidden by what the classes above have been given. -/
def concealing : List Step :=
  [.create
    { name := "Recipe", parent := none, offersFinders := true, prefetches := false, rule := none
      backend := none, attributes := []
      mapping := some ⟨.table none "recipes", some ⟨"kind", "kind"⟩, .str "recipe", []⟩ } none,
    variation "Dish" "Recipe" (.str "dish") (.str "any"),
    variation "Soup" "Dish" (.str "soup") .null, .define (asked "Soup" "kind" "all" [])]

def concealed : Session := (start .sqlite [] none).after concealing

/-- The nearest class that has anything under the name has a finder there, and yet an instance reads
its type. -/
theorem instanceAttribute?_concealed :
    ∃ soup f identity, concealed.models.get? 2 = some soup ∧
      concealed.models.NearestFinder soup "kind" f ∧
      concealed.models.instanceAttribute? soup "kind" = .ok (some (.value identity)) := by
  have hsoups : (concealed.models.get? 2).any (fun soup =>
      (soup.finders.lookup "kind").isSome && (concealed.models.typeHeld? soup "kind").isSome) =
        true := by decide +kernel
  obtain ⟨soup, hsoup, hboth⟩ := (Option.any_eq_true _ _).mp hsoups
  simp only [Bool.and_eq_true, Option.isSome_iff_exists] at hboth
  obtain ⟨⟨f, hfinder⟩, identity, htype⟩ := hboth
  have hstart := wellFormed_start .sqlite [] none
  have hmoves := moves_after hstart concealing
  have hsound : concealed.models.WellFormed := hmoves.wellFormed hstart
  have hcoherent : concealed.models.Coherent _ := Models.coherent_empty.moves hstart hmoves
  have hnearest : concealed.models.NearestFinder soup "kind" f := ⟨[], soup, _, rfl, nofun, hfinder⟩
  have hinherited :=
    (hcoherent.inherited?_eq_finder hsound (hsound.get?_id hsoup)).mpr hnearest
  exact ⟨soup, f, identity, hsoup, hnearest,
    Models.instanceAttribute?_of_typeHeld? htype hinherited⟩

end NamedQuery.Session
