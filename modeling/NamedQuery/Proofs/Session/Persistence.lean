import NamedQuery.Proofs.Session.Demands

/-!
# Attributes stay

A definition never takes the place of what a class already has under a name, be it its own,
inherited or there by nature.  The check looks at the class that gets the finder only, and yet no
class below it loses anything.
-/

namespace NamedQuery

/-- The text that a class has under some name. -/
def Member.text? : Member → Option String
  | .value (.str text) => some text
  | _ => none

theorem Member.eq_of_text? {member : Member} {text : String} (h : member.text? = some text) :
    member = .value (.str text) := by
  unfold text? at h
  split at h
  · rw [Option.some.inj h]
  · cases h

namespace Session

/-- What a class has under a name at some time of a run, it has for the rest of the run, unless it
is a finder or the value that stands for nothing.  The classes that it extends must take part in
prefetching just as it does itself: otherwise it has a second class above it. -/
theorem attribute?_stays_after (dialect : Dialect) (environment : List (String × String))
    (settings : Option Settings) (before later : List Step) :
    let s := (start dialect environment settings).after before
    let t := s.after later
    ∀ m ∈ s.models.list, s.models.Unmixed m → ∀ name member,
      s.models.attribute? m name = some member → (∀ f, member ≠ .finder f) →
        member ≠ .value .null →
          ∃ m', t.models.get? m.id = some m' ∧ t.models.attribute? m' name = some member := by
  intro s t m hmem hunmixed name member hmember hfinder hnull
  have hsound : s.models.WellFormed := wellFormed_after dialect environment settings before
  have hkept : Models.isFree (s.models.attribute? m name) = false := by
    rw [hmember]
    exact Models.isFree_eq_false.mpr ⟨hfinder, hnull⟩
  obtain ⟨m', hm', hstays⟩ :=
    (moves_after hsound later).exists_attribute?_eq hsound (hsound.get?_of_mem hmem) hunmixed
  exact ⟨m', hm', (hstays name hkept).trans hmember⟩

/-- A class with an attribute, and another one below it. -/
def labelled : List Step :=
  [.create
    { name := "Recipe", parent := none, offersFinders := true, prefetches := false, rule := none
      backend := some .standard, mapping := none, attributes := [("cheap", .str "yes")] } none,
    creation "Soup" (some "Recipe")]

/-- Definitions under the name of the attribute, above and below, and one under another name. -/
def attempts : List Step :=
  [.define (asked "Recipe" "cheap" "all" []), .define (asked "Soup" "cheap" "all" []),
    .define (asked "Recipe" "dear" "all" [])]

theorem attribute?_after_attempts :
    ∃ soup, (((start .sqlite [] none).after labelled).after attempts).models.get? 1 = some soup ∧
      (((start .sqlite [] none).after labelled).after attempts).models.attribute? soup "cheap" =
        some (.value (.str "yes")) := by
  have hsoups : (((start .sqlite [] none).after labelled).models.get? 1).any (fun soup =>
      (((start .sqlite [] none).after labelled).models.chain soup).all
          (fun c => c.prefetches = soup.prefetches) &&
        (((start .sqlite [] none).after labelled).models.attribute? soup "cheap").bind
          Member.text? = some "yes") = true := by decide +kernel
  have hsound := wellFormed_after .sqlite [] none labelled
  have hstays := attribute?_stays_after .sqlite [] none labelled attempts
  dsimp only at hstays
  generalize (start .sqlite [] none).after labelled = s at *
  obtain ⟨soup, hsoup, hboth⟩ := (Option.any_eq_true _ _).mp hsoups
  obtain ⟨hchain, htext⟩ := Bool.and_eq_true_iff.mp hboth
  have hunmixed : s.models.Unmixed soup :=
    fun c hc => of_decide_eq_true (List.all_eq_true.mp hchain c hc)
  obtain ⟨member, hmember, hread⟩ := Option.bind_eq_some_iff.mp (of_decide_eq_true htext)
  rw [Member.eq_of_text? hread] at hmember
  have hkept := hstays soup (List.mem_of_getElem? hsoup) hunmixed "cheap" _ hmember
    (fun _ hfinder => Member.noConfusion hfinder)
    (fun hnull => Value.noConfusion (Member.value.inj hnull))
  rw [hsound.id hsoup] at hkept
  exact hkept

end Session

end NamedQuery
