import Mathlib.Data.List.Basic
import NamedQuery.Proofs.Model.Ancestry
import NamedQuery.Proofs.Model.Backend

/-!
# Attributes of models

A class reads an attribute from the nearest class of its chain that has it, and only behind all of
them from what it offers and what it is by its nature.  Classes that come later change nothing about
this, and neither does anything that leaves the attributes of the chain as they are.
-/

namespace NamedQuery.Models

/-- The attribute that the nearest class of the chain has under a name. -/
def inherited? (ms : Models) (m : Model) (name : String) : Option Member :=
  (ms.chain m).findSome? fun c => ms.ownMember? c name

/-- The attribute under a name that a class has without any class of its chain having it. -/
def innate? (ms : Models) (m : Model) (name : String) : Option Member :=
  ((m.offered ++ ms.ofMapping m).lookup name).orElse fun _ => (ms.natural m).lookup name

theorem findSome?_congr {α β : Type} {p q : α → Option β} {l : List α} (h : ∀ a ∈ l, p a = q a) :
    l.findSome? p = l.findSome? q := by
  rw [← List.head?_filterMap, ← List.head?_filterMap, List.filterMap_congr h]

variable {ms ms' : Models} {m : Model}

theorem map_source? (ms : Models) (m : Model) (name : String) :
    (ms.source? m name).map Prod.snd = ms.inherited? m name := by
  rw [source?, inherited?, List.map_findSome?]
  congr 1
  funext c
  rw [Function.comp_apply, Option.map_map]
  exact Option.map_id'

theorem attribute?_eq (ms : Models) (m : Model) (name : String) :
    ms.attribute? m name = (ms.inherited? m name).orElse fun _ => ms.innate? m name := by
  rw [attribute?, sharedAttribute?, map_source?, innate?]
  cases ms.inherited? m name <;> rfl

/-! ## Later classes -/

theorem WellFormed.mappedClass?_of_grows (h : ms.WellFormed) (hgrows : ms.Grows ms')
    (hm : ms.get? m.id = some m) : ms'.mappedClass? m = ms.mappedClass? m := by
  rw [mappedClass?, mappedClass?]
  cases hmapping : m.mapping with
  | none => rfl
  | some number =>
      obtain ⟨c, hc⟩ := Option.isSome_iff_exists.mp (h.mapping hm number hmapping)
      exact (hgrows.catalog.find? hc).trans hc.symm

theorem mem_classes_of_mappedClass? {c : MappedClass} (hc : ms.mappedClass? m = some c) :
    c ∈ ms.catalog.classes := by
  obtain ⟨number, -, hnumber⟩ := Option.bind_eq_some_iff.mp hc
  exact List.mem_of_getElem? hnumber

theorem WellFormed.face_of_grows (h : ms.WellFormed) (hgrows : ms.Grows ms') {c : MappedClass}
    (hc : c ∈ ms.catalog.classes) :
    (ms'.catalog.tableOf c).map Table.face = (ms.catalog.tableOf c).map Table.face :=
  hgrows.catalog.face_tableOf (h.catalog.table c hc)

theorem WellFormed.label_of_grows (h : ms.WellFormed) (hgrows : ms.Grows ms') {c : MappedClass}
    (hc : c ∈ ms.catalog.classes) : ms'.catalog.label c = ms.catalog.label c := by
  have hlabel := congrArg (Option.map Prod.fst) (h.face_of_grows hgrows hc)
  rw [Option.map_map, Option.map_map] at hlabel
  exact congrArg (fun label => "Mapper[" ++ c.name ++ "(" ++ Option.getD label "" ++ ")]") hlabel

theorem WellFormed.column?_of_grows (h : ms.WellFormed) (hgrows : ms.Grows ms')
    (hm : ms.get? m.id = some m) (name : String) : ms'.column? m name = ms.column? m name := by
  rw [column?, column?, h.mappedClass?_of_grows hgrows hm]
  cases hclass : ms.mappedClass? m with
  | none => rfl
  | some c =>
      cases hproperty : c.properties.lookup name with
      | none => simp [hproperty]
      | some p =>
          have hc := mem_classes_of_mappedClass? hclass
          obtain ⟨before, behind, hproperties, -⟩ := List.lookup_eq_some_iff.mp hproperty
          have howner : p.owner < ms.catalog.classes.length :=
            h.catalog.owner c hc (name, p) (by simp [hproperties])
          have hfound : ms.catalog.find? p.owner = some ms.catalog.classes[p.owner] :=
            List.getElem?_eq_getElem howner
          have hlabel := h.label_of_grows hgrows (List.getElem_mem howner)
          simp [hproperty, hfound, hgrows.catalog.find? hfound, hlabel]

theorem WellFormed.ownMember?_of_grows (h : ms.WellFormed) (hgrows : ms.Grows ms')
    (hm : ms.get? m.id = some m) (name : String) :
    ms'.ownMember? m name = ms.ownMember? m name := by
  rw [ownMember?, ownMember?, h.column?_of_grows hgrows hm]

theorem WellFormed.chain_of_grows (h : ms.WellFormed) (hgrows : ms.Grows ms')
    (hm : ms.get? m.id = some m) : ms'.chain m = ms.chain m := by
  refine h.induct (motive := fun m => ms'.chain m = ms.chain m) ?_ ?_ m hm
  · intro m hroot
    rw [chain_of_root hroot, chain_of_root hroot]
  · intro m parent hparent hextends ih
    rw [chain_of_extends hparent hextends, chain_of_extends (hgrows.get? hparent) hextends, ih]

theorem WellFormed.inherited?_of_grows (h : ms.WellFormed) (hgrows : ms.Grows ms')
    (hm : ms.get? m.id = some m) (name : String) :
    ms'.inherited? m name = ms.inherited? m name := by
  rw [inherited?, inherited?, h.chain_of_grows hgrows hm]
  refine findSome?_congr fun c hc => ?_
  exact h.ownMember?_of_grows hgrows (h.get?_of_mem_chain hm hc) name

theorem WellFormed.ofMapping_of_grows (h : ms.WellFormed) (hgrows : ms.Grows ms')
    (hm : ms.get? m.id = some m) : ms'.ofMapping m = ms.ofMapping m := by
  rw [ofMapping, ofMapping, h.mappedClass?_of_grows hgrows hm]
  cases hclass : ms.mappedClass? m with
  | none => rfl
  | some c =>
      have hshape := congrArg (Option.map Prod.snd)
        (h.face_of_grows hgrows (mem_classes_of_mappedClass? hclass))
      rw [Option.map_map, Option.map_map] at hshape
      have hshape : (ms'.catalog.tableOf c).map Table.shape =
        (ms.catalog.tableOf c).map Table.shape := hshape
      simp only [hshape]

theorem WellFormed.base_of_grows (h : ms.WellFormed) (hgrows : ms.Grows ms')
    (hm : ms.get? m.id = some m) : ms'.base m = ms.base m := by
  rw [base, base]
  rcases h.parent hm with hroot | ⟨parent, hparent, hextends⟩
  · rw [hroot]
    rfl
  · rw [hextends.ancestors]
    simp [hparent, hgrows.get? hparent]

/-- Later classes change no attribute of a class that is there. -/
theorem WellFormed.attribute?_of_grows (h : ms.WellFormed) (hgrows : ms.Grows ms')
    (hm : ms.get? m.id = some m) (name : String) :
    ms'.attribute? m name = ms.attribute? m name := by
  rw [attribute?_eq, attribute?_eq, h.inherited?_of_grows hgrows hm, innate?, innate?,
    h.ofMapping_of_grows hgrows hm, natural, natural, h.base_of_grows hgrows hm]

/-! ## Changes of one model -/

/-- What stands for a class once another one has taken the place of the one with its id. -/
def swapped (m' c : Model) : Model := if c.id = m'.id then m' else c

theorem alike_swapped {m' c : Model} (hm : ms.get? m.id = some m)
    (halike : m.Alike m') (hc : ms.get? c.id = some c) : c.Alike (swapped m' c) := by
  rw [swapped, halike.id]
  split
  · next hid =>
    obtain rfl := Option.some.inj (hm.symm.trans (hid ▸ hc))
    exact halike
  · exact .refl c

theorem WellFormed.get?_swapped (h : ms.WellFormed) {m' : Model} (hm : ms.get? m.id = some m)
    (halike : m.Alike m') (place : Nat) :
    (ms.replace m').get? place = (ms.get? place).map (swapped m') := by
  rw [get?_replace hm halike.id]
  cases hplace : ms.get? place with
  | none =>
      split
      · next heq => rw [heq, hm] at hplace; cases hplace
      · rfl
  | some c =>
      rw [Option.map_some, swapped, h.id hplace, halike.id]
      split <;> rfl

theorem WellFormed.chain_replace (h : ms.WellFormed) {m' c : Model} (hm : ms.get? m.id = some m)
    (halike : m.Alike m') (hc : ms.get? c.id = some c) :
    (ms.replace m').chain (swapped m' c) = (ms.chain c).map (swapped m') := by
  rw [chain, chain, List.map_cons, (alike_swapped hm halike hc).ancestors, List.map_filterMap]
  congr 1
  refine List.filterMap_congr fun place _ => ?_
  exact h.get?_swapped hm halike place

theorem WellFormed.inherited?_replace (h : ms.WellFormed) {m' c : Model}
    (hm : ms.get? m.id = some m) (halike : m.Alike m') (hc : ms.get? c.id = some c)
    (name : String) :
    (ms.replace m').inherited? (swapped m' c) name =
      (ms.chain c).findSome? fun d => ms.ownMember? (swapped m' d) name := by
  rw [inherited?, h.chain_replace hm halike hc, List.findSome?_map]
  rfl

theorem WellFormed.innate?_replace (h : ms.WellFormed) {m' c : Model}
    (hm : ms.get? m.id = some m) (halike : m.Alike m') (hc : ms.get? c.id = some c)
    (name : String) : (ms.replace m').innate? (swapped m' c) name = ms.innate? c name := by
  have hswap := alike_swapped hm halike hc
  have hoffered : (swapped m' c).offered = c.offered := by
    rw [Model.offered, Model.offered, hswap.offersFinders, hswap.prefetches]
  have hmapping : (ms.replace m').ofMapping (swapped m' c) = ms.ofMapping c := by
    rw [ofMapping, ofMapping, mappedClass?, mappedClass?, hswap.mapping]
    rfl
  have hbase : (ms.replace m').base (swapped m' c) = ms.base c := by
    have hname (d : Model) (hd : ms.get? d.id = some d) : (swapped m' d).name = d.name :=
      (alike_swapped hm halike hd).name
    have hbaseName : (swapped m' c).baseName = c.baseName := by
      rw [Model.baseName, Model.baseName, hswap.offersFinders, hswap.mapping, hswap.prefetches]
    rw [base, base, hswap.ancestors, hbaseName]
    rcases h.parent hc with hroot | ⟨parent, hparent, hextends⟩
    · rw [hroot]
      rfl
    · rw [hextends.ancestors]
      simp [h.get?_swapped hm halike, hparent, hname]
  have hkind : (swapped m' c).kind = c.kind := by
    rw [Model.kind, Model.kind, hswap.mapping]
  rw [innate?, innate?, hoffered, hmapping, natural, natural, hbase, hkind]

/-- A class reads from the changed one what it has now, and everything else as before. -/
theorem WellFormed.attribute?_replace (h : ms.WellFormed) {m' c : Model}
    (hm : ms.get? m.id = some m) (halike : m.Alike m') (hc : ms.get? c.id = some c)
    (name : String) :
    (ms.replace m').attribute? (swapped m' c) name =
      ((ms.chain c).findSome? fun d => ms.ownMember? (swapped m' d) name).orElse fun _ =>
        ms.innate? c name := by
  rw [attribute?_eq, h.inherited?_replace hm halike hc, h.innate?_replace hm halike hc]

theorem WellFormed.attribute?_replace_of_own (h : ms.WellFormed) {m' c : Model}
    (hm : ms.get? m.id = some m) (halike : m.Alike m') (hc : ms.get? c.id = some c) {name : String}
    (hown : ms.ownMember? m' name = ms.ownMember? m name) :
    (ms.replace m').attribute? (swapped m' c) name = ms.attribute? c name := by
  have hchain : (ms.chain c).findSome? (fun d => ms.ownMember? (swapped m' d) name) =
      ms.inherited? c name := by
    refine findSome?_congr fun d hd => ?_
    rw [swapped, halike.id]
    split
    · next hid =>
      have hmd := hm.symm.trans (hid ▸ h.get?_of_mem_chain hc hd)
      rw [hown, Option.some.inj hmd]
    · rfl
  rw [h.attribute?_replace hm halike hc, hchain, attribute?_eq]

/-! ## Attached finders -/

theorem ne_of_isFinderName {name other : String} (hname : Spec.isFinderName name = true)
    (hother : other.toList.head? = some '_') : name ≠ other := by
  rintro rfl
  rw [Spec.isFinderName, Bool.and_eq_true, decide_eq_true_eq] at hname
  exact hname.2 hother

theorem WellFormed.isSome_mappedClass? (h : ms.WellFormed) (hm : ms.get? m.id = some m) :
    (ms.mappedClass? m).isSome = m.mapping.isSome := by
  rw [mappedClass?]
  cases hmapping : m.mapping with
  | none => rfl
  | some number => exact h.mapping hm number hmapping

theorem lookup_cons_of_isFinderName {name other : String} (hname : Spec.isFinderName name = true)
    (hother : other.toList.head? = some '_') (member : Member) (rest : List (String × Member)) :
    ((other, member) :: rest).lookup name = rest.lookup name := by
  rw [Entries.lookup_cons_eq_ite, if_neg (ne_of_isFinderName hname hother).symm]

/-- Of the attributes that a mapped class has by its nature, those that could be finders do not
depend on the class. -/
theorem lookup_ofMapping {name : String} (hname : Spec.isFinderName name = true) :
    (ms.ofMapping m).lookup name =
      if (ms.mappedClass? m).isSome then
        [("metadata", Member.inherent "MetaData"), ("registry", .inherent "registry")].lookup name
      else none := by
  rw [ofMapping]
  cases ms.mappedClass? m with
  | none => rfl
  | some c =>
      dsimp only
      generalize ((ms.catalog.tableOf c).map Table.shape).getD .plain = shape
      have hplain : (if shape = .plain then [("__tablename__", Member.inherent "str")]
          else []).lookup name = none := by
        split
        · rw [lookup_cons_of_isFinderName hname rfl, List.lookup_nil]
        · rfl
      rw [List.lookup_append, hplain, Option.or_none,
        Entries.lookup_cons_eq_ite ("metadata", _), Entries.lookup_cons_eq_ite ("registry", _)]
      iterate 9 rw [lookup_cons_of_isFinderName hname rfl]
      simp only [Option.isSome_some, if_true, Entries.lookup_cons_eq_ite]

/-- What a class has without any class of its chain having it is the same for all of the chain, if
it could be a finder. -/
theorem WellFormed.innate?_of_mem_chain (h : ms.WellFormed) {d : Model}
    (hm : ms.get? m.id = some m) (hd : d ∈ ms.chain m) (hprefetches : d.prefetches = m.prefetches)
    {name : String} (hname : Spec.isFinderName name = true) :
    ms.innate? d name = ms.innate? m name := by
  obtain ⟨hoffers, hmapping⟩ := h.offers_of_mem_chain hm hd
  have hoffered : d.offered = m.offered := by
    rw [Model.offered, Model.offered, hoffers, hprefetches]
  have hmapped : (ms.ofMapping d).lookup name = (ms.ofMapping m).lookup name := by
    rw [lookup_ofMapping hname, lookup_ofMapping hname, h.isSome_mappedClass? hm,
      h.isSome_mappedClass? (h.get?_of_mem_chain hm hd), hmapping]
  have hnatural : (ms.natural d).lookup name = (ms.natural m).lookup name := by
    rw [natural, natural, List.lookup_append, List.lookup_append,
      Entries.lookup_cons_eq_ite ("mro", _), Entries.lookup_cons_eq_ite ("mro", _)]
    iterate 4 rw [lookup_cons_of_isFinderName hname rfl]
  rw [innate?, innate?, List.lookup_append, List.lookup_append, hoffered, hmapped, hnatural]

/-- Attaching a finder where this is allowed takes the place of no attribute in any class, not even
in one further below: the class that gets the finder would have had the attribute, too. -/
theorem WellFormed.attribute?_attach (h : ms.WellFormed) {c : Model} {f : Finder}
    (hm : ms.get? m.id = some m) (hfree : isFree (ms.attribute? m f.name) = true)
    (hfinder : Spec.isFinderName f.name = true) (hc : ms.get? c.id = some c)
    (hsingle : ∀ d ∈ ms.chain c, d.prefetches = c.prefetches) {name : String}
    (hkept : isFree (ms.attribute? c name) = false) :
    (ms.replace (m.attach f)).attribute? (swapped (m.attach f) c) name =
      ms.attribute? c name := by
  by_cases hname : name = f.name
  · subst hname
    rw [h.attribute?_replace hm (m.alike_attach f) hc]
    have hothers {classes : List Model} (hclasses : ∀ d ∈ classes, d.id ≠ m.id) :
        classes.findSome? (fun d => ms.ownMember? (swapped (m.attach f) d) f.name) =
          classes.findSome? fun d => ms.ownMember? d f.name :=
      findSome?_congr fun d hd => congrArg (ms.ownMember? · f.name) (if_neg (hclasses d hd))
    by_cases hmem : m ∈ ms.chain c
    · obtain ⟨nearer, hchain, hlater⟩ := h.exists_chain_eq hc hmem
      rw [attribute?_eq, inherited?, hchain, List.findSome?_append, List.findSome?_append,
        hothers fun d hd => (Nat.ne_of_lt (hlater d hd)).symm]
      cases hnearer : nearer.findSome? fun d => ms.ownMember? d f.name with
      | some member => rfl
      | none =>
          -- nothing below the class hides its attribute, so the class itself is not free to take it
          have hsame : ms.attribute? c f.name = ms.attribute? m f.name := by
            rw [attribute?_eq, attribute?_eq, inherited?, hchain, List.findSome?_append, hnearer,
              Option.none_or, h.innate?_of_mem_chain hc hmem (hsingle m hmem) hfinder, inherited?]
          rw [hsame, hfree] at hkept
          cases hkept
    · have hclasses : ∀ d ∈ ms.chain c, d.id ≠ m.id := by
        intro d hd hid
        have hdm := (h.get?_of_mem_chain hc hd).symm.trans (hid ▸ hm)
        exact hmem (Option.some.inj hdm ▸ hd)
      rw [hothers hclasses, attribute?_eq, inherited?]
  · exact h.attribute?_replace_of_own hm (m.alike_attach f) hc (ownMember?_attach hname)

end NamedQuery.Models
