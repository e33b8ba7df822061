import NamedQuery.Proofs.Mapping.Descendants
import NamedQuery.Proofs.Mapping.Names
import NamedQuery.Proofs.Model.Attributes
import NamedQuery.Proofs.Model.Calling
import NamedQuery.Proofs.Model.Restriction
import NamedQuery.Proofs.Statement.Splicing

/-!
# Definitions before and after a class is created

A class that is created later changes nothing that a definition asks for but the restriction to a
type: the hook of the defining class, its table and the way its backend writes are what they were.
So a finder that is defined before and one that is defined after differ in their restrictions at
most, and the models around them do not differ at all.
-/

namespace NamedQuery

/-- A restriction behind the words that join it to a statement; an empty one counts as absent. -/
def Layout.conjunction (words : String) (restriction : Option String) : String :=
  (restriction.filter fun s => !s.isEmpty).elim "" fun s => words ++ s ++ ")"

theorem Layout.ofText_conjunction (words : String) (restriction : Option String) :
    Glyph.ofText (conjunction words restriction) =
      conjoined words ((restriction.filter fun s => !s.isEmpty).map Glyph.ofText) := by
  rw [conjunction, conjoined]
  cases restriction.filter fun s => !s.isEmpty with
  | none => rfl
  | some s => simp

theorem Layout.conjunction_inj {words : String} {before after : Option String}
    (hbefore : before ≠ some "") (hafter : after ≠ some "") :
    conjunction words before = conjunction words after ↔ before = after := by
  have hkept {r : Option String} (hr : r ≠ some "") :
      conjunction words r = r.elim "" fun s => words ++ s ++ ")" := by
    cases r with
    | none => rfl
    | some s =>
        have hs : s ≠ "" := fun hs => hr (congrArg some hs)
        simp [conjunction, Option.filter, hs]
  have hcloses (s : String) : words ++ s ++ ")" ≠ "" := by
    intro hempty
    simpa using congrArg String.length hempty
  constructor
  · intro heq
    rw [hkept hbefore, hkept hafter] at heq
    cases before with
    | none =>
        cases after with
        | none => rfl
        | some t => exact absurd heq.symm (hcloses t)
    | some s =>
        cases after with
        | none => exact absurd heq (hcloses s)
        | some t =>
            have hlists := congrArg String.toList heq
            simp only [Option.elim_some, String.toList_append] at hlists
            have hbodies := List.append_cancel_left (List.append_cancel_right hlists)
            exact congrArg some (String.toList_injective hbodies)
  · rintro rfl
    rfl

/-- What clauses are laid out to is the same for two backends of one table, but for the
restriction. -/
theorem Clauses.layout_of_tableName {c : Clauses} {backend other : Backend} {l : Layout}
    (htable : other.tableName = backend.tableName) (hlayout : c.layout backend = .ok l) :
    c.layout other =
      (restrictionText other).map fun restriction => { l with restriction } := by
  have htables : c.tablesText other = c.tablesText backend := by
    rw [tablesText, tablesText, htable]
  simp only [layout, bind_eq_ok] at hlayout
  obtain ⟨tables, htables', joins, hjoins, conditions, hconditions, restriction, -, group, hgroup,
    order, horder, limit, hlimit, offset, hoffset, hl⟩ := hlayout
  obtain rfl := Except.ok.inj hl
  simp only [layout, htables, htables', hjoins, hconditions, hgroup, horder, hlimit, hoffset]
  cases restrictionText other <;> rfl

/-- Clauses that have a statement for one backend have one for another backend of its table, unless
this one cannot tell its restriction. -/
theorem Clauses.exists_statement_of_tableName {c : Clauses} {backend other : Backend}
    (htable : other.tableName = backend.tableName) {t : Template} {b : Binder}
    (hstatement : c.statement backend .empty = .ok (t, b)) {restriction : Option String}
    (hrestriction : other.restriction? = .ok restriction) :
    ∃ t' b', c.statement other .empty = .ok (t', b') := by
  obtain ⟨l, hlayout, -⟩ := exists_layout hstatement
  rw [statement_eq_layout, layout_of_tableName htable hlayout,
    Options.restrictionText_of_restriction? hrestriction]
  exact ⟨_, _, rfl⟩

/-- The statements for two backends of one table, which write bounds in one way, are the same but
for the restrictions in them. -/
theorem Clauses.statements_of_tableName {c : Clauses} {backend other : Backend} {p : Paging}
    (hpaging : backend.paginate = p.apply) (htable : other.tableName = backend.tableName)
    (hpaginate : other.paginate = backend.paginate) {t t' : Template} {b b' : Binder}
    (hstatement : c.statement backend .empty = .ok (t, b))
    (hstatement' : c.statement other .empty = .ok (t', b')) :
    b' = b ∧ ∃ before after, backend.restriction? = .ok before ∧ other.restriction? = .ok after ∧
      ∃ words ∈ [" WHERE (", " AND ("], ∃ front back : Template,
        t = front ++ Template.literal (Layout.conjunction words before) ++ back ∧
        t' = front ++ Template.literal (Layout.conjunction words after) ++ back := by
  obtain ⟨l, hlayout, hl⟩ := exists_layout hstatement
  obtain ⟨l', hlayout', hl'⟩ := exists_layout hstatement'
  rw [layout_of_tableName htable hlayout] at hlayout'
  obtain ⟨text', htext', rfl⟩ := map_eq_ok.mp hlayout'
  obtain ⟨-, -, -, htext⟩ := texts_of_layout hlayout
  obtain ⟨before, hbefore⟩ := Models.restriction?_of_restrictionText htext
  obtain ⟨after, hafter⟩ := Models.restriction?_of_restrictionText htext'
  rw [Options.restrictionText_of_restriction? hbefore] at htext
  rw [Options.restrictionText_of_restriction? hafter] at htext'
  -- both are laid out alike, and the layout is split where the restriction stands
  obtain ⟨front, back, binder, words, hwords, hsplit⟩ := l.exists_statement hpaging .empty
  have hfirst : (t, b) =
      (front ++ Template.literal (Layout.conjunction words before) ++ back, binder) := by
    rw [← hl, Template.literal, Layout.ofText_conjunction, Except.ok.inj htext, ← hsplit]
  have hlast : (t', b') =
      (front ++ Template.literal (Layout.conjunction words after) ++ back, binder) := by
    rw [← hl', Template.literal, Layout.ofText_conjunction, Except.ok.inj htext', ← hsplit,
      Layout.statement, Layout.statement, hpaginate]
  obtain ⟨ht, hb⟩ := Prod.mk.inj hfirst
  obtain ⟨ht', hb'⟩ := Prod.mk.inj hlast
  exact ⟨hb'.trans hb.symm, before, after, hbefore, hafter, words, hwords, front, back, ht, ht'⟩

namespace Finder

variable {early late : Finder} {text other : String} {front back : Template}

/-- Whether there is a finder does not depend on the template. -/
theorem exists_make {name : String} {arity : Arity} {t : Template} {order : List String}
    {positional : Bool} {f : Finder} (hmake : make name arity t order positional = .ok f)
    (t' : Template) : ∃ g, make name arity t' order positional = .ok g :=
  ⟨_, make_eq_ok.mpr ⟨rfl, (make_eq_ok.mp hmake).2⟩⟩

/-- Two finders that are the same but for a piece of text in their templates. -/
structure Differs (early late : Finder) (text other : String) (front back : Template) : Prop where
  earlier : { early with template := front ++ Template.literal text ++ back } = early
  later : { early with template := front ++ Template.literal other ++ back } = late

theorem Differs.eq_iff (h : early.Differs late text other front back) :
    late = early ↔ text = other := by
  constructor
  · intro hsame
    have htemplates := congrArg template (h.earlier.trans (h.later.trans hsame).symm)
    have hsymbols := congrArg Template.symbols htemplates
    have hmiddle := List.append_cancel_left (List.append_cancel_right hsymbols)
    have hglyphs := List.map_injective_iff.mpr (fun a b => Symbol.glyph.inj) hmiddle
    apply String.toList_injective
    exact List.map_injective_iff.mpr (fun a b => Glyph.char.inj) hglyphs
  · rintro rfl
    exact h.later.symm.trans h.earlier

/-- What a preview renders around a text that stands between two templates. -/
def previewAround (f : Finder) (backend : Backend) (front back : Template) (args : Arguments) :
    Traced (List Glyph × List Glyph) := do
  Traced.ofExcept (Entrance.preview.checkKeywords args.keywords)
  f.around backend args front back

end Finder

namespace Models

variable {ms both : Models} {m : Model} {dialect : Dialect} {here : Surroundings}

/-- The restriction that a definition on a class would give its statement. -/
def restrictionOf (ms : Models) (dialect : Dialect) (m : Model) : Except Error (Option String) := do
  (← ms.backendOf dialect [] m).restriction?

theorem restrictionOf_of_backendOf {backend : Backend}
    (hbackend : ms.backendOf dialect [] m = .ok backend) :
    ms.restrictionOf dialect m = backend.restriction? := by
  rw [restrictionOf, hbackend]
  rfl

/-! ## What a later class leaves alone -/

theorem WellFormed.source?_of_grows (h : ms.WellFormed) (hgrows : ms.Grows both)
    (hm : ms.get? m.id = some m) (name : String) : both.source? m name = ms.source? m name := by
  rw [source?, source?, h.chain_of_grows hgrows hm]
  apply findSome?_congr
  intro c hc
  rw [h.ownMember?_of_grows hgrows (h.get?_of_mem_chain hm hc)]

theorem WellFormed.fixedBackend?_of_grows (h : ms.WellFormed) (hgrows : ms.Grows both)
    (hm : ms.get? m.id = some m) : both.fixedBackend? m = ms.fixedBackend? m := by
  rw [fixedBackend?, fixedBackend?, h.source?_of_grows hgrows hm]

/-- The clauses that a definition goes on with are the same.  A finder in the place of the hook
could see the difference, but with one there is no definition. -/
theorem WellFormed.prefetched_of_grows (h : ms.WellFormed) (hgrows : ms.Grows both)
    (hm : ms.get? m.id = some m) {o : Options} {label : String} {c : Clauses}
    (hc : (o.prefetched label (ms.hookOf here m)).result = .ok c) :
    (o.prefetched label (both.hookOf here m)).result = .ok c := by
  unfold hookOf at hc ⊢
  rw [h.source?_of_grows hgrows hm]
  split
  · next hprefetches =>
    rw [if_pos hprefetches] at hc
    cases hsource : ms.source? m "apply_prefetch" with
    | none => simpa [hsource] using hc
    | some e =>
        obtain ⟨owner, member⟩ := e
        cases member with
        | finder f =>
            -- what a finder answers is no option set
            rw [hsource] at hc
            obtain ⟨answer, hanswer, hrest⟩ := Traced.bind_result_eq_ok.mp hc
            obtain ⟨shown, -, hother⟩ := Traced.bind_result_eq_ok.mp hanswer
            obtain rfl := Except.ok.inj hother
            cases hrest
        | _ => simpa [hsource] using hc
  · next hprefetches => rwa [if_neg hprefetches] at hc

/-- The backend of a class is the same, or that of the same mapped class in a larger catalog. -/
theorem WellFormed.backendOf_of_grows (h : ms.WellFormed) (hgrows : ms.Grows both)
    (hm : ms.get? m.id = some m) {early late : Backend}
    (hearly : ms.backendOf dialect [] m = .ok early)
    (hlate : both.backendOf dialect [] m = .ok late) :
    late = early ∨
      ms.fixedBackend? m = none ∧ ∃ c, ms.mappedClass? m = some c ∧
        early = ms.catalog.toBackend dialect [] c ∧
          late = both.catalog.toBackend dialect [] c := by
  have hsame := h.fixedBackend?_of_grows hgrows hm
  cases hfixed : ms.fixedBackend? m with
  | some fixed =>
      rw [backendOf_of_fixed hfixed] at hearly
      rw [backendOf_of_fixed (hsame.trans hfixed)] at hlate
      exact .inl (Except.ok.inj (hlate.symm.trans hearly))
  | none =>
      obtain ⟨c, hc, hbefore⟩ := backendOf_of_not_fixed hfixed hearly
      obtain ⟨c', hc', hafter⟩ := backendOf_of_not_fixed (hsame.trans hfixed) hlate
      rw [h.mappedClass?_of_grows hgrows hm, hc] at hc'
      obtain rfl := Option.some.inj hc'
      exact .inr ⟨rfl, c, hc, Except.ok.inj (hearly.symm.trans (hbefore [])),
        Except.ok.inj (hlate.symm.trans (hafter []))⟩

/-- A class goes on reading from its table and writing bounds in its way. -/
theorem WellFormed.tableName_and_paginate_of_grows (h : ms.WellFormed) (hgrows : ms.Grows both)
    (hcalled : ms.catalog.called <+: both.catalog.called) (hm : ms.get? m.id = some m)
    {early late : Backend} (hearly : ms.backendOf dialect [] m = .ok early)
    (hlate : both.backendOf dialect [] m = .ok late) :
    late.tableName = early.tableName ∧ late.paginate = early.paginate := by
  rcases h.backendOf_of_grows hgrows hm hearly hlate with rfl | ⟨-, c, hc, rfl, rfl⟩
  · exact ⟨rfl, rfl⟩
  · have htable := h.catalog.table c (mem_classes_of_mappedClass? hc)
    exact ⟨Catalog.tableName_of_called hcalled htable, rfl⟩

/-- No restriction that is made from identities is an empty text. -/
theorem restriction?_ne_empty {catalog : Catalog} {c : MappedClass} {restriction : Option String}
    (hrestriction : (catalog.toBackend dialect [] c).restriction? = .ok restriction) :
    restriction ≠ some "" := by
  unfold Backend.restriction? at hrestriction
  split at hrestriction
  · obtain rfl := Except.ok.inj hrestriction
    exact nofun
  · change catalog.typeRestriction dialect c = .ok restriction at hrestriction
    unfold Catalog.typeRestriction at hrestriction
    split at hrestriction
    · obtain ⟨table, -, hrest⟩ := bind_eq_ok.mp hrestriction
      obtain ⟨literals, -, hok⟩ := bind_eq_ok.mp hrest
      obtain rfl := Except.ok.inj hok
      intro hempty
      simpa using congrArg String.length (Option.some.inj hempty)
    · obtain rfl := Except.ok.inj hrestriction
      exact nofun

theorem restriction?_congr {old new : Catalog} {c : MappedClass}
    (htable : new.tableName c = old.tableName c)
    (hsame : c.lineage.isSharing = true → new.identities c = old.identities c) :
    (new.toBackend dialect [] c).restriction? = (old.toBackend dialect [] c).restriction? := by
  have htyped : new.typeRestriction dialect c = old.typeRestriction dialect c := by
    unfold Catalog.typeRestriction
    cases hshares : c.lineage.isSharing with
    | false => rfl
    | true => rw [hsame hshares, htable]
  change (if c.lineage.parent?.isNone then _ else new.typeRestriction dialect c) = _
  rw [htyped]
  rfl

/-- The restriction of a class changes only if the class shares the table of the one above and its
subtree has got identities. -/
theorem WellFormed.restriction_changes (h : ms.WellFormed) (hgrows : ms.Grows both)
    (hcalled : ms.catalog.called <+: both.catalog.called) (hm : ms.get? m.id = some m)
    {first last : Backend} (hfirst : ms.backendOf dialect [] m = .ok first)
    (hlast : both.backendOf dialect [] m = .ok last) {before after : Option String}
    (hbefore : first.restriction? = .ok before) (hafter : last.restriction? = .ok after)
    (hne : before ≠ after) :
    ms.fixedBackend? m = none ∧ ∃ c, ms.mappedClass? m = some c ∧ c.lineage.isSharing = true ∧
      ms.catalog.identities c ⊆ both.catalog.identities c ∧
      both.catalog.identities c ≠ ms.catalog.identities c := by
  rcases h.backendOf_of_grows hgrows hm hfirst hlast with rfl | ⟨hfixed, c, hc, rfl, rfl⟩
  · exact absurd (Except.ok.inj (hbefore.symm.trans hafter)) hne
  · have htable : both.catalog.tableName c = ms.catalog.tableName c :=
      Catalog.tableName_of_called hcalled (h.catalog.table c (mem_classes_of_mappedClass? hc))
    have hchanged : ¬ (c.lineage.isSharing = true →
        both.catalog.identities c = ms.catalog.identities c) := by
      intro hsame
      rw [restriction?_congr htable hsame, hbefore] at hafter
      exact hne (Except.ok.inj hafter)
    obtain ⟨hshares, hidentities⟩ := Classical.not_imp.mp hchanged
    exact ⟨hfixed, c, hc, hshares, hgrows.catalog.identities_subset c, hidentities⟩

/-- Definitions of one finder before and after classes are created compile it alike but for the
restriction. -/
theorem WellFormed.differs_of_compileWith (h : ms.WellFormed) (hgrows : ms.Grows both)
    (hcalled : ms.catalog.called <+: both.catalog.called) (hm : ms.get? m.id = some m)
    {name arity : Value} {given : GivenOptions} {early late : Finder}
    (hearly : (ms.compileWith (ms.hookOf here m) here.dialect m name arity given).result =
      .ok early)
    (hlate : (both.compileWith (both.hookOf here m) here.dialect m name arity given).result =
      .ok late) :
    ∃ first last before after, ∃ words ∈ [" WHERE (", " AND ("], ∃ front back,
      ms.backendOf here.dialect [] m = .ok first ∧ both.backendOf here.dialect [] m = .ok last ∧
      first.restriction? = .ok before ∧ last.restriction? = .ok after ∧
      early.Differs late (Layout.conjunction words before) (Layout.conjunction words after)
        front back := by
  obtain ⟨spec, first, c, t, b, hspec, -, hfirst, hc, hstatement, hmake⟩ :=
    compileWith_eq_ok.mp hearly
  obtain ⟨spec', last, c', t', b', hspec', -, hlast, hc', hstatement', hmake'⟩ :=
    compileWith_eq_ok.mp hlate
  obtain rfl := Except.ok.inj (hspec.symm.trans hspec')
  rw [h.prefetched_of_grows hgrows hm hc] at hc'
  obtain rfl := Except.ok.inj hc'
  obtain ⟨htable, hpaginate⟩ :=
    h.tableName_and_paginate_of_grows hgrows hcalled hm hfirst hlast
  obtain ⟨rfl, before, after, hbefore, hafter, words, hwords, front, back, rfl, rfl⟩ :=
    Clauses.statements_of_tableName (paginate_of_backendOf hfirst) htable hpaginate hstatement
      hstatement'
  refine ⟨first, last, before, after, words, hwords, front, back, hfirst, hlast, hbefore,
    hafter, ?_⟩
  rw [eq_of_make hmake, eq_of_make hmake']
  exact ⟨rfl, rfl⟩

/-- A definition that succeeds before classes are created succeeds after, unless the restriction
cannot be told any more. -/
theorem WellFormed.exists_compileWith_iff (h : ms.WellFormed) (hgrows : ms.Grows both)
    (hcalled : ms.catalog.called <+: both.catalog.called) (hm : ms.get? m.id = some m)
    {name arity : Value} {given : GivenOptions} {early : Finder}
    (hearly : (ms.compileWith (ms.hookOf here m) here.dialect m name arity given).result =
      .ok early) :
    (∃ late, (both.compileWith (both.hookOf here m) here.dialect m name arity given).result =
        .ok late) ↔
      ∃ after, both.restrictionOf here.dialect m = .ok after := by
  constructor
  · rintro ⟨late, hlate⟩
    obtain ⟨spec, last, c, t, b, -, -, hlast, -, -, -⟩ := compileWith_eq_ok.mp hlate
    obtain ⟨after, hafter, -⟩ := heldTo_of_compileWith hlate hlast
    exact ⟨after, (restrictionOf_of_backendOf hlast).trans hafter⟩
  · rintro ⟨after, hafter⟩
    obtain ⟨last, hlast, hafter⟩ := bind_eq_ok.mp hafter
    obtain ⟨spec, first, c, t, b, hspec, hfree, hfirst, hc, hstatement, hmake⟩ :=
      compileWith_eq_ok.mp hearly
    obtain ⟨htable, hpaginate⟩ :=
      h.tableName_and_paginate_of_grows hgrows hcalled hm hfirst hlast
    obtain ⟨t', b', hstatement'⟩ :=
      Clauses.exists_statement_of_tableName htable hstatement hafter
    obtain ⟨rfl, -⟩ := Clauses.statements_of_tableName (paginate_of_backendOf hfirst) htable
      hpaginate hstatement hstatement'
    obtain ⟨late, hmake'⟩ := Finder.exists_make hmake t'
    rw [← h.attribute?_of_grows hgrows hm] at hfree
    exact ⟨late, compileWith_eq_ok.mpr ⟨spec, last, c, t', b', hspec, hfree, hlast,
      h.prefetched_of_grows hgrows hm hc, hstatement', hmake'⟩⟩

/-- Restrictions of one class at two times are written alike only if they are the same. -/
theorem WellFormed.conjunction_inj (h : ms.WellFormed) (hgrows : ms.Grows both)
    (hm : ms.get? m.id = some m) {first last : Backend}
    (hfirst : ms.backendOf dialect [] m = .ok first)
    (hlast : both.backendOf dialect [] m = .ok last) {before after : Option String}
    (hbefore : first.restriction? = .ok before) (hafter : last.restriction? = .ok after)
    (words : String) :
    Layout.conjunction words before = Layout.conjunction words after ↔ before = after := by
  rcases h.backendOf_of_grows hgrows hm hfirst hlast with rfl | ⟨-, c, -, rfl, rfl⟩
  · obtain rfl := Except.ok.inj (hbefore.symm.trans hafter)
    exact iff_of_true rfl rfl
  · exact Layout.conjunction_inj (restriction?_ne_empty hbefore) (restriction?_ne_empty hafter)

/-! ## The models around a definition -/

theorem create_map (plan : ModelPlan) (id : Nat) {parent : Option Model} {swap : Model → Model}
    (hlike : ∀ p ∈ parent, p.Alike (swap p)) (mapping : Option Nat) :
    plan.create id (parent.map swap) mapping = plan.create id parent mapping := by
  cases parent with
  | none => rfl
  | some p =>
      have hp := hlike p rfl
      simp only [ModelPlan.create, hp.id, hp.ancestors, hp.offersFinders, hp.prefetches,
        Option.map_some]

/-- Where a class is placed depends on the kind of the class above only. -/
theorem place_replace (ms : Models) (m' : Model) (plan : ModelPlan) {parent : Option Model}
    {swap : Model → Model} (hlike : ∀ p ∈ parent, p.Alike (swap p)) :
    (ms.replace m').place plan (parent.map swap) =
      ((ms.place plan parent).1, (ms.place plan parent).2.replace m') := by
  have hmapped : (parent.map swap).bind Model.mapping = parent.bind Model.mapping := by
    cases parent with
    | none => rfl
    | some p => exact (hlike p rfl).mapping
  have hplan : plan.mappingPlan? (parent.map swap) = plan.mappingPlan? parent := by
    cases parent with
    | none => rfl
    | some p => simp only [ModelPlan.mappingPlan?, Option.map_some, (hlike p rfl).mapping]
  unfold place
  rw [hmapped, hplan]
  cases plan.mappingPlan? parent <;> rfl

/-- Creating a class does not look at what classes have attached, and attaching does not look at
later classes. -/
theorem WellFormed.add_replace (h : ms.WellFormed) {m' : Model} (hm : ms.get? m.id = some m)
    (halike : m.Alike m') (plan : ModelPlan) :
    (ms.replace m').add plan = ((ms.add plan).1, (ms.add plan).2.replace m') := by
  have hparent : plan.parent.bind (ms.replace m').get? =
      (plan.parent.bind ms.get?).map (swapped m') := by
    cases plan.parent with
    | none => rfl
    | some place => exact h.get?_swapped hm halike place
  have hlike : ∀ p ∈ plan.parent.bind ms.get?, p.Alike (swapped m' p) := by
    intro p hp
    obtain ⟨place, -, hplace⟩ := Option.bind_eq_some_iff.mp hp
    exact alike_swapped hm halike (h.get?_id hplace)
  have hplace : m'.id < ms.list.length := halike.id ▸ (List.getElem?_eq_some_iff.mp hm).1
  obtain ⟨catalog, hcatalog, -⟩ := h.exists_place plan (plan.parent.bind ms.get?)
  -- the class above is looked up among the replaced ones, and nothing but its kind is used
  unfold Models.add
  rw [hparent]
  split
  · rfl
  · dsimp only
    rw [place_replace ms m' plan hlike, hcatalog]
    cases (ms.place plan (plan.parent.bind ms.get?)).1 with
    | error e => rfl
    | ok mapping =>
        simp only [Models.replace, List.length_set, create_map plan _ hlike,
          List.set_append_left _ _ hplace]

/-- A call runs what a preview shows if the settings can be read, and otherwise nothing. -/
theorem statements_call (ms : Models) (here : Surroundings) (stored : List StoredRow) (m : Model)
    (f : Finder) (args : Arguments) :
    (ms.call here stored m f args).statements = (here.settings.toOption.bind fun _ =>
      (ms.preview here.dialect m f args).result.toOption).toList := by
  have hnothing : (here.settings.toOption.bind fun _ => none).toList = ([] : List String) := by simp
  by_cases hallowed : Entrance.render.Allows args.keywords
  · cases hbackend : ms.backendOf here.dialect stored m with
    | error e =>
        obtain ⟨hpreview, hcall⟩ :=
          preview_and_call_of_backendOf_error hallowed.ne_self hbackend
        rw [hpreview, hcall]
        exact hnothing.symm
    | ok backend =>
        obtain ⟨hpreview, hcall⟩ := preview_and_call_of_backendOf hallowed.ne_self hbackend
        rw [hpreview, hcall]
        exact Finder.statements_run_eq here.settings (label m f) (statements_run hbackend)
  · obtain ⟨⟨e, hpreview⟩, -, hstatements⟩ :=
      call_of_not_allows hallowed ms here stored m f
    rw [hpreview, hstatements]
    exact hnothing.symm

/-- A finder shows a text between what it renders around it, and its calls run what it shows, as
long as the settings can be read. -/
structure ShowsAround (ms : Models) (dialect : Dialect) (m : Model) (f : Finder) (text : String)
    (around : Arguments → Traced (List Glyph × List Glyph)) : Prop where
  preview : ∀ args, ms.preview dialect m f args = Glyph.spliced text <$> around args
  statements : ∀ settings stored args, (ms.call ⟨dialect, settings⟩ stored m f args).statements =
    (settings.toOption.bind fun _ => (Glyph.spliced text <$> around args).result.toOption).toList

theorem showsAround_of_backendOf {backend : Backend} {f : Finder} {front back : Template}
    {text : String} (hbackend : ms.backendOf dialect [] m = .ok backend) (base : Finder)
    (hf : { base with template := front ++ Template.literal text ++ back } = f) :
    ms.ShowsAround dialect m f text (base.previewAround backend front back) := by
  have hpreview (args : Arguments) :
      ms.preview dialect m f args =
        Glyph.spliced text <$> base.previewAround backend front back args := by
    simp only [preview, hbackend, Traced.ofExcept_ok_bind, ← hf, Finder.render_splice,
      Finder.previewAround, map_bind]
  refine ⟨hpreview, fun settings stored args => ?_⟩
  rw [statements_call, hpreview]

/-- Both finders show the same for the same arguments only if the texts are the same. -/
theorem ShowsAround.preview_eq_iff {f g : Finder} {ms' : Models} {m' : Model}
    {text other : String} {around : Arguments → Traced (List Glyph × List Glyph)}
    (hf : ms.ShowsAround dialect m f text around) (hg : ms'.ShowsAround dialect m' g other around)
    {args : Arguments} {sql : String} (hsql : (ms.preview dialect m f args).result = .ok sql) :
    (ms'.preview dialect m' g args).result = .ok sql ↔ text = other := by
  rw [hf.preview, Traced.map_eq] at hsql
  rw [hg.preview, Traced.map_eq]
  obtain ⟨pieces, hpieces, rfl⟩ := map_eq_ok.mp hsql
  rw [hpieces]
  constructor
  · intro hsame
    exact (Glyph.spliced_injective pieces (Except.ok.inj hsame)).symm
  · rintro rfl
    rfl

/-- Whether a class is created before or behind a definition, the models are the same but for the
finder, and what the finder shows and runs is the same but for the restriction. -/
theorem WellFormed.define_add (h : ms.WellFormed) (hm : ms.get? m.id = some m) (plan : ModelPlan)
    {name arity : Value} {given : GivenOptions} {early late : Finder}
    (hearly : (ms.define here m name arity given).1.result = .ok early)
    (hlate : ((ms.add plan).2.define here m name arity given).1.result = .ok late) :
    (ms.define here m name arity given).2.add plan =
        ((ms.add plan).1, (ms.add plan).2.replace (m.attach early)) ∧
      ((ms.add plan).2.define here m name arity given).2 =
        (ms.add plan).2.replace (m.attach late) ∧
      ∃ first last before after, ms.backendOf here.dialect [] m = .ok first ∧
        (ms.add plan).2.backendOf here.dialect [] m = .ok last ∧ first.restriction? = .ok before ∧
        last.restriction? = .ok after ∧ (late = early ↔ before = after) ∧
        ∃ words ∈ [" WHERE (", " AND ("], ∃ shown,
          (Layout.conjunction words before = Layout.conjunction words after ↔ before = after) ∧
          ((ms.add plan).2.replace (m.attach early)).ShowsAround here.dialect (m.attach early) early
            (Layout.conjunction words before) shown ∧
          ((ms.add plan).2.replace (m.attach late)).ShowsAround here.dialect (m.attach late) late
            (Layout.conjunction words after) shown := by
  have hgrows := h.grows_add plan
  have hstays := hgrows.get? hm
  obtain ⟨hdefined, hfree, -⟩ := define_of_ok hearly
  obtain ⟨hplaced, hfree', -⟩ := define_of_ok hlate
  rw [define, result_defineWith] at hearly hlate
  obtain ⟨first, last, before, after, words, hwords, front, back, hfirst, hlast, hbefore, hafter,
    hdiffers⟩ := h.differs_of_compileWith hgrows (called_add ms plan) hm hearly hlate
  have hinj := h.conjunction_inj hgrows hm hfirst hlast hbefore hafter words
  -- neither finder has taken the place of the operation that gives the backend
  have hshows := showsAround_of_backendOf
    ((backendOf_attach hstays (ne_of_isFree hfree hfirst) here.dialect []).trans hlast) early
    hdiffers.earlier
  have hshows' := showsAround_of_backendOf
    ((backendOf_attach hstays (ne_of_isFree hfree' hlast) here.dialect []).trans hlast) early
    hdiffers.later
  refine ⟨?_, hplaced, first, last, before, after, hfirst, hlast, hbefore, hafter,
    hdiffers.eq_iff.trans hinj, words, hwords, _, hinj, hshows, hshows'⟩
  rw [hdefined, h.add_replace hm (m.alike_attach early)]

end Models

end NamedQuery
