import NamedQuery.Proofs.Statement.Paging

/-!
# Scanning whole statements

A statement is scanned text by text while it is assembled.  The words between two texts border on
them with blanks and parentheses, which keep a marker from beginning or ending anywhere but within
its own text; so scanning the whole statement anew finds the same markers.
-/

namespace NamedQuery

/-! ## Texts behind each other -/

namespace Marker

theorem scan_of_names {gs : List Glyph} (hnames : names gs = []) : scan gs = gs.map .glyph := by
  have hmarks : ∀ marks : List Mark, marks.filterMap Mark.name? = [] →
      marks = (marks.flatMap Mark.source).map .glyph := by
    intro marks
    induction marks with
    | nil => exact fun _ => rfl
    | cons mark rest ih =>
        intro hnone
        cases mark with
        | glyph g =>
            have hrest := ih (by simpa [Mark.name?] using hnone)
            simpa [Mark.source] using hrest
        | name cs => simp [Mark.name?] at hnone
  rw [hmarks (scan gs) hnames, source_scan]

end Marker

namespace Binder

theorem bindMarks_glyphs (b : Binder) (gs : List Glyph) :
    b.bindMarks (gs.map .glyph) = (gs.map .glyph, b) := by
  induction gs with
  | nil => rfl
  | cons g rest ih => simp only [List.map_cons, bindMarks, ih]

/-- A text without markers is copied. -/
theorem bindGlyphs_of_names (b : Binder) {gs : List Glyph} (hnames : Marker.names gs = []) :
    b.bindGlyphs gs = (Template.ofGlyphs gs, b) := by
  rw [bindGlyphs, Marker.scan_of_names hnames, bindMarks_glyphs]
  rfl

theorem bindGlyphs_append (b : Binder) {gs rest : List Glyph}
    (hscan : Marker.scan (gs ++ rest) = Marker.scan gs ++ Marker.scan rest) :
    b.bindGlyphs (gs ++ rest) =
      ((b.bindGlyphs gs).1 ++ ((b.bindGlyphs gs).2.bindGlyphs rest).1,
        ((b.bindGlyphs gs).2.bindGlyphs rest).2) := by
  simp only [bindGlyphs, hscan, bindMarks_append]
  rfl

end Binder

/-! ## Stretches -/

namespace Stretch

def glyphs (s : Stretch) : List Glyph := Glyph.ofText s.lead ++ s.body

/-- The words in front neither hold a marker nor touch one in the body, and the body holds none if
it is copied. -/
structure Separated (s : Stretch) : Prop where
  lead : Marker.names (Glyph.ofText s.lead) = []
  last : s.body = [] ∨ Marker.allowsMarker (Glyph.ofText s.lead).getLast? = true
  body : s.scanned = false → Marker.names s.body = []

/-- The words in front keep a marker before them from going on. -/
def Opens (s : Stretch) : Prop :=
  (Glyph.ofText s.lead).head?.any (fun g => Marker.allowsMarker (some g)) = true

/-- Words that hold no marker and begin and end with neither a colon nor a word character. -/
def Parting (lead : String) : Prop :=
  Marker.names (Glyph.ofText lead) = [] ∧
    Marker.allowsMarker (Glyph.ofText lead).getLast? = true ∧
      (Glyph.ofText lead).head?.any (fun g => Marker.allowsMarker (some g)) = true

instance (lead : String) : Decidable (Parting lead) :=
  inferInstanceAs (Decidable (_ ∧ _ ∧ _))

theorem separated_of_parting {lead : String} (hlead : Parting lead) {body : List Glyph}
    {scanned : Bool} (hbody : scanned = false → Marker.names body = []) :
    Separated ⟨lead, body, scanned⟩ ∧ Opens ⟨lead, body, scanned⟩ :=
  ⟨⟨hlead.1, Or.inr hlead.2.1, hbody⟩, hlead.2.2⟩

end Stretch

namespace Binder

theorem bindGlyphs_stretch (b : Binder) {s : Stretch} (hseparated : s.Separated) :
    b.bindGlyphs s.glyphs =
      (Template.literal s.lead ++ (b.bindStretch s).1, (b.bindStretch s).2) := by
  have hscan : Marker.scan (Glyph.ofText s.lead ++ s.body) =
      Marker.scan (Glyph.ofText s.lead) ++ Marker.scan s.body := by
    rcases hseparated.last with hempty | hlast
    · rw [hempty, List.append_nil]
      exact (List.append_nil _).symm
    · exact Marker.scan_append_of_last s.body hlast
  have hbody : b.bindGlyphs s.body = b.bindStretch s := by
    unfold bindStretch
    cases hscanned : s.scanned with
    | true => rfl
    | false => exact b.bindGlyphs_of_names (hseparated.body hscanned)
  rw [Stretch.glyphs, b.bindGlyphs_append hscan, b.bindGlyphs_of_names hseparated.lead, hbody]
  rfl

/-- Scanned as one text, separated stretches are bound as they are one by one. -/
theorem bindGlyphs_stretches (b : Binder) {ss : List Stretch}
    (hseparated : ∀ s ∈ ss, s.Separated) (hopens : ∀ s ∈ ss.tail, s.Opens) :
    b.bindGlyphs (ss.flatMap Stretch.glyphs) = b.bindStretches ss := by
  induction ss generalizing b with
  | nil => rfl
  | cons s rest ih =>
      have hrest : ∀ b : Binder, b.bindGlyphs (rest.flatMap Stretch.glyphs) =
          b.bindStretches rest := fun b =>
        ih b (fun t ht => hseparated t (List.mem_cons_of_mem s ht))
          fun t ht => hopens t (List.mem_of_mem_tail ht)
      have hhead : Marker.allowsMarker (rest.flatMap Stretch.glyphs).head? = true := by
        cases rest with
        | nil => rfl
        | cons next others =>
            have hnext : next.Opens := hopens next List.mem_cons_self
            cases hlead : (Glyph.ofText next.lead).head? with
            | none => simp [Stretch.Opens, hlead] at hnext
            | some g => simpa [Stretch.glyphs, Stretch.Opens, hlead] using hnext
      have hscan := Marker.scan_append_of_head s.glyphs hhead
      rw [List.flatMap_cons, b.bindGlyphs_append hscan,
        b.bindGlyphs_stretch (hseparated s List.mem_cons_self), hrest]
      rfl

theorem glyphs_bindStretches (b : Binder) (ss : List Stretch) :
    (b.bindStretches ss).1.glyphs = ss.flatMap Stretch.glyphs := by
  induction ss generalizing b with
  | nil => rfl
  | cons s rest ih =>
      have hstretch : (b.bindStretch s).1.glyphs = s.body := by
        unfold bindStretch
        cases s.scanned with
        | true => exact b.glyphs_bindGlyphs s.body
        | false => exact Template.glyphs_ofGlyphs s.body
      simp [bindStretches, ih, hstretch, Stretch.glyphs]

end Binder

/-! ## Statements with their bounds -/

namespace Layout

/-- The stretches of the bounds. -/
def boundStretches (l : Layout) (p : Paging) : List Stretch :=
  match l.limit, l.offset with
  | none, none => []
  | none, some o =>
    (p.endless.map fun s => ⟨" LIMIT " ++ s, [], false⟩).toList ++ [⟨" OFFSET ", o, true⟩]
  | some gs, offset => ⟨" LIMIT ", gs, true⟩ :: optional " OFFSET " true offset

/-- The stretches of the statement with its bounds, where the limit stands before the offset. -/
def boundedStretches (l : Layout) (p : Paging) : List Stretch :=
  if p = .fixed .wrap ∧ l.isBounded = true then
    ⟨"SELECT * FROM (SELECT ", l.select, false⟩ ::
      (l.laterStretches ++ ⟨") q", [], false⟩ :: l.boundStretches p)
  else l.stretches ++ l.boundStretches p

theorem bindStretches_boundStretches (l : Layout) (p : Paging) (t : Template) (b : Binder) :
    let limit := b.bindOptional l.limit
    let offset := limit.2.bindOptional l.offset
    (t ++ (b.bindStretches (l.boundStretches p)).1, (b.bindStretches (l.boundStretches p)).2) =
      (FixedBackend.suffixed t (p.limit limit.1 offset.1) offset.1, offset.2) := by
  have hnone : Template.ofGlyphs [] = Template.empty := rfl
  unfold boundStretches
  cases l.limit with
  | none =>
      cases l.offset with
      | none =>
          simp [Binder.bindStretches, Binder.bindOptional, Paging.limit, FixedBackend.suffixed,
            FixedBackend.boundText, Template.append_empty]
      | some o =>
          cases hendless : p.endless with
          | none =>
              simp [Binder.bindStretches, Binder.bindStretch, Binder.bindOptional, Paging.limit,
                hendless, FixedBackend.suffixed, FixedBackend.boundText, Template.append_empty]
          | some n =>
              simp [Binder.bindStretches, Binder.bindStretch, Binder.bindOptional, Paging.limit,
                hendless, hnone, FixedBackend.suffixed, FixedBackend.boundText,
                Template.literal_append, Template.append_assoc, Template.append_empty]
  | some gs =>
      cases l.offset with
      | none =>
          simp [optional, Binder.bindStretches, Binder.bindStretch, Binder.bindOptional,
            Paging.limit, FixedBackend.suffixed, FixedBackend.boundText, Template.append_assoc]
      | some o =>
          simp [optional, Binder.bindStretches, Binder.bindStretch, Binder.bindOptional,
            Paging.limit, FixedBackend.suffixed, FixedBackend.boundText, Template.append_assoc,
            Template.append_empty]

theorem statement_eq_bindStretches (l : Layout) {backend : Backend} {p : Paging}
    (hpaging : backend.paginate = p.apply) (hkeeps : p.keepsOrder = true) (b : Binder) :
    l.statement backend b = b.bindStretches (l.boundedStretches p) := by
  unfold boundedStretches
  cases hbounded : l.isBounded with
  | false =>
      obtain ⟨hlimit, hoffset⟩ := isBounded_eq_false.mp hbounded
      have hbounds : l.boundStretches p = [] := by simp [boundStretches, hlimit, hoffset]
      rw [statement_of_unbounded hbounded, hbounds, if_neg (by simp), List.append_nil]
  | true =>
      rw [statement_of_bounded hbounded hpaging, Paging.apply_eq_suffixed hkeeps,
        ← bindStretches_boundStretches]
      by_cases hwrap : p = .fixed .wrap
      · have hlead : Template.literal "SELECT * FROM (SELECT " =
            Template.literal "SELECT * FROM (" ++ Template.literal "SELECT " :=
          Template.literal_append "SELECT * FROM (" "SELECT "
        have hnone : Template.ofGlyphs [] = Template.empty := rfl
        rw [if_pos ⟨hwrap, rfl⟩, Paging.enclosed, if_pos hwrap]
        simp only [stretches, Binder.bindStretches, Binder.bindStretch,
          Binder.bindStretches_append, hlead, hnone, Template.append_assoc]
        rfl
      · rw [if_neg fun h => hwrap h.1, Paging.enclosed, if_neg hwrap, Binder.bindStretches_append]

/-- No text that is copied holds a marker. -/
structure Plain (l : Layout) : Prop where
  select : Marker.names l.select = []
  tables : Marker.names l.tables = []
  joins : ∀ gs ∈ l.joins, Marker.names gs = []
  restriction : ∀ gs ∈ l.restriction, Marker.names gs = []

theorem separated_optional {lead : String} (hlead : Stretch.Parting lead) {scanned : Bool}
    {clause : Option (List Glyph)}
    (hclause : scanned = false → ∀ gs ∈ clause, Marker.names gs = []) :
    ∀ s ∈ optional lead scanned clause, s.Separated ∧ s.Opens := by
  cases clause with
  | none => exact List.forall_mem_nil _
  | some gs =>
      refine List.forall_mem_singleton.mpr (Stretch.separated_of_parting hlead ?_)
      intro hscanned
      exact hclause hscanned gs rfl

theorem separated_whereStretches {l : Layout} (hplain : l.Plain) :
    ∀ s ∈ l.whereStretches, s.Separated ∧ s.Opens := by
  have hclose : Stretch.Separated ⟨")", [], false⟩ ∧ Stretch.Opens ⟨")", [], false⟩ :=
    Stretch.separated_of_parting (by decide) fun _ => rfl
  have hconditions (c : List Glyph) :
      Stretch.Separated ⟨" WHERE (", c, true⟩ ∧ Stretch.Opens ⟨" WHERE (", c, true⟩ :=
    Stretch.separated_of_parting (by decide) (nofun)
  have hrestriction := hplain.restriction
  unfold whereStretches
  cases hr : l.restriction with
  | none =>
      cases l.conditions with
      | none => exact List.forall_mem_nil _
      | some c =>
          exact List.forall_mem_cons.mpr ⟨hconditions c, List.forall_mem_singleton.mpr hclose⟩
  | some r =>
      have hnames : Marker.names r = [] := hrestriction r hr
      cases l.conditions with
      | none =>
          refine List.forall_mem_cons.mpr ⟨?_, List.forall_mem_singleton.mpr hclose⟩
          exact Stretch.separated_of_parting (by decide) fun _ => hnames
      | some c =>
          refine List.forall_mem_cons.mpr ⟨hconditions c, List.forall_mem_cons.mpr
            ⟨?_, List.forall_mem_singleton.mpr hclose⟩⟩
          exact Stretch.separated_of_parting (by decide) fun _ => hnames

theorem separated_laterStretches {l : Layout} (hplain : l.Plain) :
    ∀ s ∈ l.laterStretches, s.Separated ∧ s.Opens := by
  have hfrom : Stretch.Separated ⟨" FROM ", l.tables, false⟩ ∧
      Stretch.Opens ⟨" FROM ", l.tables, false⟩ :=
    Stretch.separated_of_parting (by decide) fun _ => hplain.tables
  have hjoins : ∀ s ∈ optional " " false l.joins, s.Separated ∧ s.Opens :=
    separated_optional (by decide) fun _ => hplain.joins
  have hgroup : ∀ s ∈ optional " GROUP BY " true l.group, s.Separated ∧ s.Opens :=
    separated_optional (by decide) nofun
  have horder : ∀ s ∈ optional " ORDER BY " true l.order, s.Separated ∧ s.Opens :=
    separated_optional (by decide) nofun
  simp only [laterStretches, List.forall_mem_cons, List.forall_mem_append]
  exact ⟨hfrom, hjoins, separated_whereStretches hplain, hgroup, horder⟩

/-- The number that stands for no limit has nothing of its own behind it. -/
theorem separated_endless (p : Paging) :
    ∀ s ∈ (p.endless.map fun n => (⟨" LIMIT " ++ n, [], false⟩ : Stretch)).toList,
      s.Separated ∧ s.Opens := by
  have hnumber {n : String} (hnames : Marker.names (Glyph.ofText (" LIMIT " ++ n)) = []) :
      ∀ s ∈ [(⟨" LIMIT " ++ n, [], false⟩ : Stretch)], s.Separated ∧ s.Opens :=
    List.forall_mem_singleton.mpr ⟨⟨hnames, Or.inl rfl, fun _ => rfl⟩, by
      rw [Stretch.Opens, Glyph.ofText_append]
      rfl⟩
  cases p with
  | fixed style => exact List.forall_mem_nil _
  | mapped d =>
      cases d with
      | sqlite => exact hnumber (by decide)
      | mysql => exact hnumber (by decide)
      | mariadb => exact hnumber (by decide)
      | _ => exact List.forall_mem_nil _

theorem separated_boundStretches (l : Layout) (p : Paging) :
    ∀ s ∈ l.boundStretches p, s.Separated ∧ s.Opens := by
  have hlimit (gs : List Glyph) :
      Stretch.Separated ⟨" LIMIT ", gs, true⟩ ∧ Stretch.Opens ⟨" LIMIT ", gs, true⟩ :=
    Stretch.separated_of_parting (by decide) nofun
  have hoffset : ∀ offset, ∀ s ∈ optional " OFFSET " true offset, s.Separated ∧ s.Opens :=
    fun _ => separated_optional (by decide) nofun
  unfold boundStretches
  cases l.limit with
  | some gs => exact List.forall_mem_cons.mpr ⟨hlimit gs, hoffset l.offset⟩
  | none =>
      cases l.offset with
      | none => exact List.forall_mem_nil _
      | some o => exact List.forall_mem_append.mpr ⟨separated_endless p, hoffset (some o)⟩

/-- All stretches are separated, and all but the first one keep what is before them apart. -/
theorem separated_boundedStretches {l : Layout} (hplain : l.Plain) (p : Paging) :
    (∀ s ∈ l.boundedStretches p, s.Separated) ∧
      ∀ s ∈ (l.boundedStretches p).tail, s.Opens := by
  have hlater := separated_laterStretches hplain
  have hbounds := l.separated_boundStretches p
  have hwrapped : Stretch.Separated ⟨") q", [], false⟩ ∧ Stretch.Opens ⟨") q", [], false⟩ :=
    ⟨⟨by decide, Or.inl rfl, fun _ => rfl⟩, rfl⟩
  have hfirst (lead : String) (hnames : Marker.names (Glyph.ofText lead) = [])
      (hlast : Marker.allowsMarker (Glyph.ofText lead).getLast? = true) :
      Stretch.Separated ⟨lead, l.select, false⟩ :=
    ⟨hnames, Or.inr hlast, fun _ => hplain.select⟩
  unfold boundedStretches
  split
  · have hrest : ∀ s ∈ l.laterStretches ++ ⟨") q", [], false⟩ :: l.boundStretches p,
        s.Separated ∧ s.Opens :=
      List.forall_mem_append.mpr ⟨hlater, List.forall_mem_cons.mpr ⟨hwrapped, hbounds⟩⟩
    exact ⟨List.forall_mem_cons.mpr ⟨hfirst _ (by decide) (by decide), fun s hs => (hrest s hs).1⟩,
      fun s hs => (hrest s hs).2⟩
  · have hrest : ∀ s ∈ l.laterStretches ++ l.boundStretches p, s.Separated ∧ s.Opens :=
      List.forall_mem_append.mpr ⟨hlater, hbounds⟩
    exact ⟨List.forall_mem_cons.mpr ⟨hfirst _ (by decide) (by decide), fun s hs => (hrest s hs).1⟩,
      fun s hs => (hrest s hs).2⟩

/-- A statement that copies no marker is scanned as it was assembled. -/
theorem bindContent_statement {l : Layout} (hplain : l.Plain) {backend : Backend} {p : Paging}
    (hpaging : backend.paginate = p.apply) (hkeeps : p.keepsOrder = true) (b : Binder) :
    b.bindContent (l.statement backend b).1.content = l.statement backend b := by
  obtain ⟨hseparated, hopens⟩ := separated_boundedStretches hplain p
  rw [statement_eq_bindStretches l hpaging hkeeps, Binder.bindContent, Template.content,
    Content.glyphs_ofGlyphs, Binder.glyphs_bindStretches]
  exact b.bindGlyphs_stretches hseparated hopens

end Layout

/-- Neither the clauses that are copied nor what the backend has to add hold a marker. -/
structure Clauses.Plain (c : Clauses) (backend : Backend) : Prop where
  select : Marker.names (c.select.orElse (.str "*")).content.glyphs = []
  tables : c.tables.truthy = true → Marker.names c.tables.content.glyphs = []
  joins : ∀ joins, c.joins.content? = some joins → Marker.names joins.glyphs = []
  tableName : ∀ table, backend.tableName = .ok table → Marker.names (Glyph.ofText table) = []
  restriction : ∀ r, backend.typeRestriction = .ok (some r) → Marker.names (Glyph.ofText r) = []

theorem Clauses.Plain.layout {c : Clauses} {backend : Backend} (hplain : c.Plain backend)
    {l : Layout} (hlayout : c.layout backend = .ok l) : l.Plain := by
  obtain ⟨hselect, htables, hjoins, hrestriction⟩ := texts_of_layout hlayout
  refine ⟨hselect ▸ hplain.select, ?_, ?_, ?_⟩
  · unfold tablesText at htables
    split at htables
    · next htruthy =>
      rw [← Except.ok.inj htables]
      exact hplain.tables htruthy
    · obtain ⟨table, htable, hl⟩ := map_eq_ok.mp htables
      rw [← hl]
      exact hplain.tableName table htable
  · intro gs hgs
    rw [hgs] at hjoins
    unfold clauseText at hjoins
    split at hjoins
    · split at hjoins
      · next joins hcontent =>
        obtain rfl : joins.glyphs = gs := by simpa using hjoins
        exact hplain.joins joins hcontent
      · cases hjoins
    · cases hjoins
  · intro gs hgs
    rw [hgs] at hrestriction
    unfold restrictionText at hrestriction
    split at hrestriction
    · cases hrestriction
    · obtain ⟨found, hfound, hl⟩ := map_eq_ok.mp hrestriction
      obtain ⟨r, hr, hgs⟩ := Option.map_eq_some_iff.mp hl
      obtain ⟨rfl, -⟩ := Option.filter_eq_some_iff.mp hr
      rw [← hgs]
      exact hplain.restriction r hfound

/-- Where no copied text holds a marker, the assembled statement and the parameters that were found
on the way are those of the whole statement, scanned as one text. -/
theorem Options.bindContent_assemble {o : Options} {model : String} {hook : Option Hook}
    {backend : Backend} {c : Clauses} {p : Paging} {t : Template} {b : Binder}
    (hprefetched : (o.prefetched model hook).result = .ok c) (hplain : c.Plain backend)
    (hpaging : backend.paginate = p.apply) (hkeeps : p.keepsOrder = true)
    (hassemble : (o.assemble model hook backend .empty).result = .ok (t, b)) :
    Binder.empty.bindContent t.content = (t, b) := by
  rw [assemble, Traced.bind_of_ok hprefetched] at hassemble
  obtain ⟨l, hlayout, hl⟩ := Clauses.exists_layout hassemble
  have hbind := Layout.bindContent_statement (hplain.layout hlayout) hpaging hkeeps .empty
  rwa [hl] at hbind

/-- A backend whose table holds rows of other types, too. -/
def FixedBackend.soups : FixedBackend :=
  { FixedBackend.standard with root := false, predicate := some "kind = 'soup'" }

/-- Options with markers at the borders of their texts, and with colons that are none. -/
def Options.bordering : Options :=
  { Options.empty with
    select := some (.text "price::numeric")
    conditions := some (.text ":diet = diet OR '10:30' < :late")
    offset := some (.text (.text ":late")) }

theorem Options.plain_bordering : bordering.clauses.Plain FixedBackend.soups.toBackend where
  select := by decide
  tables := nofun
  joins := nofun
  tableName table htable := by
    obtain rfl := Except.ok.inj htable
    decide
  restriction r hr := by
    obtain rfl := Option.some.inj (Except.ok.inj hr)
    decide

theorem Options.bindContent_assemble_soups :
    ∃ t b, (Options.bordering.assemble "Soup" none FixedBackend.soups.toBackend .empty).result =
        .ok (t, b) ∧ b.order = ["diet", "late"] ∧
      Binder.empty.bindContent t.content = (t, b) := by
  have hassemble : (Options.bordering.assemble "Soup" none FixedBackend.soups.toBackend
    .empty).result = .ok (_, _) := rfl
  have hpaging : FixedBackend.soups.toBackend.paginate = (Paging.fixed .suffix).apply := rfl
  exact ⟨_, _, hassemble, rfl,
    Options.bindContent_assemble rfl plain_bordering hpaging rfl hassemble⟩

end NamedQuery
