import NamedQuery.Proofs.Model.Previewing

/-!
# Restrictions to a type

The statement of a finder gets the restriction of the class that it is defined on, as it is at that
time, as the last of its conditions.  It is part of the template, so whatever class runs the finder
later and whatever the arguments are, this condition and no other restriction stands in what is run.
-/

namespace NamedQuery

/-! ## What is rendered -/

namespace Template

theorem result_of_renderSymbols {resolve : Slot → Traced String} {symbols : List Symbol}
    {gs : List Glyph} (hgs : (renderSymbols resolve symbols).result = .ok gs) :
    ∀ s ∈ symbols.filterMap Symbol.slot?, ∃ literal, (resolve s).result = .ok literal := by
  induction symbols generalizing gs with
  | nil => exact nofun
  | cons symbol rest ih =>
      cases symbol with
      | glyph g =>
          obtain ⟨tail, htail, -⟩ := Traced.bind_result_eq_ok.mp hgs
          simpa [Symbol.slot?] using ih htail
      | slot s =>
          obtain ⟨literal, hliteral, hrest⟩ := Traced.bind_result_eq_ok.mp hgs
          obtain ⟨tail, htail, -⟩ := Traced.bind_result_eq_ok.mp hrest
          have hslots : (Symbol.slot s :: rest).filterMap Symbol.slot? =
              s :: rest.filterMap Symbol.slot? := rfl
          rw [hslots, List.forall_mem_cons]
          exact ⟨⟨literal, hliteral⟩, ih htail⟩

end Template

/-- What a finder renders is its template with literals in it, one for each parameter. -/
theorem Finder.Numbered.exists_filled {f : Finder} (hnumbered : f.Numbered) {backend : Backend}
    {args : Arguments} {sql : String} (hrender : (f.render backend args).result = .ok sql) :
    ∃ literal : String → String, sql = Glyph.toText (f.template.filled literal) := by
  obtain ⟨-, -, hbound⟩ := Traced.bind_result_eq_ok.mp hrender
  obtain ⟨bindings, -, hfill⟩ := Traced.bind_result_eq_ok.mp hbound
  obtain ⟨gs, hgs, hsql⟩ := Traced.bind_result_eq_ok.mp hfill
  have hresolved := Template.result_of_renderSymbols hgs
  -- a slot is known by its name, so its literal is that of the name
  let literal (name : String) : String :=
    (f.resolve backend bindings (Binder.slot ⟨f.order⟩ name)).result.toOption.getD ""
  have hliteral : ∀ s ∈ f.template.slots,
      (f.resolve backend bindings s).result = .ok (literal s.name) := by
    intro s hs
    obtain ⟨value, hvalue⟩ := hresolved s hs
    have hslot : s = Binder.slot ⟨f.order⟩ s.name := (hnumbered s hs).2
    have hname : literal s.name = value := by
      change (f.resolve backend bindings (Binder.slot ⟨f.order⟩ s.name)).result.toOption.getD "" = _
      rw [← hslot, hvalue]
      rfl
    rw [hvalue, hname]
  refine ⟨literal, ?_⟩
  have hfilled := Template.result_renderSymbols hliteral
  rw [hgs] at hfilled
  rw [← Except.ok.inj hsql, Except.ok.inj hfilled]
  rfl

/-! ## Conditions -/

/-- A statement is that of a layout with literals in it, and it asks for rows that meet the
condition: this stands behind WHERE, joined to the conditions of the layout if there are any. -/
def Layout.Conjoins (l : Layout) (p : Paging) (condition sql : String) : Prop :=
  ∃ literal : String → String,
    let filled := Option.map (Marker.filled literal)
    let body :=
      Glyph.ofText "SELECT " ++ l.select ++ Glyph.ofText " FROM " ++ l.tables ++
        clauseText " " l.joins ++
        whereText ((filled l.conditions).toList ++ [Glyph.ofText condition]) ++
        clauseText " GROUP BY " (filled l.group) ++ clauseText " ORDER BY " (filled l.order)
    sql = Glyph.toText (p.written body (filled l.limit) (filled l.offset))

theorem Layout.conjoins_written {l : Layout} {condition : String}
    (hcondition : l.restriction = some (Glyph.ofText condition)) (p : Paging)
    (literal : String → String) : l.Conjoins p condition (Glyph.toText (l.written p literal)) := by
  refine ⟨literal, ?_⟩
  rw [written, hcondition]
  rfl

/-- Whatever a call of the finder runs and whatever a preview shows is the statement of one layout,
and asks for rows that meet the condition. -/
def Finder.HeldTo (f : Finder) (condition : String) : Prop :=
  ∃ (l : Layout) (p : Paging), ∀ (ms : Models) (here : Surroundings) (stored : List StoredRow)
    (m : Model) (args : Arguments) (sql : String),
    (ms.preview here.dialect m f args).result = .ok sql ∨
        sql ∈ (ms.call here stored m f args).statements →
      l.Conjoins p condition sql

namespace Models

variable {ms : Models} {hook : Option Hook} {dialect : Dialect} {here : Surroundings}
  {stored : List StoredRow} {m : Model} {name arity : Value} {given : GivenOptions} {f : Finder}
  {backend : Backend} {args : Arguments} {sql : String}

/-- What a call runs and what a preview shows was rendered on some backend. -/
theorem exists_render (hsql : (ms.preview here.dialect m f args).result = .ok sql ∨
      sql ∈ (ms.call here stored m f args).statements) :
    ∃ backend, (f.render backend args).result = .ok sql := by
  cases hsql with
  | inl hpreview =>
      obtain ⟨-, -, hrest⟩ := Traced.bind_result_eq_ok.mp hpreview
      obtain ⟨backend, -, hrender⟩ := Traced.bind_result_eq_ok.mp hrest
      exact ⟨backend, hrender⟩
  | inr hcall =>
      unfold call at hcall
      cases hcheck : Entrance.call.checkKeywords args.keywords with
      | error e =>
          rw [hcheck] at hcall
          cases hcall
      | ok checked =>
          rw [hcheck, Traced.ofExcept_ok_bind] at hcall
          cases hbackend : ms.backendOf here.dialect stored m with
          | error e =>
              rw [hbackend] at hcall
              cases hcall
          | ok backend =>
              rw [hbackend, Traced.ofExcept_ok_bind,
                Finder.statements_run_eq _ _ (statements_run hbackend), Option.mem_toList] at hcall
              obtain ⟨settings, -, hrender⟩ := Option.bind_eq_some_iff.mp hcall
              exact ⟨backend, toOption_eq_some.mp hrender⟩

theorem restriction?_of_restrictionText {restriction : Option (List Glyph)}
    (htext : Clauses.restrictionText backend = .ok restriction) :
    ∃ r, backend.restriction? = .ok r := by
  unfold Backend.restriction?
  unfold Clauses.restrictionText at htext
  split at htext
  · next hroot => exact ⟨none, if_pos hroot⟩
  · next hroot =>
    obtain ⟨r, hr, -⟩ := map_eq_ok.mp htext
    exact ⟨r, (if_neg hroot).trans hr⟩

/-- A class that has defined a finder has an answer about its restriction, and a finder is held to
the restriction that there was then. -/
theorem heldTo_of_compileWith
    (hcompile : (ms.compileWith hook dialect m name arity given).result = .ok f)
    (hbackend : ms.backendOf dialect [] m = .ok backend) :
    ∃ restriction, backend.restriction? = .ok restriction ∧
      ∀ condition, restriction = some condition → condition ≠ "" → f.HeldTo condition := by
  have hnumbered := numbered_of_compileWith hcompile
  obtain ⟨spec, definer, c, t, b, -, -, hdefiner, -, hstatement, hmake⟩ :=
    compileWith_eq_ok.mp hcompile
  obtain rfl := Except.ok.inj (hbackend.symm.trans hdefiner)
  obtain ⟨l, hlayout, hl⟩ := Clauses.exists_layout hstatement
  obtain ⟨-, -, -, htext⟩ := Clauses.texts_of_layout hlayout
  obtain ⟨restriction, hrestriction⟩ := restriction?_of_restrictionText htext
  refine ⟨restriction, hrestriction, ?_⟩
  rintro condition rfl hsome
  have hcondition : l.restriction = some (Glyph.ofText condition) := by
    have hsame := Options.restrictionText_of_restriction? hrestriction
    rw [htext] at hsame
    rw [Except.ok.inj hsame]
    simp [hsome]
  have htemplate : f.template = (l.statement backend .empty).1 := by
    rw [eq_of_make hmake, hl]
  refine ⟨l, ms.paging dialect m, ?_⟩
  intro ms' here stored m' args sql hsql
  obtain ⟨used, hrender⟩ := exists_render hsql
  obtain ⟨literal, rfl⟩ := hnumbered.exists_filled hrender
  rw [htemplate, l.filled_statement (paginate_of_backendOf hbackend)]
  exact l.conjoins_written hcondition _ literal

/-- The restriction of a class that shares the table of the one above, written for the identities of
its subtree. -/
theorem restriction?_of_identities {catalog : Catalog} {c : MappedClass} {t : TypeColumn}
    (hshares : c.lineage.isSharing = true) (htype : c.typeColumn = some t)
    (hsome : catalog.identities c ≠ []) {restriction : Option String}
    (hrestriction : (catalog.toBackend dialect stored c).restriction? = .ok restriction) :
    ∃ table literals, catalog.tableName c = .ok table ∧
      dialect.quote (.list (catalog.identities c)) = .ok literals ∧
      restriction = some (table ++ "." ++ t.column.name ++ " IN (" ++ literals ++ ")") := by
  have hroot : (catalog.toBackend dialect stored c).isHierarchyRoot = false := by
    unfold Catalog.toBackend
    cases hlineage : c.lineage with
    | sharing parent => rfl
    | _ => simp [hlineage, Lineage.isSharing] at hshares
  have htyped : catalog.typeRestriction dialect c = .ok restriction := by
    rw [Backend.restriction?, if_neg (by simp [hroot])] at hrestriction
    exact hrestriction
  unfold Catalog.typeRestriction at htyped
  cases hidentities : catalog.identities c with
  | nil => exact absurd hidentities hsome
  | cons first rest =>
      simp only [hshares, htype, hidentities] at htyped
      obtain ⟨table, htable, hrest⟩ := bind_eq_ok.mp htyped
      obtain ⟨literals, hliterals, hok⟩ := bind_eq_ok.mp hrest
      exact ⟨table, literals, htable, hliterals, (Except.ok.inj hok).symm⟩

/-- A finder that is defined on a class which shares a table is held to the identities that there
are in the subtree of the class. -/
theorem heldTo_identities
    (hcompile : (ms.compileWith hook dialect m name arity given).result = .ok f)
    (hfixed : ms.fixedBackend? m = none) {c : MappedClass} (hclass : ms.mappedClass? m = some c)
    {t : TypeColumn} (hshares : c.lineage.isSharing = true) (htype : c.typeColumn = some t)
    (hsome : ms.catalog.identities c ≠ []) :
    ∃ table literals, ms.catalog.tableName c = .ok table ∧
      dialect.quote (.list (ms.catalog.identities c)) = .ok literals ∧
      f.HeldTo (table ++ "." ++ t.column.name ++ " IN (" ++ literals ++ ")") := by
  obtain ⟨spec, backend, _, _, _, -, -, hbackend, -, -, -⟩ := compileWith_eq_ok.mp hcompile
  obtain ⟨restriction, hrestriction, hheld⟩ := heldTo_of_compileWith hcompile hbackend
  obtain ⟨c', hclass', hmapped⟩ := backendOf_of_not_fixed hfixed hbackend
  obtain rfl := Option.some.inj (hclass.symm.trans hclass')
  rw [hmapped] at hbackend
  obtain rfl := Except.ok.inj hbackend
  obtain ⟨table, literals, htable, hliterals, hwritten⟩ :=
    restriction?_of_identities hshares htype hsome hrestriction
  refine ⟨table, literals, htable, hliterals, hheld _ hwritten ?_⟩
  intro hempty
  simpa using congrArg String.length hempty

end Models

end NamedQuery
