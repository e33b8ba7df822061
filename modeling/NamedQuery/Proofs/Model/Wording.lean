import NamedQuery.Model.Call
import NamedQuery.Proofs.Model.Defining
import NamedQuery.Proofs.Statement.Checked
import NamedQuery.Proofs.Statement.Filling

/-!
# The wording of statements

From checked options to the statement that a call runs: the texts of the clauses in their order,
with a literal wherever one of the scanned texts has a marker, and nothing else.
-/

namespace NamedQuery

namespace Finder

/-- A named finder whose parameters all have literals runs its template with these literals. -/
theorem result_render_named {f : Finder} (hnamed : f.positional = false) {backend : Backend}
    {entries : List (Value × Value)} {literal : String → String}
    (hvalues : ∀ s ∈ f.template.slots, ∃ v, Value.lookup (.str s.name) entries = some v ∧
      backend.quote v = .ok (literal s.name)) :
    (f.render backend ⟨[.dict entries], []⟩).result =
      .ok (Glyph.toText (f.template.filled literal)) := by
  have hbind : f.bindArguments ⟨[.dict entries], []⟩ = .ok (.mapping entries) := by
    rw [bindArguments, hnamed]
    rfl
  have hresolve : ∀ s ∈ f.template.slots,
      (f.resolve backend (.mapping entries) s).result = .ok (literal s.name) := by
    intro s hs
    obtain ⟨v, hlookup, hquote⟩ := hvalues s hs
    have hvalue : f.valueAt s (.mapping entries) = .ok v := by
      simp only [valueAt, hlookup]
    rw [resolve, hvalue]
    exact hquote
  rw [render_of_bindArguments hbind, fill, Template.render,
    Traced.bind_of_ok (Template.result_renderSymbols hresolve)]
  rfl

/-- Where the settings can be read, a run of a finder runs the statement that it renders and no
other. -/
theorem statements_run {f : Finder} {label : String} {backend : Backend} {a : Arguments}
    {sql : String} (settings : Settings) (hrender : (f.render backend a).result = .ok sql)
    (hrun : (backend.run sql).statements = [sql]) :
    (f.run (.ok settings) label backend a).statements = [sql] := by
  have hannounced : (Traced.announce (.ok settings) label sql).statements = [] := by
    rw [Traced.announce_ok]
    cases settings.logSql <;> rfl
  have hlogged : (backend.run sql >>= fun rows => do
      Traced.log (.returned label rows.length)
      pure (f.shape rows)).statements = [sql] := by
    rw [Traced.statements_bind_of_quiet fun _ => rfl, hrun]
  rw [run, Traced.statements_bind_of_ok hrender, f.statements_render backend a,
    Traced.statements_bind_of_ok (by rw [Traced.announce_ok]), hannounced, hlogged]
  rfl

end Finder

namespace Models

variable {ms : Models} {dialect : Dialect} {here : Surroundings} {m : Model} {name arity : Value}
  {given : GivenOptions} {spec : Spec} {backend : Backend} {table : String}
  {restriction : Option String}

/-- A definition without a hook succeeds if its name is free and the backend has what its options
leave to it. -/
theorem exists_compileWith_of_layout (hspec : Spec.build name arity given = .ok spec)
    (hnamed : spec.options.positional = false)
    (hfree : isFree (ms.attribute? m spec.name) = true)
    (hbackend : ms.backendOf dialect [] m = .ok backend) {l : Layout}
    (hlayout : spec.normalized.clauses.layout backend = .ok l) :
    ∃ f, (ms.compileWith none dialect m name arity given).result = .ok f ∧
      f.positional = false ∧ f.template = (l.statement backend .empty).1 := by
  refine ⟨⟨spec.name, spec.arity, (l.statement backend .empty).1,
    (l.statement backend .empty).2.order, false⟩, ?_, rfl, rfl⟩
  refine compileWith_eq_ok.mpr ⟨spec, backend, spec.normalized.clauses,
    (l.statement backend .empty).1, (l.statement backend .empty).2, hspec, hfree, hbackend, rfl,
    ?_, ?_⟩
  · rw [Clauses.statement_eq_layout, hlayout]
    rfl
  · rw [hnamed]
    rfl

/-- The finder of a layout renders what the layout words. -/
theorem result_render_of_layout {l : Layout} {p : Paging} (hpaging : backend.paginate = p.apply)
    {f : Finder} (hnamed : f.positional = false)
    (htemplate : f.template = (l.statement backend .empty).1)
    {entries : List (Value × Value)} {literal : String → String}
    (hvalues : ∀ parameter ∈ l.names, ∃ v, Value.lookup (.str parameter) entries = some v ∧
      backend.quote v = .ok (literal parameter)) :
    (f.render backend ⟨[.dict entries], []⟩).result =
      .ok (Glyph.toText (l.written p literal)) := by
  obtain ⟨t, hbinds, hperm, -⟩ := l.binds_statement hpaging .empty
  rw [← l.filled_statement hpaging .empty literal, ← htemplate]
  refine Finder.result_render_named hnamed ?_
  intro s hs
  have hname : s.name ∈ t.slots.map Slot.name :=
    List.mem_map_of_mem (hperm.mem_iff.mp (htemplate ▸ hs))
  rw [hbinds.slots] at hname
  exact hvalues s.name hname

/-- Defined by name on a model without a hook and called with a mapping that has a value with a
literal for each marker, a finder runs exactly the statement that its options word: the clauses in
their order and the bounds in the words of the backend, each marker of a scanned text replaced by
the literal for its name.  A preview shows this statement; a call also needs settings that can be
read. -/
theorem statements_call_eq_written (hmodel : ms.get? m.id = some m)
    (hplain : m.prefetches = false) (hspec : Spec.build name arity given = .ok spec)
    (hnamed : spec.options.positional = false)
    (hfree : isFree (ms.attribute? m spec.name) = true)
    (hbackend : ms.backendOf here.dialect [] m = .ok backend)
    (htable : Options.present spec.normalized.tables = none → backend.tableName = .ok table)
    (hrestriction : backend.restriction? = .ok restriction)
    (hlimit : ∀ b ∈ spec.normalized.limit, b.isWritable = true)
    (hoffset : ∀ b ∈ spec.normalized.offset, b.isWritable = true) :
    ∃ f, (ms.define here m name arity given).1.result = .ok f ∧
      ∀ (entries : List (Value × Value)) (literal : String → String),
        (∀ parameter ∈ spec.normalized.markers,
          ∃ v, Value.lookup (.str parameter) entries = some v ∧
            backend.quote v = .ok (literal parameter)) →
        let sql := Glyph.toText ((spec.normalized.layout table restriction).written
          (ms.paging here.dialect m) literal)
        ((ms.define here m name arity given).2.preview here.dialect (m.attach f) f
            ⟨[.dict entries], []⟩).result = .ok sql ∧
          ∀ (settings : Settings) (stored : List StoredRow),
            ((ms.define here m name arity given).2.call ⟨here.dialect, .ok settings⟩ stored
              (m.attach f) f ⟨[.dict entries], []⟩).statements = [sql] := by
  have hpaging := paginate_of_backendOf hbackend
  obtain ⟨f, hcompile, hbyName, htemplate⟩ :=
    exists_compileWith_of_layout hspec hnamed hfree hbackend
      (Options.layout_clauses htable hrestriction hlimit hoffset)
  simp only [define, ms.hookOf_of_not_prefetches here hplain, result_defineWith]
  refine ⟨f, hcompile, ?_⟩
  intro entries literal hvalues
  rw [← Options.names_layout _ table restriction] at hvalues
  constructor
  · rw [preview, backendOf_defineWith hmodel hcompile, hbackend]
    exact result_render_of_layout hpaging hbyName htemplate hvalues
  · intro settings stored
    obtain ⟨run, hstored⟩ := exists_backendOf hbackend stored
    have hrender : (f.render { backend with run } ⟨[.dict entries], []⟩).result =
        .ok (Glyph.toText ((spec.normalized.layout table restriction).written
          (ms.paging here.dialect m) literal)) :=
      result_render_of_layout hpaging hbyName htemplate hvalues
    rw [call, backendOf_defineWith hmodel hcompile, hstored]
    exact Finder.statements_run settings hrender (statements_run hstored _)

theorem statements_call_recipes :
    ∃ f, (recipes.define .usual recipe (.str "cheap") (.str "all") (.checked cheap)).1.result =
        .ok f ∧
      ((recipes.define .usual recipe (.str "cheap") (.str "all") (.checked cheap)).2.call
          .usual [] (recipe.attach f) f
          ⟨[.dict [(.str "diet", .str "any :most"), (.str "most", .int 3)]], []⟩).statements =
        ["SELECT * FROM recipes WHERE (diet = 'any :most' AND cost < 3)" ++
          " ORDER BY ABS(cost - 3)"] := by
  have hspec : Spec.build (.str "cheap") (.str "all") (.checked cheap) =
    .ok ⟨"cheap", .many, cheap⟩ := rfl
  have hbackend : recipes.backendOf Surroundings.usual.dialect [] recipe =
    .ok FixedBackend.standard.toBackend := rfl
  have htable : FixedBackend.standard.toBackend.tableName = .ok "recipes" := rfl
  have hthree : FixedBackend.standard.toBackend.quote (.int 3) = .ok "3" :=
    toOption_eq_some.mp (by decide +kernel)
  obtain ⟨f, hdefine, hcalls⟩ := statements_call_eq_written rfl rfl hspec rfl rfl hbackend
    (fun _ => htable) rfl nofun nofun
  have hvalues : ∀ parameter ∈ ["diet", "most", "most"],
      ∃ v, Value.lookup (.str parameter)
          [(.str "diet", .str "any :most"), (.str "most", .int 3)] = some v ∧
        FixedBackend.standard.toBackend.quote v =
          .ok (if parameter = "diet" then "'any :most'" else "3") := by
    have hmost : Value.lookup (.str "most")
        [(.str "diet", .str "any :most"), (.str "most", .int 3)] = some (.int 3) := by
      simp [Value.lookup_cons, Value.same_str]
    simp only [List.forall_mem_cons]
    exact ⟨⟨_, by rw [Value.lookup_cons, Value.same_str]; rfl, rfl⟩, ⟨_, hmost, hthree⟩,
      ⟨_, hmost, hthree⟩, List.forall_mem_nil _⟩
  exact ⟨f, hdefine, (hcalls _ _ hvalues).2 .standard []⟩

end Models

end NamedQuery
