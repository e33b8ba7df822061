import NamedQuery.Proofs.Finder.Parameters
import NamedQuery.Proofs.Finder.Rendering
import NamedQuery.Proofs.Model.Backend
import NamedQuery.Proofs.Statement.Parameters

/-!
# What definitions make

A definition that succeeds has gone through all of its checks, and its finder holds the statement of
a layout and the order of the binder that has made it.
-/

namespace NamedQuery

theorem Spec.build_eq_ok {name arity : Value} {given : GivenOptions} {spec : Spec} :
    Spec.build name arity given = .ok spec ↔
      readOptions given = .ok (.ok spec.options) ∧ readName name = .ok spec.name ∧
        readArity arity = .ok spec.arity := by
  rw [build, bind_eq_ok]
  constructor
  · rintro ⟨read, hread, hrest⟩
    split at hrest
    · cases hrest
    · split at hrest
      · next hname harity =>
        obtain rfl := Except.ok.inj hrest
        exact ⟨hread, hname, harity⟩
      · cases hrest
  · rintro ⟨hread, hname, harity⟩
    refine ⟨_, hread, ?_⟩
    simp only [hname, harity]

theorem Spec.isFinderName_of_readName {v : Value} {name : String}
    (hname : readName v = .ok name) : isFinderName name = true := by
  rw [readName] at hname
  cases hread : Options.readText v with
  | error c => simp [hread, bind, Except.bind] at hname
  | ok content =>
      cases content with
      | broken points => simp [hread, bind, Except.bind] at hname
      | text s =>
          simp only [hread, bind, Except.bind] at hname
          split at hname
          · next hs => exact Except.ok.inj hname ▸ hs
          · cases hname

/-- The shared engine is one of SQLite, and nothing is configured. -/
def Surroundings.usual : Surroundings := ⟨.sqlite, .ok .standard⟩

namespace Models

variable {ms : Models} {hook : Option Hook} {dialect : Dialect} {here : Surroundings} {m : Model}
  {name arity : Value} {given : GivenOptions} {f : Finder}

theorem result_defineWith (ms : Models) (hook : Option Hook) (dialect : Dialect) (m : Model)
    (name arity : Value) (given : GivenOptions) :
    (ms.defineWith hook dialect m name arity given).1.result =
      (ms.compileWith hook dialect m name arity given).result := by
  unfold defineWith
  cases hcompile : (ms.compileWith hook dialect m name arity given).result with
  | error e => simp only [hcompile]
  | ok f => simp only [hcompile]

/-- A definition that has come as far as its statement gives what is made of that. -/
theorem result_compileWith {spec : Spec} {backend : Backend} {c : Clauses} {t : Template}
    {b : Binder} (hspec : Spec.build name arity given = .ok spec)
    (hfree : isFree (ms.attribute? m spec.name) = true)
    (hbackend : ms.backendOf dialect [] m = .ok backend)
    (hc : (spec.normalized.prefetched m.name hook).result = .ok c)
    (hstatement : c.statement backend .empty = .ok (t, b)) :
    (ms.compileWith hook dialect m name arity given).result =
      Finder.make spec.name spec.arity t b.order spec.options.positional := by
  have hassemble : (spec.normalized.assemble m.name hook backend .empty).result = .ok (t, b) :=
    Traced.bind_result_eq_ok.mpr ⟨c, hc, hstatement⟩
  rw [compileWith, hspec, Traced.ofExcept_ok_bind, if_pos hfree, hbackend,
    Traced.ofExcept_ok_bind, Traced.bind_of_ok hassemble]
  rfl

/-- What a definition has gone through once there is a finder. -/
theorem compileWith_eq_ok :
    (ms.compileWith hook dialect m name arity given).result = .ok f ↔
      ∃ spec backend c t b, Spec.build name arity given = .ok spec ∧
        isFree (ms.attribute? m spec.name) = true ∧
        ms.backendOf dialect [] m = .ok backend ∧
        (spec.normalized.prefetched m.name hook).result = .ok c ∧
        c.statement backend .empty = .ok (t, b) ∧
        Finder.make spec.name spec.arity t b.order spec.options.positional = .ok f := by
  constructor
  · intro hcompile
    obtain ⟨spec, hspec, hrest⟩ := Traced.bind_result_eq_ok.mp hcompile
    split at hrest
    · next hfree =>
      simp only [Options.assemble, Traced.bind_result_eq_ok, Traced.ofExcept_result] at hrest
      obtain ⟨backend, hbackend, ⟨t, b⟩, ⟨c, hc, hstatement⟩, hmake⟩ := hrest
      exact ⟨spec, backend, c, t, b, hspec, hfree, hbackend, hc, hstatement, hmake⟩
    · cases hrest
  · rintro ⟨spec, backend, c, t, b, hspec, hfree, hbackend, hc, hstatement, hmake⟩
    rw [result_compileWith hspec hfree hbackend hc hstatement, hmake]

theorem eq_of_make {name : String} {arity : Arity} {t : Template} {order : List String}
    {positional : Bool} (hmake : Finder.make name arity t order positional = .ok f) :
    f = { name, arity, template := t, order, positional } :=
  (Finder.make_eq_ok.mp hmake).1

/-- The finder of a definition holds a statement and the order of the binder that has made it. -/
theorem exists_layout_of_compileWith
    (hcompile : (ms.compileWith hook dialect m name arity given).result = .ok f) :
    ∃ (l : Layout) (backend : Backend), backend.paginate = (ms.paging dialect m).apply ∧
      f.template = (l.statement backend .empty).1 ∧
        f.order = (l.statement backend .empty).2.order := by
  obtain ⟨spec, backend, c, t, b, -, -, hbackend, -, hstatement, hmake⟩ :=
    compileWith_eq_ok.mp hcompile
  obtain ⟨l, -, hl⟩ := Clauses.exists_layout hstatement
  obtain rfl := eq_of_make hmake
  exact ⟨l, backend, paginate_of_backendOf hbackend, by rw [hl], by rw [hl]⟩

theorem numbered_of_compileWith
    (hcompile : (ms.compileWith hook dialect m name arity given).result = .ok f) :
    f.Numbered := by
  obtain ⟨l, backend, hpaging, htemplate, horder⟩ := exists_layout_of_compileWith hcompile
  obtain ⟨t, hbinds, hperm, -⟩ := l.binds_statement hpaging .empty
  have hnumbers : (l.statement backend .empty).2.Numbers f.template :=
    htemplate ▸ hbinds.numbers.of_perm hperm
  rw [Finder.Numbered, horder]
  exact hnumbers

theorem nodup_order_of_compileWith
    (hcompile : (ms.compileWith hook dialect m name arity given).result = .ok f) :
    f.order.Nodup := by
  obtain ⟨l, backend, hpaging, -, horder⟩ := exists_layout_of_compileWith hcompile
  obtain ⟨t, hbinds, -, -⟩ := l.binds_statement hpaging .empty
  rw [horder]
  exact hbinds.nodup List.nodup_nil

theorem hookOf_of_not_prefetches (ms : Models) (here : Surroundings)
    (hplain : m.prefetches = false) : ms.hookOf here m = none := by
  simp [hookOf, hplain]

/-- The models in which a definition has left its finder. -/
theorem models_defineWith
    (hcompile : (ms.compileWith hook dialect m name arity given).result = .ok f) :
    (ms.defineWith hook dialect m name arity given).2 = ms.replace (m.attach f) := by
  simp only [defineWith, hcompile]

theorem define_of_error {e : Error}
    (he : (ms.define here m name arity given).1.result = .error e) :
    (ms.define here m name arity given).2 = ms := by
  rw [define, result_defineWith] at he
  simp only [define, defineWith, he]

theorem define_of_ok (hf : (ms.define here m name arity given).1.result = .ok f) :
    (ms.define here m name arity given).2 = ms.replace (m.attach f) ∧
      isFree (ms.attribute? m f.name) = true ∧ Spec.readName name = .ok f.name := by
  rw [define, result_defineWith] at hf
  refine ⟨models_defineWith hf, ?_⟩
  obtain ⟨spec, backend, c, t, b, hspec, hfree, -, -, -, hmake⟩ := compileWith_eq_ok.mp hf
  have hname : f.name = spec.name := congrArg Finder.name (eq_of_make hmake)
  rw [hname]
  exact ⟨hfree, (Spec.build_eq_ok.mp hspec).2.1⟩

/-- A finder runs on the backend that it was defined with. -/
theorem backendOf_defineWith (hmodel : ms.get? m.id = some m)
    (hcompile : (ms.compileWith hook dialect m name arity given).result = .ok f)
    (stored : List StoredRow) :
    (ms.defineWith hook dialect m name arity given).2.backendOf dialect stored (m.attach f) =
      ms.backendOf dialect stored m := by
  obtain ⟨spec, backend, c, t, b, -, hfree, hbackend, -, -, hmake⟩ :=
    compileWith_eq_ok.mp hcompile
  have hname : f.name = spec.name := congrArg Finder.name (eq_of_make hmake)
  have hother : m.offersFinders = true → "finder_backend" ≠ f.name := by
    rw [hname]
    exact ne_of_isFree hfree hbackend
  rw [models_defineWith hcompile]
  exact backendOf_attach hmodel hother dialect stored

/-- What a definition makes has exactly the parameters that its statement has slots for, each one
once and in the order in which the slots first stand there; only bounds that are written the other
way round are met in another order.  Every slot holds the place of its own parameter, so that a
row of values fills it with that parameter's value. -/
theorem parameters_of_defineWith
    (hdefine : (ms.defineWith hook dialect m name arity given).1.result = .ok f) :
    f.order.Nodup ∧
      (∀ parameter, parameter ∈ f.order ↔ parameter ∈ f.template.slots.map Slot.name) ∧
      ((ms.paging dialect m).keepsOrder = true →
        f.order = (f.template.slots.map Slot.name).eraseDups) ∧
      (∀ s ∈ f.template.slots, 0 ≤ s.position ∧ s.position < f.order.length ∧
        f.order[s.position.toNat]? = some s.name) ∧
      ∀ values : List Value, values.length = f.order.length → ∀ s ∈ f.template.slots,
        ∃ v, (s.name, v) ∈ f.order.zip values ∧ f.valueAt s (.row values) = .ok v := by
  rw [result_defineWith] at hdefine
  have hnumbered := numbered_of_compileWith hdefine
  obtain ⟨l, backend, hpaging, htemplate, horder⟩ := exists_layout_of_compileWith hdefine
  obtain ⟨t, hbinds, hperm, hkept⟩ := l.binds_statement hpaging .empty
  have hnames : f.order = (t.slots.map Slot.name).eraseDups := by
    rw [horder, hbinds.order [] rfl, hbinds.slots, List.nil_append]
  rw [← htemplate] at hperm hkept
  refine ⟨nodup_order_of_compileWith hdefine, ?_, ?_, ?_, ?_⟩
  · intro parameter
    rw [hnames, List.mem_eraseDups]
    exact (hperm.map Slot.name).mem_iff.symm
  · intro hkeeps
    rw [hnames, hkept hkeeps]
  · intro s hs
    exact Binder.Numbers.getElem?_position hnumbered hs
  · intro values hlength s hs
    exact hnumbered.valueAt_row hlength hs

/-- A class that brings its backend along, alone. -/
def recipe : Model :=
  { id := 0, name := "Recipe", ancestors := [], offersFinders := true, prefetches := false,
    backend := some .standard, mapping := none,
    members := [("finder_backend", .operation .backend)], finders := [] }

def recipes : Models := ⟨[recipe], .empty⟩

/-- Options that name a parameter in two clauses. -/
def cheap : Options :=
  { Options.empty with
    conditions := some (.text "diet = :diet AND cost < :most")
    order := some (.text "ABS(cost - :most)") }

/-- A hook that adds an offset. -/
def skipping : Hook := fun o => pure (.options { o.clauses with offset := .str ":skipped" })

theorem parameters_of_recipes :
    ∃ f, (recipes.defineWith (some skipping) .sqlite recipe (.str "cheap") (.str "all")
        (.checked cheap)).1.result = .ok f ∧
      f.order = ["diet", "most", "skipped"] ∧
        f.order = (f.template.slots.map Slot.name).eraseDups := by
  have hdefine : (recipes.defineWith (some skipping) .sqlite recipe (.str "cheap") (.str "all")
    (.checked cheap)).1.result = .ok _ := rfl
  exact ⟨_, hdefine, rfl, (parameters_of_defineWith hdefine).2.2.1 rfl⟩

end Models

end NamedQuery
