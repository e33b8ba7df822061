import NamedQuery.Model.Call
import NamedQuery.Proofs.Model.Defining

/-!
# Calls by position and by name

The way in which a finder takes its arguments is settled at its definition and leaves no trace in
its statement.  A model without a hook therefore gives the same statement either way, and a call
with a row of values does what the call with the mapping of the names to these values does.
-/

namespace NamedQuery

namespace Models

variable {ms : Models} {hook : Option Hook} {dialect : Dialect} {here : Surroundings} {m : Model}
  {name arity : Value} {given given' : GivenOptions} {f : Finder}

/-- Without a hook, options that differ in the calling convention alone come to the same statement,
and a finder is made of that in either way. -/
theorem result_compileWith_of_compileWith {o : Options} {placed placed' : Bool}
    (hgiven : Spec.readOptions given = .ok (.ok { o with positional := placed }))
    (hgiven' : Spec.readOptions given' = .ok (.ok { o with positional := placed' }))
    (hcompile : (ms.compileWith none dialect m name arity given).result = .ok f) :
    f.positional = placed ∧
      (ms.compileWith none dialect m name arity given').result =
        Finder.make f.name f.arity f.template f.order placed' := by
  obtain ⟨spec, backend, c, t, b, hspec, hfree, hbackend, hc, hstatement, hmake⟩ :=
    compileWith_eq_ok.mp hcompile
  obtain ⟨hoptions, hname, harity⟩ := Spec.build_eq_ok.mp hspec
  have hread : spec.options = { o with positional := placed } := by
    rw [hgiven] at hoptions
    exact (Except.ok.inj (Except.ok.inj hoptions)).symm
  have hclauses : ({ o with positional := placed' }.normalized spec.arity).clauses =
      spec.normalized.clauses := by
    rw [Spec.normalized, hread]
    cases spec.arity with
    | single => rfl
    | many => rfl
  have hspec' : Spec.build name arity given' =
      .ok { spec with options := { o with positional := placed' } } :=
    Spec.build_eq_ok.mpr ⟨hgiven', hname, harity⟩
  obtain rfl := eq_of_make hmake
  exact ⟨by rw [hread], result_compileWith hspec' hfree hbackend
    ((congrArg Except.ok hclauses).trans hc) hstatement⟩

/-- Without a hook, options that differ in the calling convention alone make the same finder but
for it. -/
theorem compileWith_named {o : Options}
    (hgiven : Spec.readOptions given = .ok (.ok { o with positional := true }))
    (hgiven' : Spec.readOptions given' = .ok (.ok { o with positional := false }))
    (hcompile : (ms.compileWith none dialect m name arity given).result = .ok f) :
    f.positional = true ∧
      (ms.compileWith none dialect m name arity given').result =
        .ok { f with positional := false } :=
  result_compileWith_of_compileWith hgiven hgiven' hcompile

/-- The positional finder of a definition, called with a row of values, and the named finder of the
same definition, called with the mapping of the names to these values, do the same: they quote the
same values in the same order, run the same statement, and fail alike. -/
theorem call_named_eq_call_positional {o : Options} (hmodel : ms.get? m.id = some m)
    (hplain : m.prefetches = false)
    (hgiven : Spec.readOptions given = .ok (.ok { o with positional := true }))
    (hgiven' : Spec.readOptions given' = .ok (.ok { o with positional := false }))
    (hdefine : (ms.define here m name arity given).1.result = .ok f) :
    ∃ f', (ms.define here m name arity given').1.result = .ok f' ∧ f'.order = f.order ∧
      f.order.Nodup ∧
      ∀ values : List Value, values.length = f.order.length →
        ∀ (settings : Except Error Settings) (stored : List StoredRow),
          (ms.define here m name arity given').2.call ⟨here.dialect, settings⟩ stored
              (m.attach f') f' ⟨[.dict (Arguments.named f.order values)], []⟩ =
            (ms.define here m name arity given).2.call ⟨here.dialect, settings⟩ stored
              (m.attach f) f ⟨values, []⟩ ∧
          (ms.define here m name arity given').2.preview here.dialect (m.attach f') f'
              ⟨[.dict (Arguments.named f.order values)], []⟩ =
            (ms.define here m name arity given).2.preview here.dialect (m.attach f) f
              ⟨values, []⟩ := by
  have hhook := ms.hookOf_of_not_prefetches here hplain
  simp only [define, hhook, result_defineWith] at hdefine ⊢
  obtain ⟨hpositional, hnamed⟩ := compileWith_named hgiven hgiven' hdefine
  refine ⟨{ f with positional := false }, hnamed, rfl, nodup_order_of_compileWith hdefine, ?_⟩
  intro values hlength settings stored
  have hrender (backend : Backend) :=
    (numbered_of_compileWith hdefine).render_named hpositional backend hlength
  constructor
  · rw [call, call, backendOf_defineWith hmodel hdefine, backendOf_defineWith hmodel hnamed]
    simp only [Finder.run, hrender]
    rfl
  · rw [preview, preview, backendOf_defineWith hmodel hdefine, backendOf_defineWith hmodel hnamed]
    simp only [hrender]

theorem call_recipes :
    ∃ f f', (recipes.define .usual recipe (.str "cheap") (.str "all")
        (.checked { cheap with positional := true })).1.result = .ok f ∧
      (recipes.define .usual recipe (.str "cheap") (.str "all") (.checked cheap)).1.result =
        .ok f' ∧
      (recipes.define .usual recipe (.str "cheap") (.str "all") (.checked cheap)).2.call
          .usual [] (recipe.attach f') f'
          ⟨[.dict [(.str "diet", .str "vegan"), (.str "most", .int 3)]], []⟩ =
        (recipes.define .usual recipe (.str "cheap") (.str "all")
          (.checked { cheap with positional := true })).2.call
          .usual [] (recipe.attach f) f ⟨[.str "vegan", .int 3], []⟩ := by
  have hdefine : (recipes.define .usual recipe (.str "cheap") (.str "all")
    (.checked { cheap with positional := true })).1.result = .ok _ := rfl
  have hgiven : Spec.readOptions (.checked cheap) =
    .ok (.ok { cheap with positional := false }) := rfl
  obtain ⟨f', hnamed, -, -, hcalls⟩ := call_named_eq_call_positional rfl rfl rfl hgiven hdefine
  exact ⟨_, f', hdefine, hnamed, (hcalls [.str "vegan", .int 3] rfl (.ok .standard) []).1⟩

end Models

end NamedQuery
