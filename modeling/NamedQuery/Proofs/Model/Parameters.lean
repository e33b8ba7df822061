import NamedQuery.Proofs.Model.Conventions
import NamedQuery.Proofs.Options.Meaning

/-!
# Parameters by position

Any run of word characters is the name of a marker, but not every one can name a parameter.  Whether
the values of a finder can be given by position is decided by the names of its markers alone, when
the finder is defined: either each of them is that of a parameter, or the definition tells those
that are not.
-/

namespace NamedQuery

/-- The texts that are scanned are those of the options, in the order of their clauses. -/
theorem Options.names_of_layout {o : Options} {backend : Backend} {l : Layout}
    (hlayout : o.clauses.layout backend = .ok l) : l.names = o.markers := by
  obtain ⟨-, -, -, hconditions, hgroup, horder, hlimit, hoffset⟩ := texts_of_layout hlayout
  rw [l.names_eq, hconditions, hgroup, horder, hlimit, hoffset, markers]

namespace Models

variable {ms : Models} {dialect : Dialect} {here : Surroundings} {m : Model} {name arity : Value}
  {given given' : GivenOptions} {g : Finder} {o : Options}

/-- Without a hook the parameters of a finder are the names of the markers in its options, each one
where it comes first. -/
theorem order_of_compileWith (hgiven : Spec.readOptions given = .ok (.ok o))
    (hcompile : (ms.compileWith none dialect m name arity given).result = .ok g) :
    g.order = (o.normalized g.arity).markers.eraseDups := by
  obtain ⟨spec, backend, c, t, b, hspec, -, hbackend, hc, hstatement, hmake⟩ :=
    compileWith_eq_ok.mp hcompile
  have hread : spec.options = o := by
    have hoptions := (Spec.build_eq_ok.mp hspec).1
    rw [hgiven] at hoptions
    exact (Except.ok.inj (Except.ok.inj hoptions)).symm
  obtain rfl : spec.normalized.clauses = c := Except.ok.inj hc
  obtain ⟨l, hlayout, hl⟩ := Clauses.exists_layout hstatement
  obtain ⟨_, hbinds, -, -⟩ := l.binds_statement (paginate_of_backendOf hbackend) .empty
  obtain rfl := eq_of_make hmake
  rw [hl] at hbinds
  show b.order = (o.normalized spec.arity).markers.eraseDups
  rw [hbinds.order [] rfl, List.nil_append, Options.names_of_layout hlayout, Spec.normalized,
    hread]

/-- For options with which a finder is defined by name, there is one by position exactly if all
names of their markers are identifiers and none is a reserved word.  It has one parameter for each
name, in their order, and these can be given by position or by keyword.  Otherwise the definition
fails, and tells the names at fault in the order in which they come first; the parameters as such
are never found at fault. -/
theorem define_by_position (hplain : m.prefetches = false)
    (hgiven : Spec.readOptions given = .ok (.ok { o with positional := true }))
    (hgiven' : Spec.readOptions given' = .ok (.ok { o with positional := false }))
    (hdefine : (ms.define here m name arity given').1.result = .ok g) :
    let placed := (ms.define here m name arity given).1.result
    let names := (o.normalized g.arity).markers.eraseDups
    let atFault := names.filter fun marker => !Text.isParameterName marker
    ((∃ f, placed = .ok f) ↔
      ∀ marker ∈ names, Text.isIdentifier marker = true ∧ marker ∉ Text.reservedWords) ∧
    (∀ f, placed = .ok f → f = { g with positional := true } ∧ f.order = names ∧
      f.parameters = { leading := [], placed := f.order, others := none } ∧
      f.parameters.fault? = none) ∧
    ∀ e, placed = .error e → e = .unusableParameters g.name atFault ∧ atFault ≠ [] ∧
      e.kind = .definition ∧
      e.message = "Finder " ++ Text.quoted g.name ++ ": placeholder(s) " ++
        String.intercalate ", " (atFault.map (":" ++ ·)) ++
          " cannot be positional parameter names" := by
  intro placed names atFault
  have hhook := ms.hookOf_of_not_prefetches here hplain
  rw [define, hhook, result_defineWith] at hdefine
  have hmarkers : ∀ taken : Arity, ({ o with positional := false }.normalized taken).markers =
      (o.normalized taken).markers := by
    rintro (_ | _) <;> rfl
  have horder : g.order = names := by
    rw [order_of_compileWith hgiven' hdefine, hmarkers]
  obtain ⟨-, hmake⟩ := result_compileWith_of_compileWith hgiven' hgiven hdefine
  have hnodup : g.order.Nodup := nodup_order_of_compileWith hdefine
  have hplaced : placed = Finder.make g.name g.arity g.template g.order true := by
    rw [← hmake, ← result_defineWith, ← hhook]
    rfl
  have husable : (∀ marker ∈ names, Text.isIdentifier marker = true ∧
      marker ∉ Text.reservedWords) ↔ ∀ marker ∈ g.order, Text.isParameterName marker = true := by
    simp [names, horder, Text.isParameterName]
  have hfault : atFault = Finder.unusable g.order := by rw [horder]; rfl
  rw [hplaced, husable, hfault]
  refine ⟨⟨?_, ?_⟩, ?_, ?_⟩
  · rintro ⟨f, hf⟩
    exact ((Finder.make_eq_ok.mp hf).2 rfl).1
  · intro hall
    exact ⟨_, Finder.make_eq_ok.mpr ⟨rfl, fun _ => ⟨hall, hnodup⟩⟩⟩
  · intro f hf
    obtain ⟨rfl, hchecked⟩ := Finder.make_eq_ok.mp hf
    exact ⟨rfl, horder, rfl, Finder.fault?_parameters.mpr hchecked⟩
  · intro e he
    obtain ⟨hunusable, rfl⟩ := Finder.make_eq_error hnodup he
    exact ⟨rfl, hunusable, rfl, rfl⟩

/-- Options with markers that no argument by position could be named after. -/
def ranked : Options :=
  { Options.empty with
    conditions := some (.text "kind = :class AND diet = :diet")
    order := some (.text "ABS(cost - :1st)") }

theorem define_ranked_by_position :
    (recipes.define .usual recipe (.str "ranked") (.str "all")
        (.checked { ranked with positional := true })).1.result =
      .error (.unusableParameters "ranked" ["class", "1st"]) ∧
    ∃ f, (recipes.define .usual recipe (.str "cheap") (.str "all")
        (.checked { cheap with positional := true })).1.result = .ok f ∧
      f.parameters = { leading := [], placed := ["diet", "most"], others := none } := by
  have hranked : (recipes.define .usual recipe (.str "ranked") (.str "all")
    (.checked ranked)).1.result = .ok _ := rfl
  have hcheap : (recipes.define .usual recipe (.str "cheap") (.str "all")
    (.checked cheap)).1.result = .ok _ := rfl
  have hplain : recipe.prefetches = false := rfl
  have hread (o : Options) : Spec.readOptions (.checked o) = .ok (.ok o) := rfl
  obtain ⟨hrefused, -, herror⟩ :=
    define_by_position hplain (hread { ranked with positional := true }) (hread ranked) hranked
  obtain ⟨haccepted, hmade, -⟩ :=
    define_by_position hplain (hread { cheap with positional := true }) (hread cheap) hcheap
  constructor
  · cases hplaced : (recipes.define .usual recipe (.str "ranked") (.str "all")
        (.checked { ranked with positional := true })).1.result with
    | ok f =>
        have hname := hrefused.mp ⟨f, hplaced⟩ "class" (by decide)
        exact absurd hname.2 (by decide)
    | error e =>
        obtain ⟨rfl, -⟩ := herror e hplaced
        rfl
  · obtain ⟨f, hplaced⟩ := haccepted.mpr (by decide)
    obtain ⟨-, horder, hparameters, -⟩ := hmade f hplaced
    exact ⟨f, hplaced, by rw [hparameters, horder]; rfl⟩

end Models

end NamedQuery
