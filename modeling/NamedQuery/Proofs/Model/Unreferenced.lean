import NamedQuery.Proofs.Model.Missing

/-!
# Values that no parameter has

A named finder looks its mapping up under the names of its slots, each of which is a parameter.  Two
calls with mappings that agree on the parameters therefore run alike from beginning to end.  Under
any other name a mapping may hold what it likes, a value that cannot be quoted too.
-/

namespace NamedQuery

/-- Under each of the names both mappings have the same value, or neither has one. -/
def Arguments.AgreeOn (names : List String) (entries entries' : List (Value × Value)) : Prop :=
  ∀ name ∈ names, Value.lookup (.str name) entries = Value.lookup (.str name) entries'

namespace Finder

variable {f : Finder} {entries entries' : List (Value × Value)}

/-- A slot has its own value quoted, if it has one, and no other. -/
theorem quotedValues_resolve (f : Finder) (backend : Backend) (entries : List (Value × Value))
    (s : Slot) :
    (f.resolve backend (.mapping entries) s).quotedValues.map some <+: [s.entry? entries] := by
  cases hentry : s.entry? entries with
  | none =>
      rw [resolve_of_missing hentry]
      exact List.nil_prefix
  | some v =>
      rw [resolve_of_entry hentry]
      exact List.prefix_refl [some v]

/-- The values that are quoted are those of the slots, from left to right and as far as the filling
goes. -/
theorem quotedValues_fill (f : Finder) (backend : Backend) (entries : List (Value × Value)) :
    (f.fill backend (.mapping entries)).quotedValues.map some <+:
      f.template.slots.map (Slot.entry? entries) := by
  rw [fill]
  rcases f.template.render_cases (f.resolve backend (.mapping entries)) with
    ⟨hall, sql, hrendered⟩ | ⟨before, s, behind, e, hslots, hbefore, -, hrendered⟩
  · have hquoted := quotedValues_resolved hall (.ok sql)
    exact ⟨[], by rw [hrendered, List.append_nil, hquoted]⟩
  · have hquoted := quotedValues_resolved hbefore (.error e : Except Error String)
    have hlast := quotedValues_resolve f backend entries s
    rw [hrendered, hslots, List.map_append, List.map_cons, Traced.quotedValues,
      List.filterMap_append, List.map_append, ← hquoted]
    exact (List.prefix_append_right_inj _).mpr (hlast.trans ⟨_, rfl⟩)

/-- Mappings that agree on the names of the slots fill the statement alike. -/
theorem fill_of_agreeOn
    (hagree : Arguments.AgreeOn (f.template.slots.map Slot.name) entries entries')
    (backend : Backend) :
    f.fill backend (.mapping entries) = f.fill backend (.mapping entries') := by
  apply fill_congr
  intro s hs
  rw [valueAt, valueAt, hagree s.name (List.mem_map_of_mem hs)]

end Finder

namespace Models

variable {ms : Models} {hook : Option Hook} {dialect : Dialect} {m : Model} {name arity : Value}
  {given : GivenOptions} {f : Finder}

/-- Two runs of a finder that takes a mapping are the same if their mappings agree on its
parameters: the same values are quoted in the same order, and there is the same statement or the
same error.  This holds on every backend, and for everything that a preview or a call does.  What is
quoted are the values that the mapping has under the names of the slots, from left to right, and so
values of parameters alone. -/
theorem render_of_agreeOn
    (hdefine : (ms.defineWith hook dialect m name arity given).1.result = .ok f)
    {args args' : Arguments} (hallowed : Entrance.render.Allows args.keywords)
    (hallowed' : Entrance.render.Allows args'.keywords) {entries entries' : List (Value × Value)}
    (hbind : f.bindArguments args = .ok (.mapping entries))
    (hbind' : f.bindArguments args' = .ok (.mapping entries'))
    (hagree : Arguments.AgreeOn f.order entries entries') :
    (∀ backend, f.render backend args = f.render backend args') ∧ f.TakesAlike args args' ∧
      ∀ backend,
        (f.render backend args).quotedValues.map some <+:
          f.template.slots.map (Slot.entry? entries) ∧
        ∀ v ∈ (f.render backend args).quotedValues, ∃ parameter ∈ f.order,
          Value.lookup (.str parameter) entries = some v := by
  rw [result_defineWith] at hdefine
  have hmem := (names_of_compileWith hdefine).1
  have hslots : Arguments.AgreeOn (f.template.slots.map Slot.name) entries entries' := by
    intro parameter hparameter
    exact hagree parameter ((hmem parameter).mpr hparameter)
  have hrender (backend : Backend) : f.render backend args = f.render backend args' := by
    rw [Finder.render_of_allows hallowed hbind, Finder.render_of_allows hallowed' hbind',
      Finder.fill_of_agreeOn hslots]
  have hquoted (backend : Backend) : (f.render backend args).quotedValues.map some <+:
      f.template.slots.map (Slot.entry? entries) := by
    rw [Finder.render_of_allows hallowed hbind]
    exact f.quotedValues_fill backend entries
  refine ⟨hrender, Finder.takesAlike_of_render hallowed hallowed' hrender, ?_⟩
  intro backend
  refine ⟨hquoted backend, fun v hv => ?_⟩
  obtain ⟨s, hs, hentry⟩ := List.mem_map.mp ((hquoted backend).subset (List.mem_map_of_mem hv))
  exact ⟨s.name, (hmem s.name).mpr (List.mem_map_of_mem hs), hentry⟩

/-- The values for `cheap`. -/
def frugal : List (Value × Value) := [(.str "diet", .str "any"), (.str "most", .int 3)]

/-- The same, with an entry that has no literal. -/
def noted : List (Value × Value) := (.str "note", .dict []) :: frugal

/-- A backend that quotes as a database does. -/
def strict : Backend := { FixedBackend.standard.toBackend with quote := Dialect.sqlite.quote }

theorem render_of_noted :
    strict.quote (.dict []) = .error (.unquotable (.dict []) "sqlite") ∧
    ∃ f, (recipes.defineWith none .sqlite recipe (.str "cheap") (.str "all")
        (.checked { cheap with order := none })).1.result = .ok f ∧
      (f.render strict ⟨[.dict noted], []⟩).result =
        .ok "SELECT * FROM recipes WHERE (diet = 'any' AND cost < 3)" ∧
      f.TakesAlike ⟨[.dict noted], []⟩ ⟨[.dict frugal], []⟩ := by
  have hmade : ((recipes.defineWith none .sqlite recipe (.str "cheap") (.str "all")
      (.checked { cheap with order := none })).1.result.toOption.map fun f =>
        (f.positional, f.order, (f.fill strict (.row [.str "any", .int 3])).result.toOption)) =
      some (false, ["diet", "most"],
        some "SELECT * FROM recipes WHERE (diet = 'any' AND cost < 3)") := by decide +kernel
  obtain ⟨f, hf, hparts⟩ := Option.map_eq_some_iff.mp hmade
  obtain ⟨hnamed, horder, hfill⟩ : f.positional = false ∧ f.order = ["diet", "most"] ∧ _ := by
    simpa only [Prod.mk.injEq] using hparts
  have hdefine := toOption_eq_some.mp hf
  have hbind (entries : List (Value × Value)) :
      f.bindArguments ⟨[.dict entries], []⟩ = .ok (.mapping entries) := by
    rw [Finder.bindArguments, hnamed]
    rfl
  have hallowed : Entrance.render.Allows [] := List.forall_mem_nil _
  have hagree : Arguments.AgreeOn f.order noted frugal := by
    intro parameter hparameter
    have hother : "note" ≠ parameter := by
      rintro rfl
      rw [horder] at hparameter
      exact absurd hparameter (by decide)
    rw [noted, Value.lookup_cons, Value.same_str, if_neg (by simpa using hother)]
  obtain ⟨hrender, halike, -⟩ :=
    render_of_agreeOn hdefine hallowed hallowed (hbind noted) (hbind frugal) hagree
  refine ⟨rfl, f, hdefine, ?_, halike⟩
  have hnumbered : f.Numbered := numbered_of_compileWith (result_defineWith .. ▸ hdefine)
  have hplaced : frugal = Arguments.named f.order [.str "any", .int 3] := by rw [horder]; rfl
  rw [hrender, Finder.render_of_allows hallowed (hbind frugal), hplaced,
    hnumbered.fill_named strict (by rw [horder]; rfl), toOption_eq_some.mp hfill]

end Models

end NamedQuery
