import NamedQuery.Proofs.Model.Wording

/-!
# Previews and calls

A preview stops where a call would report its statement.  Up to there both ask for the same backend,
bind the same arguments and have the same values quoted, so what a preview says is what a call of
the same finder does: it runs the statement that the preview shows, or fails as the preview fails
and runs nothing.  Only where the settings cannot be read a call fails at the report, of which a
preview knows nothing.
-/

namespace NamedQuery

namespace Traced

variable {α β : Type} {t : Traced α} {next : α → Traced β}

/-- No value is quoted on the way. -/
def QuotesNothing (t : Traced α) : Prop := ∀ v, .quoted v ∉ t.events

theorem QuotesNothing.bind (ht : t.QuotesNothing) (hnext : ∀ a, (next a).QuotesNothing) :
    (t >>= next).QuotesNothing := by
  intro v hquoted
  cases mem_events_bind hquoted with
  | inl hfirst => exact ht v hfirst
  | inr hlater =>
      obtain ⟨a, ha⟩ := hlater
      exact hnext a v ha

theorem quotesNothing_ofExcept (result : Except Error α) : (ofExcept result).QuotesNothing :=
  fun _ => List.not_mem_nil

theorem quotesNothing_log (record : Log.Record) : (log record).QuotesNothing := by
  simp [QuotesNothing, log, emit]

theorem quotesNothing_announce (settings : Except Error Settings) (label sql : String) :
    (announce settings label sql).QuotesNothing := by
  cases settings with
  | error e => simp [QuotesNothing, announce_error]
  | ok s =>
      rw [announce_ok]
      cases s.logSql <;> simp [QuotesNothing]

theorem quotesNothing_executed (sql : String) : (emit (.executed sql)).QuotesNothing := by
  simp [QuotesNothing, emit]

theorem QuotesNothing.quotedValues_eq_nil (ht : t.QuotesNothing) : t.quotedValues = [] := by
  refine List.filterMap_eq_nil_iff.mpr fun event hevent => ?_
  cases event with
  | quoted v => exact absurd hevent (ht v)
  | consulted => rfl
  | executed sql => rfl
  | logged record => rfl

end Traced

/-- Keywords pass if none of them is a name that an entrance keeps for itself. -/
theorem Entrance.checkKeywords_eq_ok {entrance : Entrance} {keywords : List (String × Value)}
    (hfree : ∀ e ∈ keywords, e.1 ∉ entrance.ownNames) :
    entrance.checkKeywords keywords = .ok () := by
  have hnone : keywords.find? (fun e => entrance.ownNames.contains e.1) = none := by
    rw [List.find?_eq_none]
    intro e he
    simpa using hfree e he
  simp only [checkKeywords, hnone]

namespace Finder

variable {f : Finder} {backend : Backend} {args : Arguments}

/-- A run has quoted what rendering its statement has quoted. -/
theorem quotedValues_run (settings : Except Error Settings) (label : String)
    (hrun : ∀ sql, (backend.run sql).QuotesNothing) :
    (f.run settings label backend args).quotedValues = (f.render backend args).quotedValues := by
  have hlater (sql : String) : (Traced.announce settings label sql >>= fun _ =>
      backend.run sql >>= fun rows => Traced.log (.returned label rows.length) >>= fun _ =>
        pure (f.shape rows)).QuotesNothing := by
    refine (Traced.quotesNothing_announce settings label sql).bind fun _ => ?_
    refine (hrun sql).bind fun rows => (Traced.quotesNothing_log _).bind fun _ => ?_
    exact Traced.quotesNothing_ofExcept (.ok _)
  rw [run]
  cases hrender : (f.render backend args).result with
  | error e =>
      rw [Traced.bind_of_error hrender]
      rfl
  | ok sql =>
      rw [Traced.quotedValues_bind_of_ok hrender, (hlater sql).quotedValues_eq_nil,
        List.append_nil]

/-- What a run gives once its statement is rendered and reported. -/
theorem run_of_render (settings : Settings) (label : String) {sql : String}
    (hrender : (f.render backend args).result = .ok sql) :
    (f.run (.ok settings) label backend args).result =
      (backend.run sql).result.map f.shape := by
  rw [run, Traced.bind_of_ok hrender]
  dsimp only
  rw [Traced.bind_of_ok (by rw [Traced.announce_ok])]
  cases hrows : (backend.run sql).result with
  | error e =>
      dsimp only
      rw [Traced.bind_of_error hrows]
      rfl
  | ok rows =>
      dsimp only
      rw [Traced.bind_of_ok hrows]
      rfl

/-- A run that cannot report its statement does not run it. -/
theorem run_of_settings_error (e : Error) (label : String) {sql : String}
    (hrender : (f.render backend args).result = .ok sql) :
    (f.run (.error e) label backend args).result = .error e ∧
      (f.run (.error e) label backend args).statements = [] := by
  have hannounced : (Traced.announce (.error e) label sql).result = .error e := rfl
  rw [run, Traced.statements_bind_of_ok hrender, Traced.bind_of_ok hrender,
    Traced.bind_of_error hannounced]
  exact ⟨rfl, congrArg (· ++ []) (f.statements_render backend args)⟩

/-- A run that cannot render its statement fails like that and does nothing else. -/
theorem run_of_render_error (settings : Except Error Settings) (label : String) {e : Error}
    (hrender : (f.render backend args).result = .error e) :
    (f.run settings label backend args).result = .error e ∧
      (f.run settings label backend args).statements = [] := by
  have hstatements := f.statements_render backend args
  rw [run, Traced.bind_of_error hrender]
  exact ⟨rfl, hstatements⟩

/-- A run runs the statement that it renders if the settings can be read, and otherwise nothing. -/
theorem statements_run_eq (settings : Except Error Settings) (label : String)
    (hrun : ∀ sql, (backend.run sql).statements = [sql]) :
    (f.run settings label backend args).statements =
      (settings.toOption.bind fun _ => (f.render backend args).result.toOption).toList := by
  cases hrender : (f.render backend args).result with
  | error e =>
      rw [(run_of_render_error settings label hrender).2]
      cases settings <;> rfl
  | ok sql =>
      cases settings with
      | error e => exact (run_of_settings_error e label hrender).2
      | ok settings => exact statements_run settings hrender (hrun sql)

end Finder

namespace Models

variable {ms : Models} {dialect : Dialect} {here : Surroundings} {stored : List StoredRow}
  {m : Model} {f : Finder} {args : Arguments} {backend : Backend}

theorem mappedBackend_eq_error {e : Error} (he : ms.mappedBackend dialect stored m = .error e)
    (stored' : List StoredRow) : ms.mappedBackend dialect stored' m = .error e := by
  unfold mappedBackend at he ⊢
  cases hclass : ms.mappedClass? m with
  | none => simpa [hclass] using he
  | some c => simp [hclass] at he

theorem backendOf_eq_error {e : Error} (he : ms.backendOf dialect stored m = .error e)
    (stored' : List StoredRow) : ms.backendOf dialect stored' m = .error e := by
  unfold backendOf at he ⊢
  cases hfixed : ms.fixedBackend? m with
  | some fixed => simp [hfixed] at he
  | none =>
      simp only [hfixed] at he ⊢
      split at he
      · next hoffers =>
        rw [if_pos hoffers]
        split at he
        · exact he
        · exact he
        · exact mappedBackend_eq_error he stored'
      · next hoffers =>
        rw [if_neg hoffers]
        exact mappedBackend_eq_error he stored'

/-- Running a statement quotes no value any more. -/
theorem quotesNothing_run (hbackend : ms.backendOf dialect stored m = .ok backend)
    (sql : String) : (backend.run sql).QuotesNothing := by
  cases hfixed : ms.fixedBackend? m with
  | some fixed =>
      rw [backendOf_of_fixed hfixed] at hbackend
      obtain rfl := Except.ok.inj hbackend
      exact (Traced.quotesNothing_executed sql).bind fun _ => Traced.quotesNothing_ofExcept (.ok _)
  | none =>
      obtain ⟨c, -, hmapped⟩ := backendOf_of_not_fixed hfixed hbackend
      rw [hmapped] at hbackend
      obtain rfl := Except.ok.inj hbackend
      refine (Traced.quotesNothing_executed _).bind fun _ => ?_
      refine (Traced.quotesNothing_ofExcept _).bind fun read => ?_
      refine (Traced.quotesNothing_ofExcept _).bind fun rows => ?_
      exact (Traced.quotesNothing_log _).bind fun _ => Traced.quotesNothing_ofExcept (.ok _)

/-- Both ways of using a finder go through its rendering, on backends that differ in nothing but
their rows. -/
theorem preview_and_call_of_backendOf (hself : ∀ e ∈ args.keywords, e.1 ≠ "self")
    (hbackend : ms.backendOf here.dialect stored m = .ok backend) :
    ms.preview here.dialect m f args = f.render backend args ∧
      ms.call here stored m f args = f.run here.settings (label m f) backend args := by
  have hfree : ∀ e ∈ args.keywords, e.1 ∉ ["self"] := by simpa using hself
  obtain ⟨run, hquiet⟩ := exists_backendOf hbackend []
  constructor
  · rw [preview, Entrance.checkKeywords_eq_ok hfree, hquiet]
    rfl
  · rw [call, Entrance.checkKeywords_eq_ok hfree, hbackend]
    rfl

theorem preview_and_call_of_backendOf_error (hself : ∀ e ∈ args.keywords, e.1 ≠ "self")
    {e : Error} (hbackend : ms.backendOf here.dialect stored m = .error e) :
    ms.preview here.dialect m f args = Traced.fail e ∧
      ms.call here stored m f args = Traced.fail e := by
  have hfree : ∀ e ∈ args.keywords, e.1 ∉ ["self"] := by simpa using hself
  constructor
  · rw [preview, Entrance.checkKeywords_eq_ok hfree, backendOf_eq_error hbackend []]
    rfl
  · rw [call, Entrance.checkKeywords_eq_ok hfree, hbackend]
    rfl

/-- A preview runs nothing, and it fails only as the call fails, which then has run nothing either.
Both have the same values quoted in the same order.  Where the settings can be read, a preview shows
a statement exactly if the call runs this one statement and no other; the call then gives the first
row, or all rows in their order, of those that running it gives, and fails only if that fails.  It
fails exactly if the call fails in the same way without having run anything.  Where the settings
cannot be read, every call runs nothing, and one whose preview shows a statement fails for just that
reason. -/
theorem preview_agrees_call (ms : Models) (here : Surroundings) (stored : List StoredRow)
    (m : Model) (f : Finder) {args : Arguments} (hself : ∀ e ∈ args.keywords, e.1 ≠ "self") :
    let preview := ms.preview here.dialect m f args
    let call := ms.call here stored m f args
    preview.statements = [] ∧
      call.quotedValues = preview.quotedValues ∧
      (∀ e, preview.result = .error e → call.result = .error e ∧ call.statements = []) ∧
      (∀ settings, here.settings = .ok settings →
        (∀ sql, preview.result = .ok sql ↔ call.statements = [sql]) ∧
        (∀ sql, preview.result = .ok sql →
          ∃ backend, ms.backendOf here.dialect stored m = .ok backend ∧
            call.result = (backend.run sql).result.map fun rows =>
              match f.arity with
              | .single => .first rows.head?
              | .many => .all rows) ∧
        ∀ e, preview.result = .error e ↔ call.result = .error e ∧ call.statements = []) ∧
      ∀ e, here.settings = .error e →
        call.statements = [] ∧ ∀ sql, preview.result = .ok sql → call.result = .error e := by
  intro preview call
  cases hbackend : ms.backendOf here.dialect stored m with
  | error e =>
      obtain ⟨hpreview, hcall⟩ : preview = Traced.fail e ∧ call = Traced.fail e :=
        preview_and_call_of_backendOf_error hself hbackend
      simp [hpreview, hcall, Traced.fail, Traced.statements, Traced.quotedValues]
  | ok backend =>
      obtain ⟨hpreview, hcall⟩ : preview = f.render backend args ∧
          call = f.run here.settings (label m f) backend args :=
        preview_and_call_of_backendOf hself hbackend
      rw [hpreview, hcall]
      refine ⟨f.statements_render backend args,
        Finder.quotedValues_run _ _ (quotesNothing_run hbackend), ?_⟩
      cases hrender : (f.render backend args).result with
      | error e =>
          obtain ⟨hresult, hstatements⟩ :=
            Finder.run_of_render_error here.settings (label m f) hrender
          simp [hresult, hstatements]
      | ok sql =>
          refine ⟨by simp, fun settings hsettings => ?_, fun e hsettings => ?_⟩
          · have hstatements : (f.run (.ok settings) (label m f) backend args).statements = [sql] :=
              Finder.statements_run settings hrender (statements_run hbackend sql)
            rw [hsettings]
            refine ⟨by simp [hstatements], ?_, by simp [hstatements]⟩
            intro shown hshown
            obtain rfl := Except.ok.inj hshown
            exact ⟨backend, rfl, Finder.run_of_render settings (label m f) hrender⟩
          · obtain ⟨hresult, hstatements⟩ := Finder.run_of_settings_error e (label m f) hrender
            rw [hsettings]
            exact ⟨hstatements, fun _ _ => hresult⟩

/-- A finder for one row, with a parameter. -/
def cheapest : Finder :=
  { name := "cheapest", arity := .single, order := ["most"], positional := true
    template := Template.literal "SELECT * FROM recipes WHERE cost < " ++
      Template.ofSlot ⟨"most", 0⟩ ++ Template.literal " LIMIT 1" }

theorem preview_cheapest :
    (recipes.preview .sqlite recipe cheapest ⟨[.int 3], []⟩).result =
      .ok "SELECT * FROM recipes WHERE cost < 3 LIMIT 1" :=
  toOption_eq_some.mp (by decide +kernel)

theorem call_cheapest :
    let args : Arguments := ⟨[.int 3], []⟩
    let sql := "SELECT * FROM recipes WHERE cost < 3 LIMIT 1"
    (∀ e ∈ args.keywords, e.1 ≠ "self") ∧
      (recipes.preview .sqlite recipe cheapest args).result = .ok sql ∧
      (recipes.call .usual [] recipe cheapest args).statements = [sql] ∧
      (recipes.call .usual [] recipe cheapest args).result = .ok (.first none) := by
  intro args sql
  have hself : ∀ e ∈ args.keywords, e.1 ≠ "self" := nofun
  obtain ⟨-, -, -, hreadable, -⟩ := preview_agrees_call recipes .usual [] recipe cheapest hself
  obtain ⟨hstatements, hanswer, -⟩ := hreadable .standard rfl
  obtain ⟨backend, hbackend, hresult⟩ := hanswer sql preview_cheapest
  obtain rfl := Except.ok.inj hbackend
  exact ⟨hself, preview_cheapest, (hstatements sql).mp preview_cheapest, hresult⟩

/-- A word for a flag that means neither of both. -/
def undecided : List (String × String) := [("SQLFINDER_ECHO_SQL", "maybe")]

/-- Once the settings are dropped and cannot be read again, a preview still shows the statement, and
the call fails at its report without having run it. -/
theorem call_undecided :
    let m := recipe.attach cheapest
    let ms : Models := ⟨[m], .empty⟩
    let here : Surroundings := ⟨.sqlite, Settings.read undecided none⟩
    let args : Arguments := ⟨[.int 3], []⟩
    ms.attribute? m "cheapest" = some (.finder cheapest) ∧
      (ms.preview here.dialect m cheapest args).result =
        .ok "SELECT * FROM recipes WHERE cost < 3 LIMIT 1" ∧
      ∃ e, here.settings = .error e ∧ (ms.call here [] m cheapest args).result = .error e ∧
        (ms.call here [] m cheapest args).statements = [] := by
  intro m ms here args
  have hbackend : ms.backendOf here.dialect [] m = .ok FixedBackend.standard.toBackend := rfl
  have hrender : (cheapest.render FixedBackend.standard.toBackend args).result =
      .ok "SELECT * FROM recipes WHERE cost < 3 LIMIT 1" := toOption_eq_some.mp (by decide +kernel)
  have hrefused : here.settings.toBool = false := by decide +kernel
  obtain ⟨hpreview, hcall⟩ :
      ms.preview here.dialect m cheapest args = _ ∧ ms.call here [] m cheapest args = _ :=
    preview_and_call_of_backendOf nofun hbackend
  refine ⟨rfl, by rw [hpreview, hrender], ?_⟩
  cases hread : here.settings with
  | ok settings => simp [hread, Except.toBool] at hrefused
  | error e =>
      rw [hcall, hread]
      exact ⟨e, rfl, Finder.run_of_settings_error e (label m cheapest) hrender⟩

end Models

end NamedQuery
