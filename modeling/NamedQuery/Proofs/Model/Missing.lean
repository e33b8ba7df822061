import NamedQuery.Proofs.Model.Calling

/-!
# Missing values

A finder by name looks for a value only when its slot is reached, so a value that is missing is
found out in the middle of a statement: everything before its slot has been quoted by then, nothing
behind it has, and nothing is run.
-/

namespace NamedQuery

/-- What a mapping has under the name of a slot. -/
def Slot.entry? (entries : List (Value × Value)) (s : Slot) : Option Value :=
  Value.lookup (.str s.name) entries

namespace Template

/-- Slots are filled from left to right up to the first one that cannot be, and each of them does
what it does alone. -/
theorem renderSymbols_cases (resolve : Slot → Traced String) (symbols : List Symbol) :
    let slots := symbols.filterMap Symbol.slot?
    let events (ss : List Slot) := ss.flatMap fun s => (resolve s).events
    ((∀ s ∈ slots, ∃ text, (resolve s).result = .ok text) ∧
      ∃ gs, renderSymbols resolve symbols = ⟨events slots, .ok gs⟩) ∨
    ∃ before s behind e, slots = before ++ s :: behind ∧
      (∀ b ∈ before, ∃ text, (resolve b).result = .ok text) ∧ (resolve s).result = .error e ∧
        renderSymbols resolve symbols = ⟨events before ++ (resolve s).events, .error e⟩ := by
  intro slots events
  -- a failure further behind passes through everything in front of it
  induction symbols with
  | nil => exact .inl ⟨List.forall_mem_nil _, [], rfl⟩
  | cons symbol rest ih =>
      cases symbol with
      | glyph g =>
          have hstep : renderSymbols resolve (.glyph g :: rest) =
              renderSymbols resolve rest >>= fun tail => pure (g :: tail) := rfl
          rcases ih with ⟨hall, gs, hrest⟩ | ⟨before, s, behind, e, hslots, hbefore, hs, hrest⟩
          · refine .inl ⟨hall, g :: gs, ?_⟩
            rw [hstep, hrest, Traced.bind_of_ok rfl]
            simp [slots, events, List.filterMap_cons, Symbol.slot?]
          · refine .inr ⟨before, s, behind, e, hslots, hbefore, hs, ?_⟩
            rw [hstep, hrest, Traced.bind_of_error rfl]
      | slot first =>
          have hstep : renderSymbols resolve (.slot first :: rest) =
              resolve first >>= fun text => renderSymbols resolve rest >>= fun tail =>
                pure (Glyph.ofText text ++ tail) := rfl
          have hfirst : slots = first :: rest.filterMap Symbol.slot? := rfl
          cases hresolve : (resolve first).result with
          | error e =>
              refine .inr ⟨[], first, _, e, hfirst, List.forall_mem_nil _, hresolve, ?_⟩
              rw [hstep, Traced.bind_of_error hresolve]
              rfl
          | ok text =>
              have hok : ∃ text, (resolve first).result = .ok text := ⟨text, hresolve⟩
              rcases ih with ⟨hall, gs, hrest⟩ | ⟨before, s, behind, e, hslots, hbefore, hs, hrest⟩
              · refine .inl ⟨List.forall_mem_cons.mpr ⟨hok, hall⟩, Glyph.ofText text ++ gs, ?_⟩
                rw [hstep, Traced.bind_of_ok hresolve, hrest, Traced.bind_of_ok rfl]
                simp [hfirst, events]
              · refine .inr ⟨first :: before, s, behind, e, by rw [hfirst, hslots]; rfl,
                  List.forall_mem_cons.mpr ⟨hok, hbefore⟩, hs, ?_⟩
                rw [hstep, Traced.bind_of_ok hresolve, hrest, Traced.bind_of_error rfl]
                simp [events]

theorem render_cases (resolve : Slot → Traced String) (t : Template) :
    let events (ss : List Slot) := ss.flatMap fun s => (resolve s).events
    ((∀ s ∈ t.slots, ∃ text, (resolve s).result = .ok text) ∧
      ∃ text, t.render resolve = ⟨events t.slots, .ok text⟩) ∨
    ∃ before s behind e, t.slots = before ++ s :: behind ∧
      (∀ b ∈ before, ∃ text, (resolve b).result = .ok text) ∧ (resolve s).result = .error e ∧
        t.render resolve = ⟨events before ++ (resolve s).events, .error e⟩ := by
  intro events
  rcases renderSymbols_cases resolve t.symbols with
    ⟨hall, gs, hrendered⟩ | ⟨before, s, behind, e, hslots, hbefore, hs, hrendered⟩
  · refine .inl ⟨hall, Glyph.toText gs, ?_⟩
    rw [render, hrendered, Traced.bind_of_ok rfl]
    exact congrArg (Traced.mk · _) (List.append_nil _)
  · refine .inr ⟨before, s, behind, e, hslots, hbefore, hs, ?_⟩
    rw [render, hrendered, Traced.bind_of_error rfl]

end Template

namespace Finder

variable {f : Finder} {backend : Backend} {entries : List (Value × Value)} {s : Slot}

/-- Every slot has had its value quoted, from left to right, and there is a statement. -/
structure Fills (f : Finder) (entries : List (Value × Value)) (rendered : Traced String) :
    Prop where
  quoted : rendered.quotedValues.map some = f.template.slots.map (Slot.entry? entries)
  result : ∃ sql, rendered.result = .ok sql

/-- The slot `s` has no value.  Those before it have had theirs quoted, from left to right, and
nothing else has been done. -/
structure StopsAt (f : Finder) (entries : List (Value × Value)) (rendered : Traced String)
    (before : List Slot) (s : Slot) (behind : List Slot) : Prop where
  slots : f.template.slots = before ++ s :: behind
  missing : s.entry? entries = none
  quoted : rendered.quotedValues.map some = before.map (Slot.entry? entries)
  result : rendered.result = .error (.missingValue f.name s.name)

/-- Every value that a slot has can be quoted. -/
def Quotable (f : Finder) (backend : Backend) (entries : List (Value × Value)) : Prop :=
  ∀ s ∈ f.template.slots, ∀ v, s.entry? entries = some v →
    ∃ literal, backend.quote v = .ok literal

theorem resolve_of_missing (hmissing : s.entry? entries = none) :
    f.resolve backend (.mapping entries) s = Traced.fail (.missingValue f.name s.name) := by
  have hvalue : f.valueAt s (.mapping entries) = .error (.missingValue f.name s.name) := by
    rw [Slot.entry?] at hmissing
    rw [valueAt, hmissing]
  rw [resolve, hvalue]
  rfl

theorem resolve_of_entry {v : Value} (hentry : s.entry? entries = some v) :
    f.resolve backend (.mapping entries) s = ⟨[.quoted v], backend.quote v⟩ := by
  have hvalue : f.valueAt s (.mapping entries) = .ok v := by
    rw [Slot.entry?] at hentry
    rw [valueAt, hentry]
  rw [resolve, hvalue, Traced.ofExcept_ok_bind]
  rfl

/-- A slot fails only if its value is missing. -/
theorem missing_of_resolve (hquotes : f.Quotable backend entries) (hs : s ∈ f.template.slots)
    {e : Error} (he : (f.resolve backend (.mapping entries) s).result = .error e) :
    s.entry? entries = none := by
  cases hentry : s.entry? entries with
  | none => rfl
  | some v =>
      obtain ⟨literal, hquote⟩ := hquotes s hs v hentry
      rw [resolve_of_entry hentry, hquote] at he
      cases he

/-- Slots that are filled have their values quoted one by one. -/
theorem quotedValues_resolved {α : Type} {ss : List Slot}
    (hfilled : ∀ s ∈ ss, ∃ text, (f.resolve backend (.mapping entries) s).result = .ok text)
    (result : Except Error α) :
    (Traced.quotedValues ⟨ss.flatMap fun s => (f.resolve backend (.mapping entries) s).events,
      result⟩).map some = ss.map (Slot.entry? entries) := by
  induction ss with
  | nil => rfl
  | cons s rest ih =>
      have hrest := ih fun s hs => hfilled s (List.mem_cons_of_mem _ hs)
      cases hentry : s.entry? entries with
      | none =>
          obtain ⟨text, htext⟩ := hfilled s List.mem_cons_self
          rw [resolve_of_missing hentry] at htext
          cases htext
      | some v =>
          rw [List.map_cons, hentry, ← hrest, List.flatMap_cons, resolve_of_entry hentry]
          rfl

/-- A finder fills all slots from a mapping, or stops at the first one that has no value. -/
theorem fill_cases (hquotes : f.Quotable backend entries) :
    ((∀ s ∈ f.template.slots, s.entry? entries ≠ none) ∧
      f.Fills entries (f.fill backend (.mapping entries))) ∨
    ∃ before s behind, (∀ b ∈ before, b.entry? entries ≠ none) ∧
      f.StopsAt entries (f.fill backend (.mapping entries)) before s behind := by
  have hpresent {ss : List Slot}
      (hfilled : ∀ s ∈ ss, ∃ text, (f.resolve backend (.mapping entries) s).result = .ok text) :
      ∀ s ∈ ss, s.entry? entries ≠ none := by
    intro s hs hmissing
    obtain ⟨text, htext⟩ := hfilled s hs
    rw [resolve_of_missing hmissing] at htext
    cases htext
  unfold fill
  rcases f.template.render_cases (f.resolve backend (.mapping entries)) with
    ⟨hall, sql, hrendered⟩ | ⟨before, s, behind, e, hslots, hbefore, hs, hrendered⟩
  · rw [hrendered]
    exact .inl ⟨hpresent hall, quotedValues_resolved hall (.ok sql), sql, rfl⟩
  · have hmissing : s.entry? entries = none := missing_of_resolve hquotes (by simp [hslots]) hs
    have hfails : f.resolve backend (.mapping entries) s =
        Traced.fail (.missingValue f.name s.name) := resolve_of_missing hmissing
    -- the value is missing, so the slot has quoted nothing of its own
    rw [hfails] at hs hrendered
    obtain rfl := Except.error.inj hs
    rw [hrendered]
    refine .inr ⟨before, s, behind, hpresent hbefore, hslots, hmissing, ?_, rfl⟩
    simpa [Traced.fail] using
      quotedValues_resolved hbefore (.error (.missingValue f.name s.name) : Except Error String)

/-- Where rendering stops, a call stops too, and has run nothing. -/
theorem StopsAt.call {args : Arguments} {before behind : List Slot}
    (hstops : f.StopsAt entries (f.render backend args) before s behind)
    (hallowed : Entrance.render.Allows args.keywords) {ms : Models} {here : Surroundings}
    {stored : List StoredRow} {m : Model}
    (hbackend : ms.backendOf here.dialect stored m = .ok backend) :
    (ms.call here stored m f args).result = .error (.missingValue f.name s.name) ∧
      (ms.call here stored m f args).statements = [] := by
  obtain ⟨-, hcall⟩ := Models.preview_and_call_of_backendOf hallowed.ne_self hbackend
  rw [hcall]
  exact run_of_render_error here.settings (Models.label m f) hstops.result

/-- The name of a slot at which a finder stops has not come before. -/
theorem StopsAt.not_mem_names {rendered : Traced String} {before behind : List Slot}
    (hstops : f.StopsAt entries rendered before s behind)
    (hbefore : ∀ b ∈ before, b.entry? entries ≠ none) : s.name ∉ before.map Slot.name := by
  intro hname
  obtain ⟨b, hb, hsame⟩ := List.mem_map.mp hname
  apply hbefore b hb
  rw [Slot.entry?, hsame]
  exact hstops.missing

/-- Among names that are listed where they first stand, that of the slot is the first one without a
value. -/
theorem StopsAt.find?_eraseDups {rendered : Traced String} {before behind : List Slot}
    (hstops : f.StopsAt entries rendered before s behind)
    (hbefore : ∀ b ∈ before, b.entry? entries ≠ none) :
    (f.template.slots.map Slot.name).eraseDups.find?
        (fun name => (Value.lookup (.str name) entries).isNone) = some s.name := by
  have hnew := hstops.not_mem_names hbefore
  rw [hstops.slots, List.map_append, List.map_cons, List.eraseDups_append,
    List.cons_removeAll, if_pos (by simpa using hnew), List.eraseDups_cons,
    List.find?_eq_some_iff_append]
  refine ⟨Option.isNone_iff_eq_none.mpr hstops.missing, _, _, rfl, fun name hname => ?_⟩
  obtain ⟨b, hb, rfl⟩ := List.mem_map.mp (List.mem_eraseDups.mp hname)
  simpa [Slot.entry?, Option.isSome_iff_ne_none] using hbefore b hb

theorem render_of_allows {args : Arguments} (hallowed : Entrance.render.Allows args.keywords)
    {bindings : Bindings} (hbind : f.bindArguments args = .ok bindings) (backend : Backend) :
    f.render backend args = f.fill backend bindings := by
  rw [render, Entrance.checkKeywords_eq_ok hallowed, hbind]
  rfl

end Finder

namespace Models

variable {ms : Models} {hook : Option Hook} {dialect : Dialect} {m : Model} {name arity : Value}
  {given : GivenOptions} {f : Finder}

/-- The parameters are the names of the slots, each one where it first stands unless bounds are
written the other way round. -/
theorem names_of_compileWith
    (hcompile : (ms.compileWith hook dialect m name arity given).result = .ok f) :
    (∀ parameter, parameter ∈ f.order ↔ parameter ∈ f.template.slots.map Slot.name) ∧
      ((ms.paging dialect m).keepsOrder = true →
        f.order = (f.template.slots.map Slot.name).eraseDups) := by
  obtain ⟨l, backend, hpaging, htemplate, horder⟩ := exists_layout_of_compileWith hcompile
  obtain ⟨t, hbinds, hperm, hkept⟩ := l.binds_statement hpaging .empty
  have hnames : f.order = (t.slots.map Slot.name).eraseDups := by
    rw [horder, hbinds.order [] rfl, hbinds.slots, List.nil_append]
  rw [← htemplate] at hperm hkept
  refine ⟨fun parameter => ?_, fun hkeeps => by rw [hnames, hkept hkeeps]⟩
  rw [hnames, List.mem_eraseDups]
  exact (hperm.map Slot.name).mem_iff.symm

/-- Rendering from a mapping quotes the values of the slots one by one, in the order in which they
stand in the text.  It gives a statement exactly if no parameter is missing.  Otherwise it stops at
the first slot without a value, which it names, with the values of the slots before it quoted; a
call runs nothing then.  This is the first parameter that is missing unless the bounds of the
statement are written the other way round. -/
theorem render_of_mapping
    (hdefine : (ms.defineWith hook dialect m name arity given).1.result = .ok f)
    {args : Arguments} (hallowed : Entrance.render.Allows args.keywords)
    {entries : List (Value × Value)} (hbind : f.bindArguments args = .ok (.mapping entries))
    {backend : Backend} (hquotes : f.Quotable backend entries) :
    let rendered := f.render backend args
    let isMissing (name : String) := (Value.lookup (.str name) entries).isNone
    ((∃ sql, rendered.result = .ok sql) ↔ ∀ name ∈ f.order, ¬isMissing name = true) ∧
      (∀ sql, rendered.result = .ok sql → f.Fills entries rendered) ∧
      ∀ e, rendered.result = .error e → ∃ before s behind,
        f.StopsAt entries rendered before s behind ∧ s.name ∉ before.map Slot.name ∧
        e = .missingValue f.name s.name ∧ e.kind = .argument ∧
        ((ms.paging dialect m).keepsOrder = true → f.order.find? isMissing = some s.name) ∧
        ∀ (ms' : Models) (here : Surroundings) (stored : List StoredRow) (m' : Model),
          ms'.backendOf here.dialect stored m' = .ok backend →
            (ms'.call here stored m' f args).result = .error e ∧
              (ms'.call here stored m' f args).statements = [] := by
  intro rendered isMissing
  rw [result_defineWith] at hdefine
  obtain ⟨hmem, horder⟩ := names_of_compileWith hdefine
  have hrendered : rendered = f.fill backend (.mapping entries) :=
    Finder.render_of_allows hallowed hbind backend
  have hmissing (s : Slot) : isMissing s.name = true ↔ s.entry? entries = none :=
    Option.isNone_iff_eq_none
  rcases Finder.fill_cases hquotes with ⟨hpresent, hfills⟩ | ⟨before, s, behind, hbefore, hstops⟩
  · rw [← hrendered] at hfills
    obtain ⟨sql, hsql⟩ := hfills.result
    refine ⟨⟨fun _ parameter hparameter => ?_, fun _ => hfills.result⟩, fun _ _ => hfills, ?_⟩
    · obtain ⟨s, hs, rfl⟩ := List.mem_map.mp ((hmem parameter).mp hparameter)
      rw [hmissing]
      exact hpresent s hs
    · intro e he
      rw [hsql] at he
      cases he
  · rw [← hrendered] at hstops
    have hs : s ∈ f.template.slots := by simp [hstops.slots]
    refine ⟨⟨?_, ?_⟩, ?_, ?_⟩
    · rintro ⟨sql, hsql⟩
      rw [hstops.result] at hsql
      cases hsql
    · intro hall
      exact absurd ((hmissing s).mpr hstops.missing)
        (hall s.name ((hmem s.name).mpr (List.mem_map_of_mem hs)))
    · intro sql hsql
      rw [hstops.result] at hsql
      cases hsql
    · intro e he
      obtain rfl : .missingValue f.name s.name = e :=
        Except.error.inj (hstops.result.symm.trans he)
      refine ⟨before, s, behind, hstops, hstops.not_mem_names hbefore, rfl, rfl, ?_, ?_⟩
      · intro hkeeps
        rw [horder hkeeps]
        exact hstops.find?_eraseDups hbefore
      · intro ms' here stored m' hbackend
        exact hstops.call hallowed hbackend

/-- A diet without a price. -/
def diet : List (Value × Value) := [(.str "diet", .str "any")]

theorem lookup_diet : Value.lookup (.str "diet") diet = some (.str "any") ∧
    Value.lookup (.str "most") diet = none := by
  simp [diet, Value.lookup, Value.same_str]

/-- Without a price the statement is rendered up to the first slot for it. -/
theorem stopsAt_of_diet :
    ∃ f before s behind, (recipes.defineWith none .sqlite recipe (.str "cheap") (.str "all")
        (.checked cheap)).1.result = .ok f ∧
      f.StopsAt diet (f.render FixedBackend.standard.toBackend ⟨[.dict diet], []⟩)
        before s behind ∧ s.name = "most" := by
  obtain ⟨f, hdefine, hbind, horder⟩ :
      ∃ f, (recipes.defineWith none .sqlite recipe (.str "cheap") (.str "all")
          (.checked cheap)).1.result = .ok f ∧
        f.bindArguments ⟨[.dict diet], []⟩ = .ok (.mapping diet) ∧ f.order = ["diet", "most"] :=
    ⟨_, rfl, rfl, rfl⟩
  have hquotes : f.Quotable FixedBackend.standard.toBackend diet := by
    intro s hs v hv
    rw [Slot.entry?, diet, Value.lookup_cons] at hv
    split at hv
    · cases hv
      exact ⟨_, rfl⟩
    · cases hv
  have hallowed : Entrance.render.Allows [] := nofun
  obtain ⟨hdone, -, hstops⟩ := render_of_mapping hdefine hallowed hbind hquotes
  obtain ⟨hgiven, hmissing⟩ := lookup_diet
  cases hrendered : (f.render FixedBackend.standard.toBackend ⟨[.dict diet], []⟩).result with
  | ok sql =>
      have hall := hdone.mp ⟨sql, hrendered⟩ "most" (by rw [horder]; decide)
      exact absurd (Option.isNone_iff_eq_none.mpr hmissing) hall
  | error e =>
      obtain ⟨before, s, behind, hstop, -, -, -, hfirst, -⟩ := hstops e hrendered
      have hname := hfirst (by rfl)
      rw [horder, List.find?_cons, hgiven, Option.isNone_some, List.find?_cons, hmissing,
        Option.isNone_none] at hname
      exact ⟨f, before, s, behind, hdefine, hstop, (Option.some.inj hname).symm⟩

/-- The class with a backend that writes the offset before the limit. -/
def swapping : Model :=
  { recipe with backend := some { FixedBackend.standard with pagination := .comma } }

def page : Options :=
  { Options.empty with
    limit := some (.text (.text ":most"))
    offset := some (.text (.text ":skipped")) }

theorem first_missing_of_page :
    ∃ f backend, (Models.define ⟨[swapping], .empty⟩ .usual swapping (.str "page") (.str "all")
        (.checked page)).1.result = .ok f ∧
      Models.backendOf ⟨[swapping], .empty⟩ .sqlite [] swapping = .ok backend ∧
      f.positional = false ∧ f.order = ["most", "skipped"] ∧
      (f.render backend ⟨[.dict []], []⟩).result = .error (.missingValue "page" "skipped") :=
  ⟨_, _, rfl, rfl, rfl, rfl, rfl⟩

end Models

end NamedQuery
