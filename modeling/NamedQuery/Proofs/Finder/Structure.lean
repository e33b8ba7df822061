import NamedQuery.Backend.Mapped
import NamedQuery.Proofs.Finder.Rendering
import NamedQuery.Proofs.Statement.Filling
import NamedQuery.Proofs.Text.Unquoted

/-!
# The structure of statements

Texts that are given as values cannot change a statement outside of its string literals.  If every
slot of a template stands behind an even number of quotes, each value is read as literals of its
own, and the rest of the statement is read as if the value were not there.
-/

namespace NamedQuery

namespace Template

/-- Every slot stands outside of the literals of the template: the text before it has an even number
of quotes. -/
def SlotsOutside (t : Template) : Prop :=
  ∀ place < t.symbols.length, (t.symbols[place]?.bind Symbol.slot?).isSome →
    Even ((t.symbols.take place).count (.glyph (.char '\'')))

instance (t : Template) : Decidable t.SlotsOutside :=
  inferInstanceAs (Decidable (∀ place < t.symbols.length, _ → _))

theorem SlotsOutside.even_count {t : Template} (houtside : t.SlotsOutside)
    {front : List Symbol} {s : Slot} {back : List Symbol}
    (hsymbols : t.symbols = front ++ .slot s :: back) :
    Even (front.count (.glyph (.char '\''))) := by
  have hplace := houtside front.length
  rw [hsymbols, List.take_left' rfl] at hplace
  exact hplace (by simp) (by simp [Symbol.slot?])

variable {literal literal' : String → String}

/-- The induction is on the symbols; `front` are the glyphs since the last slot, behind which the
text is read from the beginning again. -/
theorem unquoted_fill (hliteral : ∀ name, Text.IsLiteral (literal name))
    (hliteral' : ∀ name, Text.IsLiteral (literal' name)) (front : List Glyph)
    (symbols : List Symbol)
    (heven : ∀ before s after, symbols = before ++ .slot s :: after →
      Even (front.count (.char '\'') + before.count (.glyph (.char '\'')))) :
    Text.unquoted (Glyph.toText (front ++ symbols.flatMap (Symbol.filled literal))).toList =
      Text.unquoted (Glyph.toText (front ++ symbols.flatMap (Symbol.filled literal'))).toList := by
  induction symbols generalizing front with
  | nil => rfl
  | cons symbol rest ih =>
      cases symbol with
      | glyph g =>
          have hnext := ih (front ++ [g]) fun before s after hrest => by
            have heven' := heven (.glyph g :: before) s after (congrArg (.glyph g :: ·) hrest)
            rw [List.count_append, List.count_singleton, add_assoc]
            rw [List.count_cons] at heven'
            simpa [add_comm] using heven'
          simpa [Symbol.filled] using hnext
      | slot s =>
          have hfront : Even ((Glyph.toText front).toList.count '\'') := by
            rw [Glyph.count_toText]
            exact heven [] s rest rfl
          have hrest := ih [] fun before s' after hsplit => by
            have heven' := heven (.slot s :: before) s' after (congrArg (.slot s :: ·) hsplit)
            rw [Glyph.count_toText] at hfront
            rw [List.count_cons_of_ne Symbol.noConfusion] at heven'
            simpa using (Nat.even_add.mp heven').mp hfront
          have hslot (value : String → String) (hvalue : Text.IsLiteral (value s.name)) :
              Text.unquoted (Glyph.toText
                  (front ++ (Symbol.slot s :: rest).flatMap (Symbol.filled value))).toList =
                Text.unquoted (Glyph.toText front).toList ++
                  Text.unquoted (Glyph.toText (rest.flatMap (Symbol.filled value))).toList := by
            rw [List.flatMap_cons, Symbol.filled, Glyph.toText_append_literal front hvalue,
              Text.unquoted_append hfront, Text.unquoted_append (Text.even_count_literal hvalue),
              Text.unquoted_literal hvalue, List.nil_append]
          rw [hslot literal (hliteral s.name), hslot literal' (hliteral' s.name)]
          exact congrArg _ hrest

/-- Filled with any two rows of literals, a template with its slots outside reads the same outside
of literals. -/
theorem SlotsOutside.unquoted_filled {t : Template} (houtside : t.SlotsOutside)
    (hliteral : ∀ name, Text.IsLiteral (literal name))
    (hliteral' : ∀ name, Text.IsLiteral (literal' name)) :
    Text.unquoted (Glyph.toText (t.filled literal)).toList =
      Text.unquoted (Glyph.toText (t.filled literal')).toList := by
  refine unquoted_fill hliteral hliteral' [] t.symbols fun before s after hsymbols => ?_
  simpa using houtside.even_count hsymbols

end Template

namespace Finder

/-- A call gives the parameters of a finder these texts, by position, in a mapping or by keyword. -/
def Carries (f : Finder) (a : Arguments) (texts : String → String) : Prop :=
  Entrance.render.checkKeywords a.keywords = .ok () ∧
    ∃ bindings, f.bindArguments a = .ok bindings ∧
      ∀ s ∈ f.template.slots, f.valueAt s bindings = .ok (.str (texts s.name))

/-- One text for each parameter. -/
def textRow (f : Finder) (texts : String → String) : List Value :=
  f.order.map fun name => .str (texts name)

/-- The call that gives every parameter its text in the way that the finder asks for. -/
def callWith (f : Finder) (texts : String → String) : Arguments :=
  if f.positional then ⟨f.textRow texts, []⟩
  else ⟨[.dict (Arguments.named f.order (f.textRow texts))], []⟩

theorem Numbered.carries_callWith {f : Finder} (hnumbered : f.Numbered)
    (texts : String → String) : f.Carries (f.callWith texts) texts := by
  have hlength : (f.textRow texts).length = f.order.length := List.length_map _
  have hrow : ∀ s ∈ f.template.slots,
      f.valueAt s (.row (f.textRow texts)) = .ok (.str (texts s.name)) := by
    intro s hs
    obtain ⟨v, hzip, hvalue⟩ := hnumbered.valueAt_row hlength hs
    have hpair : v = .str (texts s.name) := by
      rw [textRow, ← List.map_prod_left_eq_zip, List.mem_map] at hzip
      obtain ⟨parameter, -, heq⟩ := hzip
      rw [← (Prod.mk.inj heq).1, ← (Prod.mk.inj heq).2]
    rw [hvalue, hpair]
  unfold callWith
  split
  · next hpositional =>
    refine ⟨rfl, .row (f.textRow texts), ?_, hrow⟩
    rw [bindArguments, if_pos hpositional, Arguments.fit_of_length hlength]
  · next hnamed =>
    refine ⟨rfl, .mapping (Arguments.named f.order (f.textRow texts)), ?_, fun s hs => ?_⟩
    · rw [bindArguments, if_neg hnamed]
      rfl
    · rw [hnumbered.valueAt_named hlength hs]
      exact hrow s hs

/-- A call that gives texts renders the template with their literals. -/
theorem Carries.result_render {f : Finder} {a : Arguments} {texts : String → String}
    (hcarries : f.Carries a texts) {backend : Backend} {literal : String → String}
    (hquote : ∀ name, backend.quote (.str (texts name)) = .ok (literal name)) :
    (f.render backend a).result = .ok (Glyph.toText (f.template.filled literal)) := by
  obtain ⟨hkeywords, bindings, hbind, hvalues⟩ := hcarries
  have hresolve : ∀ s ∈ f.template.slots,
      (f.resolve backend bindings s).result = .ok (literal s.name) := by
    intro s hs
    rw [resolve, hvalues s hs]
    exact hquote s.name
  rw [render, hkeywords, Traced.ofExcept_ok_bind, hbind, Traced.ofExcept_ok_bind, fill,
    Template.render, Traced.bind_of_ok (Template.result_renderSymbols hresolve)]
  rfl

end Finder

/-- A backend that writes every text as a literal. -/
def Backend.WritesLiterals (backend : Backend) : Prop :=
  ∀ text, ∃ s, Text.IsLiteral s ∧ backend.quote (.str text) = .ok s

theorem FixedBackend.writesLiterals (fixed : FixedBackend) :
    fixed.toBackend.WritesLiterals :=
  fun text => ⟨_, ⟨(· = '\''), text.toList, rfl, rfl⟩, rfl⟩

theorem Catalog.writesLiterals (catalog : Catalog) (stored : List StoredRow) (c : MappedClass) :
    (catalog.toBackend .sqlite stored c).WritesLiterals := by
  intro text
  refine ⟨_, ⟨Dialect.sqlite.doublesInText, text.toList, rfl, rfl⟩, ?_⟩
  have hliteral : Dialect.sqlite.textLiteral text =
      Text.enclosed (Text.doubled Dialect.sqlite.doublesInText text.toList) := by
    rw [Dialect.textLiteral]
    exact String.empty_append
  exact congrArg Except.ok hliteral

/-- No text can change the structure of a statement: if the slots of a finder stand outside of its
literals, any two calls that give its parameters texts render statements that are the same outside
of literals.  For a finder that a definition has made, any texts can be given. -/
theorem Finder.unquoted_render_eq {f : Finder} (houtside : f.template.SlotsOutside)
    {backend : Backend}
    (hbackend : (∃ fixed : FixedBackend, backend = fixed.toBackend) ∨
      ∃ (catalog : Catalog) (stored : List StoredRow) (c : MappedClass),
        backend = catalog.toBackend .sqlite stored c) :
    (f.Numbered → ∀ texts : String → String, f.Carries (f.callWith texts) texts) ∧
      ∀ (texts texts' : String → String) (a a' : Arguments),
        f.Carries a texts → f.Carries a' texts' →
          ∃ sql sql', (f.render backend a).result = .ok sql ∧
            (f.render backend a').result = .ok sql' ∧
              Text.unquoted sql.toList = Text.unquoted sql'.toList := by
  have hwrites : backend.WritesLiterals := by
    rcases hbackend with ⟨fixed, rfl⟩ | ⟨catalog, stored, c, rfl⟩
    · exact fixed.writesLiterals
    · exact catalog.writesLiterals stored c
  choose literal hliteral hquote using hwrites
  refine ⟨fun hnumbered texts => hnumbered.carries_callWith texts, ?_⟩
  intro texts texts' a a' hcarries hcarries'
  exact ⟨_, _, hcarries.result_render fun name => hquote (texts name),
    hcarries'.result_render fun name => hquote (texts' name),
    houtside.unquoted_filled (fun name => hliteral _) fun name => hliteral _⟩

/-- A marker between literals. -/
def Finder.remark : String := "SELECT * FROM recipes WHERE note = 'it''s '||:note||' :-'"

def Finder.remarked : Finder :=
  { name := "remarked", arity := .many, template := (Binder.empty.bind remark).1,
    order := (Binder.empty.bind remark).2.order, positional := true }

theorem Finder.unquoted_render_remarked :
    remarked.template.SlotsOutside ∧ ∃ sql sql',
      (remarked.render FixedBackend.standard.toBackend ⟨[.str "o'clock"], []⟩).result = .ok sql ∧
      (remarked.render FixedBackend.standard.toBackend ⟨[.str "' OR :note"], []⟩).result =
        .ok sql' ∧
      Text.unquoted sql.toList = Text.unquoted sql'.toList := by
  have houtside : remarked.template.SlotsOutside := by decide +kernel
  have hnumbered : remarked.Numbered := Binder.empty.numbers_bindGlyphs (Glyph.ofText remark)
  obtain ⟨hcalls, hrender⟩ := unquoted_render_eq houtside (.inl ⟨.standard, rfl⟩)
  exact ⟨houtside, hrender _ _ _ _ (hcalls hnumbered fun _ => "o'clock")
    (hcalls hnumbered fun _ => "' OR :note")⟩

end NamedQuery
