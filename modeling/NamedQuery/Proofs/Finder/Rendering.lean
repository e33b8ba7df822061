import NamedQuery.Finder.Call
import NamedQuery.Proofs.Finder.Binding
import NamedQuery.Proofs.Template.Binding

/-!
# Rendering by position and by name

A finder resolves a slot either by its position in a row of values or by its name in a mapping.  If
every slot holds the place of its own name, the row and the mapping of the names to the same values
cannot be told apart.
-/

namespace NamedQuery

theorem Template.renderSymbols_congr {M : Type → Type} [Monad M]
    {resolve resolve' : Slot → M String} {symbols : List Symbol}
    (hsame : ∀ s ∈ symbols.filterMap Symbol.slot?, resolve s = resolve' s) :
    renderSymbols resolve symbols = renderSymbols resolve' symbols := by
  induction symbols with
  | nil => rfl
  | cons symbol rest ih =>
      cases symbol with
      | glyph g =>
          have hrest := ih fun s hs => hsame s (by simpa [Symbol.slot?] using hs)
          simp only [renderSymbols, hrest]
      | slot s =>
          have hfirst : resolve s = resolve' s := hsame s (by simp [Symbol.slot?])
          have hrest := ih fun s hs => hsame s (by simp [Symbol.slot?, hs])
          simp only [renderSymbols, hfirst, hrest]

namespace Arguments

/-- The mapping of the names to the values. -/
def named (order : List String) (values : List Value) : List (Value × Value) :=
  (order.zip values).map fun e => (.str e.1, e.2)

theorem lookup_named (name : String) {order : List String} {values : List Value}
    (hlength : values.length = order.length) :
    Value.lookup (.str name) (named order values) = values[order.idxOf name]? := by
  induction order generalizing values with
  | nil =>
      obtain rfl := List.length_eq_zero_iff.mp hlength
      rfl
  | cons first rest ih =>
      cases values with
      | nil => cases hlength
      | cons v values =>
          have hrest := ih (Nat.succ.inj hlength)
          rw [named, List.zip_cons_cons, List.map_cons, Value.lookup_cons, Value.same_str]
          by_cases hfirst : first = name
          · simp [hfirst]
          · rw [List.idxOf_cons_ne rest hfirst, if_neg (by simpa using hfirst)]
            exact hrest

/-- Values by position that are as many as the parameters are handed out in order. -/
theorem fit_of_length {values : List Value} {order : List String}
    (hlength : values.length = order.length) :
    fit ⟨values, []⟩ order = .ok values := by
  have hleft : byPosition [] values order = .ok [] := by
    rw [byPosition_eq_drop (Nat.le_of_eq hlength) fun _ _ => rfl, hlength, List.drop_length]
  rw [fit, hleft]
  exact congrArg Except.ok (List.append_nil values)

end Arguments

namespace Finder

/-- Every slot of the template stands for the parameter of its name. -/
def Numbered (f : Finder) : Prop := Binder.Numbers ⟨f.order⟩ f.template

/-- A row with one value for each parameter gives every slot the value of the parameter that the
slot is named after. -/
theorem Numbered.valueAt_row {f : Finder} (hnumbered : f.Numbered) {values : List Value}
    (hlength : values.length = f.order.length) {s : Slot} (hs : s ∈ f.template.slots) :
    ∃ v, (s.name, v) ∈ f.order.zip values ∧ f.valueAt s (.row values) = .ok v := by
  obtain ⟨-, -, hname⟩ := Binder.Numbers.getElem?_position hnumbered hs
  have hlt : s.position.toNat < values.length :=
    hlength ▸ (List.getElem?_eq_some_iff.mp hname).1
  have hvalue : values[s.position.toNat]? = some values[s.position.toNat] :=
    List.getElem?_eq_getElem hlt
  refine ⟨values[s.position.toNat], ?_, by simp only [valueAt, hvalue]⟩
  have hzip : (f.order.zip values)[s.position.toNat]? =
      some (s.name, values[s.position.toNat]) :=
    List.getElem?_zip_eq_some.mpr ⟨hname, hvalue⟩
  exact List.mem_of_getElem? hzip

/-- The mapping of the names to the values gives every slot what the row gives it. -/
theorem Numbered.valueAt_named {f : Finder} (hnumbered : f.Numbered) {values : List Value}
    (hlength : values.length = f.order.length) {s : Slot} (hs : s ∈ f.template.slots) :
    f.valueAt s (.mapping (Arguments.named f.order values)) = f.valueAt s (.row values) := by
  obtain ⟨-, hslot⟩ := hnumbered s hs
  have hposition : s.position.toNat = f.order.idxOf s.name := by
    rw [congrArg Slot.position hslot]
    exact Int.toNat_natCast _
  simp only [valueAt, Arguments.lookup_named s.name hlength, hposition]

/-- Bindings that give every slot the same value fill the statement alike. -/
theorem fill_congr {f : Finder} {bindings bindings' : Bindings}
    (hvalues : ∀ s ∈ f.template.slots, f.valueAt s bindings = f.valueAt s bindings')
    (backend : Backend) : f.fill backend bindings = f.fill backend bindings' := by
  have hresolve : ∀ s ∈ f.template.slots,
      f.resolve backend bindings s = f.resolve backend bindings' s := by
    intro s hs
    rw [resolve, resolve, hvalues s hs]
  rw [fill, fill, Template.render, Template.render, Template.renderSymbols_congr hresolve]

theorem Numbered.fill_named {f : Finder} (hnumbered : f.Numbered) (backend : Backend)
    {values : List Value} (hlength : values.length = f.order.length) :
    f.fill backend (.mapping (Arguments.named f.order values)) =
      f.fill backend (.row values) :=
  fill_congr (fun _ hs => hnumbered.valueAt_named hlength hs) backend

theorem render_of_bindArguments {f : Finder} {given : List Value} {bindings : Bindings}
    (hbind : f.bindArguments ⟨given, []⟩ = .ok bindings) (backend : Backend) :
    f.render backend ⟨given, []⟩ = f.fill backend bindings := by
  rw [render, hbind]
  rfl

/-- Rendering quotes values and runs nothing. -/
theorem statements_render (f : Finder) (backend : Backend) (a : Arguments) :
    (f.render backend a).statements = [] := by
  have hsymbols (bindings : Bindings) (symbols : List Symbol) :
      (Template.renderSymbols (f.resolve backend bindings) symbols).statements = [] := by
    induction symbols with
    | nil => rfl
    | cons symbol rest ih =>
        cases symbol with
        | glyph g => exact Traced.statements_bind_eq_nil ih fun _ => rfl
        | slot s =>
            have hresolve : (f.resolve backend bindings s).statements = [] :=
              Traced.statements_bind_eq_nil rfl fun _ =>
                Traced.statements_bind_eq_nil rfl fun _ => rfl
            exact Traced.statements_bind_eq_nil hresolve fun _ =>
              Traced.statements_bind_eq_nil ih fun _ => rfl
  refine Traced.statements_bind_eq_nil rfl fun _ => Traced.statements_bind_eq_nil rfl ?_
  intro bindings
  exact Traced.statements_bind_eq_nil (hsymbols bindings f.template.symbols) fun _ => rfl

/-- A positional finder and the named one with the same template render alike. -/
theorem Numbered.render_named {f : Finder} (hnumbered : f.Numbered)
    (hpositional : f.positional = true) (backend : Backend) {values : List Value}
    (hlength : values.length = f.order.length) :
    { f with positional := false }.render backend
        ⟨[.dict (Arguments.named f.order values)], []⟩ =
      f.render backend ⟨values, []⟩ := by
  have hrow : f.bindArguments ⟨values, []⟩ = .ok (.row values) := by
    rw [bindArguments, if_pos hpositional, Arguments.fit_of_length hlength]
  have hmapping : { f with positional := false }.bindArguments
      ⟨[.dict (Arguments.named f.order values)], []⟩ =
        .ok (.mapping (Arguments.named f.order values)) := rfl
  rw [render_of_bindArguments hmapping backend, render_of_bindArguments hrow backend]
  exact hnumbered.fill_named backend hlength

end Finder

end NamedQuery
