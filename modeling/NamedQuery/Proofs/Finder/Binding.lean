import Mathlib.Data.List.Basic
import NamedQuery.Finder.Arguments

/-!
# Arguments for parameters

The arguments of a positional finder are bound in one walk over its parameters, which stops at the
first thing that does not fit.  What the walk accepts can be said without it: there are no more
positional arguments than parameters, and the keywords are the names of the parameters that are
left, all of them and no others.  What it says of arguments that it refuses is so.
-/

namespace NamedQuery

namespace Arguments

/-- The names that have a value by keyword. -/
def keys (a : Arguments) : List String := a.keywords.map Prod.fst

/-- There is one value for each of the parameters. -/
structure Fits (a : Arguments) (order : List String) : Prop where
  length_le : a.positional.length ≤ order.length
  keys_iff : ∀ name, name ∈ a.keys ↔ name ∈ order.drop a.positional.length

end Arguments

/-- What a misfit says of arguments and the names of the parameters. -/
def Misfit.Describes (a : Arguments) (order : List String) : Misfit → Prop
  | missing name => name ∈ order.drop a.positional.length ∧ name ∉ a.keys
  | tooMany => order.length < a.positional.length
  | repeated name => name ∈ order.take a.positional.length ∧ name ∈ a.keys
  | unexpected name => name ∉ order ∧ name ∈ a.keys

/-- A misfit is never told of arguments that fit. -/
theorem Misfit.Describes.not_fits {a : Arguments} {order : List String} {misfit : Misfit}
    (hdescribes : misfit.Describes a order) (hnodup : order.Nodup) : ¬ a.Fits order := by
  intro hfits
  cases misfit with
  | missing name => exact hdescribes.2 ((hfits.keys_iff name).mpr hdescribes.1)
  | tooMany => exact Nat.not_le_of_lt hdescribes hfits.length_le
  | repeated name =>
      have hleft := (hfits.keys_iff name).mp hdescribes.2
      exact List.disjoint_take_drop hnodup (Nat.le_refl _) hdescribes.1 hleft
  | unexpected name =>
      have hleft := (hfits.keys_iff name).mp hdescribes.2
      exact hdescribes.1 (List.mem_of_mem_drop hleft)

namespace Arguments

variable {keywords : List (String × Value)} {name : String} {order : List String}

/-! ## Keywords and their values -/

theorem keyword?_cons (e : String × Value) (rest : List (String × Value)) (name : String) :
    keyword? (e :: rest) name = if e.1 = name then some e.2 else keyword? rest name := by
  unfold keyword?
  rw [List.find?_cons]
  by_cases hname : e.1 = name
  · simp [hname]
  · simp [hname]

theorem keyword?_eq_none : keyword? keywords name = none ↔ name ∉ keywords.map Prod.fst := by
  induction keywords with
  | nil => simp [keyword?]
  | cons e rest ih =>
      rw [keyword?_cons, List.map_cons, List.mem_cons, not_or]
      by_cases hname : e.1 = name
      · simp [hname]
      · simp [hname, ih, Ne.symm hname]

/-- Among keywords with different names, each one is found with its own value. -/
theorem keyword?_of_mem (hnodup : (keywords.map Prod.fst).Nodup) {v : Value}
    (hmem : (name, v) ∈ keywords) : keyword? keywords name = some v := by
  induction keywords with
  | nil => cases hmem
  | cons e rest ih =>
      rw [List.map_cons, List.nodup_cons] at hnodup
      rw [keyword?_cons]
      cases List.mem_cons.mp hmem with
      | inl heq => simp [← heq]
      | inr hrest =>
          have hother : e.1 ≠ name := by
            rintro rfl
            exact hnodup.1 (List.mem_map.mpr ⟨_, hrest, rfl⟩)
          rw [if_neg hother]
          exact ih hnodup.2 hrest

/-! ## The three parts of the walk -/

/-- Positional arguments leave the parameters behind them, unless there are too many or one of their
own parameters has a keyword. -/
theorem byPosition_cases (keywords : List (String × Value)) (values : List Value)
    (order : List String) :
    (byPosition keywords values order = .ok (order.drop values.length) ∧
      values.length ≤ order.length ∧
        ∀ name ∈ order.take values.length, name ∉ keywords.map Prod.fst) ∨
    ∃ misfit, byPosition keywords values order = .error misfit ∧
      (misfit = .tooMany ∧ order.length < values.length ∨
        ∃ name ∈ order.take values.length, name ∈ keywords.map Prod.fst ∧
          misfit = .repeated name) := by
  induction values generalizing order with
  | nil => exact .inl ⟨rfl, Nat.zero_le _, nofun⟩
  | cons v values ih =>
      cases order with
      | nil => exact .inr ⟨.tooMany, rfl, .inl ⟨rfl, Nat.succ_pos _⟩⟩
      | cons name rest =>
          rw [byPosition]
          cases hkeyword : keyword? keywords name with
          | some given =>
              have hname : name ∈ keywords.map Prod.fst := by
                by_contra hnone
                rw [keyword?_eq_none.mpr hnone] at hkeyword
                cases hkeyword
              exact .inr ⟨.repeated name, rfl, .inr ⟨name, by simp, hname, rfl⟩⟩
          | none =>
              rcases ih rest with ⟨hok, hlength, hfree⟩ | ⟨misfit, herror, hmisfit⟩
              · refine .inl ⟨hok, Nat.succ_le_succ hlength, ?_⟩
                rw [List.length_cons, List.take_succ_cons, List.forall_mem_cons]
                exact ⟨keyword?_eq_none.mp hkeyword, hfree⟩
              · refine .inr ⟨misfit, herror, ?_⟩
                rcases hmisfit with ⟨hmany, hlength⟩ | ⟨other, hother, hgiven, hrepeated⟩
                · exact .inl ⟨hmany, Nat.succ_lt_succ hlength⟩
                · exact .inr ⟨other, List.mem_cons_of_mem name hother, hgiven, hrepeated⟩

/-- The parameters that have no value by position are left if none of the others is a keyword. -/
theorem byPosition_eq_drop {values : List Value} (hlength : values.length ≤ order.length)
    (hfree : ∀ name ∈ order.take values.length, keyword? keywords name = none) :
    byPosition keywords values order = .ok (order.drop values.length) := by
  rcases byPosition_cases keywords values order with ⟨hok, -⟩ | ⟨misfit, -, hmisfit⟩
  · exact hok
  · rcases hmisfit with ⟨-, hmany⟩ | ⟨name, hname, hgiven, -⟩
    · exact absurd hlength (Nat.not_le_of_lt hmany)
    · exact absurd hgiven (keyword?_eq_none.mp (hfree name hname))

/-- The parameters that are left get the values of their keywords, unless one has none. -/
theorem byKeyword_cases (keywords : List (String × Value)) (names : List String) :
    (∃ values, byKeyword keywords names = .ok values ∧
      values.map some = names.map (keyword? keywords)) ∨
    ∃ name ∈ names, name ∉ keywords.map Prod.fst ∧
      byKeyword keywords names = .error (.missing name) := by
  induction names with
  | nil => exact .inl ⟨[], rfl, rfl⟩
  | cons name rest ih =>
      rw [byKeyword]
      cases hkeyword : keyword? keywords name with
      | none => exact .inr ⟨name, List.mem_cons_self, keyword?_eq_none.mp hkeyword, rfl⟩
      | some v =>
          rcases ih with ⟨values, hok, hvalues⟩ | ⟨other, hother, hnone, herror⟩
          · refine .inl ⟨v :: values, ?_, ?_⟩
            · dsimp only
              rw [hok]
              rfl
            · rw [List.map_cons, List.map_cons, hkeyword, hvalues]
          · refine .inr ⟨other, List.mem_cons_of_mem name hother, hnone, ?_⟩
            dsimp only
            rw [herror]
            rfl

theorem noOther_cases (keywords : List (String × Value)) (names : List String) :
    (noOther keywords names = .ok () ∧ ∀ name ∈ keywords.map Prod.fst, name ∈ names) ∨
    ∃ name ∈ keywords.map Prod.fst, name ∉ names ∧
      noOther keywords names = .error (.unexpected name) := by
  unfold noOther
  cases hfound : keywords.find? fun e => !names.contains e.1 with
  | none =>
      refine .inl ⟨rfl, fun name hname => ?_⟩
      obtain ⟨e, he, rfl⟩ := List.mem_map.mp hname
      simpa using List.find?_eq_none.mp hfound e he
  | some e =>
      have hother : e.1 ∉ names := by simpa using List.find?_some hfound
      exact .inr ⟨e.1, List.mem_map_of_mem (List.mem_of_find?_eq_some hfound), hother, rfl⟩

theorem noOther_of_subset {names : List String} (hnames : ∀ e ∈ keywords, e.1 ∈ names) :
    noOther keywords names = .ok () := by
  rcases noOther_cases keywords names with ⟨hok, -⟩ | ⟨name, hname, hother, -⟩
  · exact hok
  · obtain ⟨e, he, rfl⟩ := List.mem_map.mp hname
    exact absurd (hnames e he) hother

/-! ## The walk -/

/-- Arguments that fit are bound, the positional ones first and then those that the keywords of the
other parameters have; others are refused with what is so of them. -/
theorem fit_cases (a : Arguments) (order : List String) :
    (a.Fits order ∧ ∃ later, a.fit order = .ok (a.positional ++ later) ∧
      later.map some = (order.drop a.positional.length).map (keyword? a.keywords)) ∨
    ∃ misfit, a.fit order = .error misfit ∧ misfit.Describes a order := by
  rcases byPosition_cases a.keywords a.positional order with
    ⟨hleft, hlength, hfree⟩ | ⟨misfit, herror, hmisfit⟩
  · rcases byKeyword_cases a.keywords (order.drop a.positional.length) with
      ⟨later, hlater, hvalues⟩ | ⟨name, hname, hnone, herror⟩
    · have hgiven : ∀ name ∈ order.drop a.positional.length, name ∈ a.keys := by
        intro name hname
        by_contra hnone
        have hmem : keyword? a.keywords name ∈ later.map some := by
          rw [hvalues]
          exact List.mem_map_of_mem hname
        rw [keyword?_eq_none.mpr hnone] at hmem
        simp at hmem
      rcases noOther_cases a.keywords (order.drop a.positional.length) with
        ⟨hnone, hknown⟩ | ⟨name, hname, hother, herror⟩
      · refine .inl ⟨⟨hlength, fun name => ⟨hknown name, hgiven name⟩⟩, later, ?_, hvalues⟩
        simp only [fit, hleft, hlater, hnone, bind, Except.bind]
      · refine .inr ⟨.unexpected name, ?_, fun hmem => ?_, hname⟩
        · simp only [fit, hleft, hlater, herror, bind, Except.bind]
        · rw [← List.take_append_drop a.positional.length order, List.mem_append] at hmem
          exact hmem.elim (fun htaken => hfree name htaken hname) hother
    · refine .inr ⟨.missing name, ?_, hname, hnone⟩
      simp only [fit, hleft, herror, bind, Except.bind]
  · refine .inr ⟨misfit, ?_, ?_⟩
    · simp only [fit, herror, bind, Except.bind]
    · rcases hmisfit with ⟨rfl, hlength⟩ | ⟨name, hname, hgiven, rfl⟩
      · exact hlength
      · exact ⟨hname, hgiven⟩

/-- Each parameter has the positional argument at its place, or else the value of its keyword. -/
theorem getElem?_append_later {a : Arguments} {later : List Value}
    (hlater : later.map some = (order.drop a.positional.length).map (keyword? a.keywords))
    {i : Nat} {name : String} (hname : order[i]? = some name) :
    (a.positional ++ later)[i]? =
      if i < a.positional.length then a.positional[i]? else keyword? a.keywords name := by
  by_cases hi : i < a.positional.length
  · rw [if_pos hi, List.getElem?_append_left hi]
  · have hle : a.positional.length ≤ i := Nat.le_of_not_lt hi
    have hplace := congrArg (·[i - a.positional.length]?) hlater
    simp only [List.getElem?_map, List.getElem?_drop, Nat.add_sub_cancel' hle, hname,
      Option.map_some] at hplace
    rw [if_neg hi, List.getElem?_append_right hle]
    obtain ⟨v, hv, hkeyword⟩ := Option.map_eq_some_iff.mp hplace
    rw [hv, hkeyword]

end Arguments

namespace Finder

/-- A positional finder takes arguments exactly if there are no more positional ones than parameters
and the keywords are the names of the parameters that these leave.  It then has one value for each
parameter: the positional argument at its place, or the value of its keyword.  All other arguments
are refused as such, with a misfit that is so. -/
theorem bindArguments_of_positional {f : Finder} (hpositional : f.positional = true)
    (hnodup : f.order.Nodup) (a : Arguments) :
    ((∃ bindings, f.bindArguments a = .ok bindings) ↔
      a.positional.length ≤ f.order.length ∧
        ∀ name, name ∈ a.keywords.map Prod.fst ↔ name ∈ f.order.drop a.positional.length) ∧
    (∀ bindings, f.bindArguments a = .ok bindings →
      ∃ values, bindings = .row values ∧ values.length = f.order.length ∧
        ∀ i name, f.order[i]? = some name →
          values[i]? = if i < a.positional.length then a.positional[i]?
            else Arguments.keyword? a.keywords name) ∧
    ∀ e, f.bindArguments a = .error e →
      e.kind = .argument ∧ ∃ misfit, e = .misfit f.name misfit ∧ misfit.Describes a f.order := by
  rw [bindArguments, if_pos hpositional]
  rcases a.fit_cases f.order with ⟨hfits, later, hok, hlater⟩ | ⟨misfit, herror, hdescribes⟩
  · rw [hok]
    refine ⟨⟨fun _ => ⟨hfits.length_le, hfits.keys_iff⟩, fun _ => ⟨_, rfl⟩⟩, ?_, ?_⟩
    · intro bindings hbindings
      obtain rfl := Except.ok.inj hbindings
      refine ⟨_, rfl, ?_, fun i name hname => Arguments.getElem?_append_later hlater hname⟩
      have hlength := congrArg List.length hlater
      rw [List.length_map, List.length_map, List.length_drop] at hlength
      rw [List.length_append, hlength]
      exact Nat.add_sub_of_le hfits.length_le
    · intro e he
      cases he
  · rw [herror]
    refine ⟨⟨?_, fun h => ?_⟩, ?_, ?_⟩
    · rintro ⟨bindings, hbindings⟩
      cases hbindings
    · exact absurd ⟨h.1, h.2⟩ (hdescribes.not_fits hnodup)
    · intro bindings hbindings
      cases hbindings
    · intro e he
      obtain rfl := Except.error.inj he
      exact ⟨rfl, misfit, rfl, hdescribes⟩

/-- A finder with two parameters. -/
def affordable : Finder :=
  { name := "affordable", arity := .many, order := ["diet", "most"], positional := true
    template := Template.literal "SELECT * FROM recipes WHERE diet = " ++
      Template.ofSlot ⟨"diet", 0⟩ ++ Template.literal " AND cost < " ++
      Template.ofSlot ⟨"most", 1⟩ }

theorem bindArguments_of_affordable :
    affordable.positional = true ∧ affordable.order.Nodup ∧
      (∃ values, affordable.bindArguments ⟨[.str "any"], [("most", .int 3)]⟩ = .ok (.row values) ∧
        values.length = 2 ∧ values[0]? = some (.str "any") ∧ values[1]? = some (.int 3)) ∧
      ∃ misfit, affordable.bindArguments ⟨[.str "any"], [("diet", .str "any")]⟩ =
        .error (.misfit "affordable" misfit) := by
  have hpositional : affordable.positional = true := rfl
  have hnodup : affordable.order.Nodup := by decide
  obtain ⟨htaken, hvalues, -⟩ :=
    bindArguments_of_positional hpositional hnodup ⟨[.str "any"], [("most", .int 3)]⟩
  obtain ⟨bindings, hok⟩ := htaken.mpr ⟨by decide, fun _ => Iff.rfl⟩
  obtain ⟨values, rfl, hlength, hplace⟩ := hvalues bindings hok
  obtain ⟨hrefused, -, hmisfit⟩ :=
    bindArguments_of_positional hpositional hnodup ⟨[.str "any"], [("diet", .str "any")]⟩
  refine ⟨hpositional, hnodup, ⟨values, hok, hlength, hplace 0 "diet" rfl,
    hplace 1 "most" rfl⟩, ?_⟩
  cases hbound : affordable.bindArguments ⟨[.str "any"], [("diet", .str "any")]⟩ with
  | ok bindings =>
      have hkeys := (hrefused.mp ⟨bindings, hbound⟩).2 "diet"
      exact absurd (hkeys.mp (by simp)) (by decide)
  | error e =>
      obtain ⟨-, misfit, rfl, -⟩ := hmisfit e hbound
      exact ⟨misfit, rfl⟩

end Finder

end NamedQuery
