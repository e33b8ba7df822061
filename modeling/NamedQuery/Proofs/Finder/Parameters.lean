import NamedQuery.Finder

/-!
# Usable parameters

Parameters have no fault exactly if every name can be that of a parameter and no two are the same.
The order of a finder names each parameter once, so nothing can be wrong with the parameters of a
positional finder but a name, and all such names are looked for before.
-/

namespace NamedQuery

namespace Parameters

theorem repeatedBehind_eq_none {seen names : List String} :
    repeatedBehind seen names = none ↔ names.Nodup ∧ ∀ name ∈ names, name ∉ seen := by
  induction names generalizing seen with
  | nil => simp [repeatedBehind]
  | cons name rest ih =>
      rw [repeatedBehind, List.contains_eq_mem]
      by_cases hseen : name ∈ seen
      · simp [hseen]
      · -- what is not repeated behind the name and those in front of it differs from both
        have hbehind : (∀ other ∈ rest, other ∉ name :: seen) ↔
            name ∉ rest ∧ ∀ other ∈ rest, other ∉ seen := by
          constructor
          · intro hnew
            refine ⟨fun hname => hnew name hname List.mem_cons_self, fun other hother => ?_⟩
            exact fun hold => hnew other hother (List.mem_cons_of_mem name hold)
          · rintro ⟨hname, hnew⟩ other hother hold
            rcases List.mem_cons.mp hold with rfl | hold
            · exact hname hother
            · exact hnew other hother hold
        rw [decide_eq_false hseen, if_neg Bool.false_ne_true, ih, hbehind, List.nodup_cons,
          List.forall_mem_cons]
        exact ⟨fun h => ⟨⟨h.2.1, h.1⟩, hseen, h.2.2⟩, fun h => ⟨h.1.2, h.1.1, h.2.2⟩⟩

theorem unusable?_eq_none {p : Parameters} :
    p.unusable? = none ↔ (∀ name ∈ p.leading, Text.isIdentifier name = true) ∧
      ∀ name ∈ p.placed ++ p.others.toList, Text.isParameterName name = true := by
  rw [unusable?, Option.or_eq_none_iff, List.find?_eq_none, List.find?_eq_none]
  simp only [Bool.not_eq_true', Bool.not_eq_false]

/-- Parameters without a fault: each has the name of one, and no two have the same. -/
theorem fault?_eq_none {p : Parameters} :
    p.fault? = none ↔ (∀ name ∈ p.leading, Text.isIdentifier name = true) ∧
      (∀ name ∈ p.placed ++ p.others.toList, Text.isParameterName name = true) ∧
        p.names.Nodup := by
  rw [fault?, Option.or_eq_none_iff, Option.map_eq_none_iff, Option.map_eq_none_iff,
    unusable?_eq_none, repeatedBehind_eq_none, and_assoc]
  simp

end Parameters

namespace Finder

variable {name : String} {arity : Arity} {t : Template} {order : List String}
  {positional : Bool} {f : Finder}

theorem unusable_eq_nil : unusable order = [] ↔
    ∀ name ∈ order, Text.isParameterName name = true := by
  simp [unusable, List.filter_eq_nil_iff]

/-- The parameters of a finder have no fault, unless it takes its arguments by position. -/
theorem fault?_parameters : f.parameters.fault? = none ↔ (f.positional = true →
    (∀ name ∈ f.order, Text.isParameterName name = true) ∧ f.order.Nodup) := by
  rw [parameters]
  cases f.positional with
  | true => simp [Parameters.fault?_eq_none, Parameters.names]
  | false =>
      have hmapping : Parameters.fault? ⟨["params"], [], some "values"⟩ = none := by decide
      simpa using hmapping

/-- Which finders are made: all named ones, and the positional ones whose names are those of
different parameters. -/
theorem make_eq_ok : make name arity t order positional = .ok f ↔
    f = { name, arity, template := t, order, positional } ∧ (positional = true →
      (∀ name ∈ order, Text.isParameterName name = true) ∧ order.Nodup) := by
  have hfault : Parameters.fault? (parameters ⟨name, arity, t, order, positional⟩) = none ↔
      (positional = true → (∀ name ∈ order, Text.isParameterName name = true) ∧ order.Nodup) :=
    fault?_parameters
  rw [make, ← hfault]
  split
  · next hunusable =>
    rw [Bool.and_eq_true, Bool.not_eq_true', List.isEmpty_eq_false_iff] at hunusable
    refine ⟨nofun, fun h => absurd ?_ hunusable.2⟩
    exact unusable_eq_nil.mpr (hfault.mp h.2 hunusable.1).1
  · cases hfound : Parameters.fault? (parameters ⟨name, arity, t, order, positional⟩) with
    | none => simp [hfound, eq_comm]
    | some fault => simp [hfound]

/-- If the names are different, a finder is refused for names that no parameter can have and for
nothing else. -/
theorem make_eq_error {e : Error} (hnodup : order.Nodup)
    (he : make name arity t order positional = .error e) :
    unusable order ≠ [] ∧ e = .unusableParameters name (unusable order) := by
  by_cases hrefused : positional = true ∧ unusable order ≠ []
  · have hfails : (positional && !(unusable order).isEmpty) = true := by simpa using hrefused
    rw [make, if_pos hfails] at he
    exact ⟨hrefused.2, (Except.error.inj he).symm⟩
  · have hok : make name arity t order positional = .ok ⟨name, arity, t, order, positional⟩ := by
      refine make_eq_ok.mpr ⟨rfl, fun hpositional => ⟨unusable_eq_nil.mp ?_, hnodup⟩⟩
      exact Decidable.byContradiction fun hunusable => hrefused ⟨hpositional, hunusable⟩
    rw [hok] at he
    cases he

end Finder

end NamedQuery
