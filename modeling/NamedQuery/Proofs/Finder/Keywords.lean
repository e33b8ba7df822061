import NamedQuery.Proofs.Finder.Rendering

/-!
# Keywords

Keywords are further entries of the mapping that a named finder takes, and they come before the
entries with the same names.  For a positional finder they are the values of the parameters that
the positional arguments have left.
-/

namespace NamedQuery

/-! ## Merged mappings -/

namespace Value

/-- The key that is a text is the same as the values with this text. -/
theorem same_text (key : Value) (s : String) : same key (.str s) = (key.text? == some s) := by
  cases key <;> simp [same, sameLeaf, text?, quantity?]

/-- An entry that is given another value is found as before. -/
theorem lookup_replaced (entries : List (Value × Value)) (s t : String) (v : Value) :
    lookup (.str t) (entries.map fun e => if same e.1 (.str s) then (e.1, v) else e) =
      if s = t then (lookup (.str t) entries).map fun _ => v else lookup (.str t) entries := by
  induction entries with
  | nil => simp [lookup]
  | cons e rest ih =>
      rw [List.map_cons, lookup_cons, lookup_cons, ih]
      by_cases hst : s = t
      · subst hst
        cases hsame : same e.1 (.str s) with
        | true => simp [hsame]
        | false => simp [hsame]
      · cases hsame : same e.1 (.str s) with
        | true =>
            have hother : same e.1 (.str t) = false := by
              rw [same_text, beq_iff_eq] at hsame
              simpa [same_text, hsame] using hst
            simp [hother, hst]
        | false => simp [hst]

theorem lookup_append_singleton (entries : List (Value × Value)) (key k v : Value) :
    lookup key (entries ++ [(k, v)]) =
      (lookup key entries).orElse fun _ => if same k key then some v else none := by
  induction entries with
  | nil => rw [List.nil_append, lookup_cons]; rfl
  | cons e rest ih =>
      rw [List.cons_append, lookup_cons, lookup_cons, ih]
      cases same e.1 key with
      | true => rfl
      | false => rfl

theorem isSome_lookup (entries : List (Value × Value)) (key : Value) :
    (lookup key entries).isSome = entries.any fun e => same e.1 key := by
  rw [lookup, Option.isSome_map, List.isSome_find?]

theorem lookup_insertEntry (entries : List (Value × Value)) (s t : String) (v : Value) :
    lookup (.str t) (insertEntry entries (.str s) v) =
      if s = t then some v else lookup (.str t) entries := by
  have hfound := isSome_lookup entries (.str s)
  unfold insertEntry
  split
  · next hany =>
    rw [hany, Option.isSome_iff_exists] at hfound
    obtain ⟨old, hold⟩ := hfound
    rw [lookup_replaced]
    by_cases hst : s = t
    · subst hst
      simp [hold]
    · simp [hst]
  · next hany =>
    rw [Bool.eq_false_iff.mpr hany, Option.isSome_eq_false_iff, Option.isNone_iff_eq_none] at hfound
    rw [lookup_append_singleton, same_str]
    by_cases hst : s = t
    · subst hst
      simp [hfound]
    · simp [hst]

end Value

namespace Arguments

variable {keywords : List (String × Value)}

theorem merge_cons (entries : List (Value × Value)) (e : String × Value)
    (rest : List (String × Value)) :
    merge entries (e :: rest) = merge (Value.insertEntry entries (.str e.1) e.2) rest := rfl

/-- A merged mapping has the values of the keywords, and of its own entries those under other
names. -/
theorem lookup_merge (hnodup : (keywords.map Prod.fst).Nodup) (entries : List (Value × Value))
    (name : String) :
    Value.lookup (.str name) (merge entries keywords) =
      (keyword? keywords name).orElse fun _ => Value.lookup (.str name) entries := by
  induction keywords generalizing entries with
  | nil => rfl
  | cons e rest ih =>
      rw [List.map_cons, List.nodup_cons] at hnodup
      have hrest := ih hnodup.2 (Value.insertEntry entries (.str e.1) e.2)
      rw [Value.lookup_insertEntry] at hrest
      rw [merge_cons, keyword?_cons]
      by_cases hname : e.1 = name
      · subst hname
        rw [keyword?_eq_none.mpr hnodup.1] at hrest
        simpa using hrest
      · simpa [hname] using hrest

/-! ## Keywords for parameters -/

theorem names_zip (names : List String) (values : List Value) :
    (names.zip values).map Prod.fst = names.take values.length := by
  induction names generalizing values with
  | nil => simp
  | cons name rest ih =>
      cases values with
      | nil => rfl
      | cons v values => simp [ih]

/-- Values by keyword for the first of the parameters leave the same of them without a value as
values by position. -/
theorem byKeyword_eq_map {values : List Value} {names : List String}
    (hlength : values.length ≤ names.length)
    (hgiven : ∀ e ∈ names.zip values, keyword? keywords e.1 = some e.2)
    (hrest : ∀ name ∈ names.drop values.length, keyword? keywords name = none) :
    byKeyword keywords names =
      (byKeyword [] (names.drop values.length)).map (values ++ ·) := by
  induction names generalizing values with
  | nil =>
      obtain rfl := List.length_eq_zero_iff.mp (Nat.le_zero.mp hlength)
      rfl
  | cons name names ih =>
      cases values with
      | nil =>
          have hnone : keyword? keywords name = none := hrest name List.mem_cons_self
          simp only [byKeyword, hnone]
          rfl
      | cons v values =>
          rw [List.zip_cons_cons, List.forall_mem_cons] at hgiven
          have hlater := ih (Nat.le_of_succ_le_succ hlength) hgiven.2 hrest
          rw [byKeyword, hgiven.1, List.length_cons, List.drop_succ_cons]
          dsimp only
          rw [hlater]
          cases byKeyword [] (names.drop values.length) with
          | error misfit => simp [Except.map]
          | ok later => simp [Except.map]

/-- Any of the last values may be given by keyword, in any order, under the names of the parameters
that they would have been for. -/
theorem fit_of_keywords {order : List String} (hnodup : order.Nodup) {front back : List Value}
    (hlength : front.length + back.length ≤ order.length)
    (hkeywords : keywords.Perm ((order.drop front.length).zip back)) :
    fit ⟨front, keywords⟩ order = fit ⟨front ++ back, []⟩ order := by
  have hnames : (keywords.map Prod.fst).Perm ((order.drop front.length).take back.length) := by
    rw [← names_zip]
    exact hkeywords.map Prod.fst
  have hleft : (order.drop front.length).Nodup := hnodup.sublist (List.drop_sublist _ _)
  have hdistinct : (keywords.map Prod.fst).Nodup :=
    hnames.nodup_iff.mpr (hleft.sublist (List.take_sublist _ _))
  have hfree : ∀ name ∈ order.take front.length, keyword? keywords name = none := by
    intro name hname
    rw [keyword?_eq_none, hnames.mem_iff]
    intro hlater
    exact List.disjoint_take_drop hnodup (Nat.le_refl _) hname (List.mem_of_mem_take hlater)
  have hgiven : ∀ e ∈ (order.drop front.length).zip back, keyword? keywords e.1 = some e.2 := by
    intro e he
    exact keyword?_of_mem hdistinct (hkeywords.mem_iff.mpr he)
  have hrest : ∀ name ∈ (order.drop front.length).drop back.length,
      keyword? keywords name = none := by
    intro name hname
    rw [keyword?_eq_none, hnames.mem_iff]
    exact fun hgone => List.disjoint_take_drop hleft (Nat.le_refl _) hgone hname
  have hnone : noOther keywords (order.drop front.length) = .ok () := by
    refine noOther_of_subset fun e he => ?_
    exact List.mem_of_mem_take (hnames.mem_iff.mp (List.mem_map_of_mem he))
  have hfront : byPosition keywords front order = .ok (order.drop front.length) :=
    byPosition_eq_drop (Nat.le_of_add_right_le hlength) hfree
  have hall : byPosition [] (front ++ back) order =
      .ok ((order.drop front.length).drop back.length) := by
    rw [byPosition_eq_drop (by simpa using hlength) fun _ _ => rfl, List.length_append,
      List.drop_drop]
  have hby := byKeyword_eq_map (by simp; omega) hgiven hrest
  simp only [fit, hfront, hall, hby, hnone, bind, Except.bind]
  cases byKeyword [] ((order.drop front.length).drop back.length) with
  | error misfit => rfl
  | ok later => simp [noOther, Except.map]

end Arguments

end NamedQuery
