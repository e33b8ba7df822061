import Mathlib.Data.List.Nodup
import NamedQuery.Proofs.Mapping.Descendants
import NamedQuery.Proofs.Mapping.Order

/-!
# What a restriction lists

The restriction of a class lists the identities of the classes in its subtree.  The search that
finds these goes down level by level.  It finds all of them, each one once, and since a class stands
behind its parent no hierarchy is too deep for it.
-/

namespace NamedQuery

theorem Dialect.quoteItems_eq_mapM (d : Dialect) (items : List Value) :
    d.quoteItems items = items.mapM d.quote := by
  induction items with
  | nil => rfl
  | cons item rest ih => rw [quoteItems, List.mapM_cons, ih]; rfl

theorem Dialect.quote_list (d : Dialect) {items : List Value} (hsome : items ≠ []) :
    d.quote (.list items) = String.intercalate ", " <$> items.mapM d.quote := by
  cases items with
  | nil => exact absurd rfl hsome
  | cons item rest =>
      rw [quote, quoteItems_eq_mapM]
      · cases (item :: rest).mapM d.quote <;> rfl
      · exact nofun

namespace Catalog

variable {catalog : Catalog} {m x : MappedClass} {named : List MappedClass}

theorem mem_levels_iff {depth : Nat} {classes : List MappedClass} :
    x ∈ catalog.levels depth classes ↔ ∃ y ∈ classes, ∃ level ≤ depth, catalog.Below y level x := by
  induction depth generalizing classes with
  | zero =>
      rw [levels]
      constructor
      · exact fun hx => ⟨x, hx, 0, Nat.le_refl _, .self⟩
      · rintro ⟨y, hy, level, hlevel, hbelow⟩
        obtain rfl := Nat.le_zero.mp hlevel
        cases hbelow with
        | self => exact hy
  | succ depth ih =>
      rw [levels_succ, List.mem_append, ih]
      constructor
      · rintro (hx | ⟨y, hy, level, hlevel, hbelow⟩)
        · exact ⟨x, hx, 0, Nat.zero_le _, .self⟩
        · obtain ⟨p, hp, hchild⟩ := List.mem_flatMap.mp hy
          exact ⟨p, hp, level + 1, Nat.succ_le_succ hlevel, hbelow.of_child hchild⟩
      · rintro ⟨p, hp, level, hlevel, hbelow⟩
        cases level with
        | zero =>
            cases hbelow with
            | self => exact .inl hp
        | succ level =>
            obtain ⟨y, hy, hbelow⟩ := hbelow.exists_child
            exact .inr ⟨y, List.mem_flatMap.mpr ⟨p, hp, hy⟩, level, Nat.le_of_succ_le_succ hlevel,
              hbelow⟩

/-- The search goes deep enough. -/
theorem Ordered.mem_selfAndDescendants (h : Ordered catalog) (hm : m ∈ catalog.classes) :
    x ∈ catalog.selfAndDescendants m ↔ ∃ level, catalog.Below m level x := by
  rw [selfAndDescendants, mem_levels_iff]
  constructor
  · rintro ⟨y, hy, level, -, hbelow⟩
    obtain rfl := List.mem_singleton.mp hy
    exact ⟨level, hbelow⟩
  · rintro ⟨level, hbelow⟩
    have hdeep := hbelow.id_le h
    have hid := h.id_lt (hbelow.mem hm)
    exact ⟨m, List.mem_singleton_self m, level, by omega, hbelow⟩

theorem Ordered.nodup_children (h : Ordered catalog) {classes : List MappedClass}
    (hids : (classes.map MappedClass.id).Nodup) :
    ((classes.flatMap fun p => catalog.children p.id).map MappedClass.id).Nodup := by
  rw [List.map_flatMap, List.nodup_flatMap]
  constructor
  · intro p _
    exact (List.filter_sublist.map MappedClass.id).nodup h.nodup_ids
  · refine (List.pairwise_map.mp hids).imp ?_
    intro p q hne id hp hq
    obtain ⟨x, hx, rfl⟩ := List.mem_map.mp hp
    obtain ⟨y, hy, hid⟩ := List.mem_map.mp hq
    obtain ⟨hmem, hparent⟩ := mem_children.mp hx
    obtain ⟨hmem', hparent'⟩ := mem_children.mp hy
    obtain rfl := h.eq_of_id hmem' hmem hid
    exact hne (Option.some.inj (hparent.symm.trans hparent'))

/-- Classes below a class that come one behind the other: they are different, and the second one is
on no higher level. -/
def Follows (catalog : Catalog) (m x y : MappedClass) : Prop :=
  x.id ≠ y.id ∧ ∀ j k, catalog.Below m j x → catalog.Below m k y → j ≤ k

theorem Ordered.pairwise_level (h : Ordered catalog) (hm : m ∈ catalog.classes) {level : Nat}
    {classes : List MappedClass} (hclasses : ∀ y ∈ classes, catalog.Below m level y)
    (hids : (classes.map MappedClass.id).Nodup) : classes.Pairwise (catalog.Follows m) := by
  refine (List.pairwise_map.mp hids).imp_of_mem ?_
  intro x y hx hy hne
  refine ⟨hne, fun j k hj hk => ?_⟩
  have hfirst := hj.level_eq h hm (hclasses x hx)
  have hsecond := hk.level_eq h hm (hclasses y hy)
  exact Nat.le_of_eq (hfirst.trans hsecond.symm)

/-- The search that begins with classes of one level goes down from them. -/
theorem Ordered.pairwise_levels (h : Ordered catalog) (hm : m ∈ catalog.classes) (depth : Nat)
    {level : Nat} {classes : List MappedClass}
    (hclasses : ∀ y ∈ classes, catalog.Below m level y)
    (hids : (classes.map MappedClass.id).Nodup) :
    (catalog.levels depth classes).Pairwise (catalog.Follows m) := by
  induction depth generalizing level classes with
  | zero => exact h.pairwise_level hm hclasses hids
  | succ depth ih =>
      have hchildren : ∀ y ∈ classes.flatMap fun p => catalog.children p.id,
          catalog.Below m (level + 1) y := by
        intro y hy
        obtain ⟨p, hp, hchild⟩ := List.mem_flatMap.mp hy
        exact .child (hclasses p hp) hchild
      -- what is here is on a higher level than whatever is found below it
      rw [levels_succ, List.pairwise_append]
      refine ⟨h.pairwise_level hm hclasses hids, ih hchildren (h.nodup_children hids), ?_⟩
      intro x hx y hy
      obtain ⟨z, hz, further, -, hbelow⟩ := mem_levels_iff.mp hy
      have hdeeper := (hchildren z hz).trans hbelow
      have hlevels {j k : Nat} (hj : catalog.Below m j x) (hk : catalog.Below m k y) : j < k := by
        rw [hj.level_eq h hm (hclasses x hx), hk.level_eq h hm hdeeper]
        omega
      refine ⟨?_, fun j k hj hk => Nat.le_of_lt (hlevels hj hk)⟩
      intro hid
      obtain rfl := h.eq_of_id ((hclasses x hx).mem hm) (hdeeper.mem hm) hid
      exact Nat.lt_irrefl _ (hlevels hdeeper hdeeper)

/-! ## Identities -/

/-- The classes of a subtree that have identities, in the order in which they are found. -/
def identified (catalog : Catalog) (m : MappedClass) : List MappedClass :=
  (catalog.selfAndDescendants m).filter fun c => !c.identity.isNull

theorem identities_eq (catalog : Catalog) (m : MappedClass) :
    catalog.identities m = (catalog.identified m).map MappedClass.identity :=
  List.filter_map

/-- These are precisely the classes of a subtree that have identities, one behind the other, and
the class itself comes first if it has one. -/
structure Lists (catalog : Catalog) (m : MappedClass) (named : List MappedClass) : Prop where
  mem_iff : ∀ x, x ∈ named ↔ (∃ level, catalog.Below m level x) ∧ x.identity.isNull = false
  follows : named.Pairwise (catalog.Follows m)
  first : m.identity.isNull = false → named.head? = some m

theorem Ordered.lists_identified (h : Ordered catalog) (hm : m ∈ catalog.classes) :
    catalog.Lists m (catalog.identified m) where
  mem_iff x := by
    rw [identified, List.mem_filter, h.mem_selfAndDescendants hm, Bool.not_eq_true']
  follows := by
    have hself : ∀ y ∈ [m], catalog.Below m 0 y := List.forall_mem_singleton.mpr .self
    have hsearch := h.pairwise_levels hm catalog.classes.length hself (List.nodup_singleton m.id)
    exact hsearch.sublist List.filter_sublist
  first hsome := by
    have hlevels : ∃ depth, catalog.classes.length = depth + 1 :=
      Nat.exists_eq_succ_of_ne_zero (Nat.ne_of_gt (List.length_pos_of_mem hm))
    obtain ⟨depth, hdepth⟩ := hlevels
    rw [identified, selfAndDescendants, hdepth, levels_succ, List.singleton_append,
      List.filter_cons_of_pos (by simp [hsome])]
    rfl

/-- A class above another one is not among those that are listed for it. -/
theorem Lists.not_above (hlists : catalog.Lists m named) (h : Ordered catalog) {x : MappedClass}
    (hx : x ∈ named) {level : Nat} (habove : catalog.Below x (level + 1) m) : False := by
  obtain ⟨⟨deep, hbelow⟩, -⟩ := (hlists.mem_iff x).mp hx
  have hdown := hbelow.id_le h
  have hup := habove.id_le h
  omega

/-- The condition names the table of the class and the type column, and lists one literal for each
class that is listed. -/
theorem typeRestriction_eq (dialect : Dialect) {t : TypeColumn}
    (hshares : m.lineage.isSharing = true) (htype : m.typeColumn = some t)
    (hsome : catalog.identified m ≠ []) :
    catalog.typeRestriction dialect m = (do
      let table ← catalog.tableName m
      let literals ← (catalog.identified m).mapM fun x => dialect.quote x.identity
      .ok (some (table ++ "." ++ t.column.name ++ " IN (" ++
        String.intercalate ", " literals ++ ")"))) := by
  have hidentities : catalog.identities m ≠ [] := by
    rw [identities_eq]
    simpa using hsome
  have hquote := dialect.quote_list hidentities
  have hitems : (catalog.identities m).mapM dialect.quote =
      (catalog.identified m).mapM fun x => dialect.quote x.identity := by
    rw [identities_eq, List.mapM_map]
    rfl
  rw [← hitems]
  unfold typeRestriction
  rw [hshares, htype]
  cases hfirst : catalog.identities m with
  | nil => exact absurd hfirst hidentities
  | cons first rest =>
      rw [hfirst] at hquote
      dsimp only
      rw [hquote]
      cases (first :: rest).mapM dialect.quote <;> rfl

theorem typeRestriction_eq_none_iff (catalog : Catalog) (dialect : Dialect) (m : MappedClass) :
    catalog.typeRestriction dialect m = .ok none ↔
      m.lineage.isSharing = false ∨ m.typeColumn = none ∨ catalog.identified m = [] := by
  have hnone : catalog.identities m = [] ↔ catalog.identified m = [] := by
    rw [identities_eq, List.map_eq_nil_iff]
  by_cases habsent :
      m.lineage.isSharing = false ∨ m.typeColumn = none ∨ catalog.identified m = []
  · refine iff_of_true ?_ habsent
    rw [← hnone] at habsent
    unfold typeRestriction
    split
    · next hshares htype hidentities => simp [hshares, htype, hidentities] at habsent
    · rfl
  · refine iff_of_false ?_ habsent
    simp only [not_or, Bool.not_eq_false, ← Option.isSome_iff_ne_none, Option.isSome_iff_exists]
      at habsent
    obtain ⟨hshares, ⟨t, htype⟩, hsome⟩ := habsent
    rw [typeRestriction_eq dialect hshares htype hsome]
    intro hok
    obtain ⟨table, -, hok⟩ := bind_eq_ok.mp hok
    obtain ⟨literals, -, hok⟩ := bind_eq_ok.mp hok
    cases hok

theorem typeRestriction_eq_some {dialect : Dialect} {condition : String}
    (hcondition : catalog.typeRestriction dialect m = .ok (some condition)) :
    ∃ t table literals, m.lineage.isSharing = true ∧ m.typeColumn = some t ∧
      catalog.tableName m = .ok table ∧
      condition = table ++ "." ++ t.column.name ++ " IN (" ++ literals ++ ")" := by
  have hpresent : ¬(m.lineage.isSharing = false ∨ m.typeColumn = none ∨
      catalog.identified m = []) := by
    rw [← typeRestriction_eq_none_iff catalog dialect, hcondition]
    exact nofun
  simp only [not_or, Bool.not_eq_false, ← Option.isSome_iff_ne_none, Option.isSome_iff_exists]
    at hpresent
  obtain ⟨hshares, ⟨t, htype⟩, hsome⟩ := hpresent
  rw [typeRestriction_eq dialect hshares htype hsome] at hcondition
  obtain ⟨table, htable, hcondition⟩ := bind_eq_ok.mp hcondition
  obtain ⟨literals, -, hcondition⟩ := bind_eq_ok.mp hcondition
  exact ⟨t, table, _, hshares, htype, htable, (Option.some.inj (Except.ok.inj hcondition)).symm⟩

end Catalog

end NamedQuery
