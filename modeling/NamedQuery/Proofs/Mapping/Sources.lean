import NamedQuery.Mapping.Placing

/-!
# Tables and sources

Tables come, keep their names and get further columns.  A source draws rows from one table or from
several, and the columns that it is known to have are columns of these tables.
-/

namespace NamedQuery

/-- What the name of a table in statements depends on. -/
def Table.called (t : Table) : Option String × String × TableShape := (t.schema, t.name, t.shape)

namespace Tables

variable {a b c ts : Tables}

/-- The column is one of a table that exists. -/
def Has (ts : Tables) (c : Column) : Prop := ∃ t, ts.list[c.table]? = some t ∧ c.name ∈ t.columns

theorem Has.table_lt {column : Column} (h : ts.Has column) : column.table < ts.list.length := by
  obtain ⟨t, ht, -⟩ := h
  exact (List.getElem?_eq_some_iff.mp ht).1

theorem mem_columnsOf {number : Nat} {column : Column} :
    column ∈ ts.columnsOf number ↔ column.table = number ∧ ts.Has column := by
  rw [columnsOf, List.mem_map]
  constructor
  · rintro ⟨name, hname, rfl⟩
    refine ⟨rfl, ?_⟩
    cases ht : ts.list[number]? with
    | none => simp [ht] at hname
    | some t => exact ⟨t, ht, by simpa [ht] using hname⟩
  · rintro ⟨rfl, t, ht, hname⟩
    exact ⟨column.name, by simpa [ht] using hname, rfl⟩

/-- What the joins are joins of, in their order. -/
def parts (ts : Tables) : List (Source × Nat) := ts.joins.map fun j => (j.left, j.right)

/-- The tables that the rows of a source come from. -/
inductive Draws (ts : Tables) : Source → Nat → Prop where
  | table (number : Nat) : Draws ts (.table number) number
  | left {join right number : Nat} {left : Source} (hparts : ts.parts[join]? = some (left, right))
      (hleft : Draws ts left number) : Draws ts (.join join) number
  | right {join right : Nat} {left : Source} (hparts : ts.parts[join]? = some (left, right)) :
      Draws ts (.join join) right

theorem Draws.eq_of_table {number n : Nat} (h : ts.Draws (.table number) n) : n = number := by
  cases h with
  | table => rfl

theorem Draws.of_join {join number n : Nat} {left : Source} (h : ts.Draws (.join join) n)
    (hparts : ts.parts[join]? = some (left, number)) : ts.Draws left n ∨ n = number := by
  cases h with
  | left hparts' hleft =>
      rw [hparts] at hparts'
      obtain ⟨rfl, rfl⟩ := Prod.mk.inj (Option.some.inj hparts')
      exact .inl hleft
  | right hparts' =>
      rw [hparts] at hparts'
      obtain ⟨rfl, rfl⟩ := Prod.mk.inj (Option.some.inj hparts')
      exact .inr rfl

/-- A source is known to have columns of the tables that it draws from only. -/
def Sound (ts : Tables) : Prop :=
  ∀ source, ∀ c ∈ ts.columns source, ts.Has c ∧ ts.Draws source c.table

/-- Tables have come or have got further columns, and joins have come. -/
structure Widens (old new : Tables) : Prop where
  has : ∀ {c}, old.Has c → new.Has c
  parts : old.parts <+: new.parts
  called : old.list.map Table.called <+: new.list.map Table.called

theorem Widens.refl (ts : Tables) : Widens ts ts := ⟨id, List.prefix_rfl, List.prefix_rfl⟩

theorem Widens.trans (hab : Widens a b) (hbc : Widens b c) : Widens a c :=
  ⟨hbc.has ∘ hab.has, hab.parts.trans hbc.parts, hab.called.trans hbc.called⟩

theorem Widens.length_le (h : Widens a b) : a.list.length ≤ b.list.length := by
  simpa using h.called.length_le

theorem Widens.parts_eq (h : Widens a b) {join : Nat} {of : Source × Nat}
    (hparts : a.parts[join]? = some of) : b.parts[join]? = some of := by
  obtain ⟨later, hlater⟩ := h.parts
  rw [← hlater, List.getElem?_append_left (List.getElem?_eq_some_iff.mp hparts).1]
  exact hparts

theorem Widens.draws (h : Widens a b) {source : Source} {number : Nat}
    (hdraws : a.Draws source number) : b.Draws source number := by
  induction hdraws with
  | table number => exact .table number
  | left hparts _ ih => exact .left (h.parts_eq hparts) ih
  | right hparts => exact .right (h.parts_eq hparts)

theorem sound_empty : empty.Sound := by
  intro source c hc
  cases source with
  | table number => simp [empty, columns, columnsOf] at hc
  | join number => simp [empty, columns] at hc

/-- Soundness is about the columns of joins, for those of tables speak for themselves. -/
theorem sound_of_joins
    (h : ∀ join, ∀ c ∈ ts.columns (.join join), ts.Has c ∧ ts.Draws (.join join) c.table) :
    ts.Sound := by
  intro source c hc
  cases source with
  | table number =>
      obtain ⟨rfl, hhas⟩ := mem_columnsOf.mp hc
      exact ⟨hhas, .table _⟩
  | join number => exact h number c hc

/-- Tables that have come or grown do not make a join unsound. -/
theorem Sound.of_joins_eq (h : a.Sound) (hab : Widens a b) (hjoins : b.joins = a.joins) :
    b.Sound := by
  refine sound_of_joins fun join c hc => ?_
  have hold : c ∈ a.columns (.join join) := by
    rw [columns, hjoins] at hc
    exact hc
  obtain ⟨hhas, hdraws⟩ := h _ c hold
  exact ⟨hab.has hhas, hab.draws hdraws⟩

theorem widens_append (ts : Tables) (t : Table) : Widens ts { ts with list := ts.list ++ [t] } := by
  refine ⟨?_, List.prefix_rfl, by simp⟩
  rintro c ⟨found, hfound, hname⟩
  have hold := (List.getElem?_eq_some_iff.mp hfound).1
  exact ⟨found, (List.getElem?_append_left hold).trans hfound, hname⟩

theorem has_addColumn {number : Nat} {name : String} {c : Column}
    (h : ts.Has c ∨ c = ⟨number, name⟩ ∧ number < ts.list.length) :
    (ts.addColumn number name).Has c := by
  unfold Has addColumn
  rw [List.getElem?_modify]
  rcases h with ⟨t, ht, hname⟩ | ⟨rfl, hnumber⟩
  · rw [ht]
    split
    · exact ⟨_, rfl, List.mem_append_left _ hname⟩
    · exact ⟨t, rfl, hname⟩
  · rw [List.getElem?_eq_getElem hnumber]
    exact ⟨_, rfl, by simp⟩

theorem called_addColumn (ts : Tables) (number : Nat) (name : String) :
    (ts.addColumn number name).list.map Table.called = ts.list.map Table.called := by
  apply List.ext_getElem?
  intro place
  rw [addColumn, List.getElem?_map, List.getElem?_modify, List.getElem?_map]
  cases ts.list[place]? with
  | none => rfl
  | some t => by_cases hplace : number = place <;> simp [hplace, Table.called]

theorem widens_addColumn (ts : Tables) (number : Nat) (name : String) :
    Widens ts (ts.addColumn number name) :=
  ⟨fun h => has_addColumn (.inl h), List.prefix_rfl,
    (ts.called_addColumn number name).symm ▸ List.prefix_rfl⟩

theorem widens_addJoin (ts : Tables) (left : Source) (right : Nat) :
    Widens ts (ts.addJoin left right) :=
  ⟨id, by simp [parts, addJoin], List.prefix_rfl⟩

theorem parts_addJoin (ts : Tables) (left : Source) (right : Nat) :
    (ts.addJoin left right).parts[ts.joins.length]? = some (left, right) := by
  simp [parts, addJoin]

theorem Sound.addJoin (h : ts.Sound) (left : Source) (right : Nat) :
    (ts.addJoin left right).Sound := by
  have hwidens := ts.widens_addJoin left right
  refine sound_of_joins fun join c hc => ?_
  rw [columns, Tables.addJoin] at hc
  rcases Nat.lt_trichotomy join ts.joins.length with hold | rfl | hnone
  · rw [List.getElem?_append_left hold] at hc
    obtain ⟨hhas, hdraws⟩ := h (.join join) c hc
    exact ⟨hhas, hwidens.draws hdraws⟩
  · have hparts := ts.parts_addJoin left right
    simp only [List.getElem?_concat_length, Option.map_some, Option.getD_some,
      List.mem_append] at hc
    rcases hc with hleft | hright
    · obtain ⟨hhas, hdraws⟩ := h left c hleft
      exact ⟨hhas, .left hparts (hwidens.draws hdraws)⟩
    · obtain ⟨rfl, hhas⟩ := mem_columnsOf.mp hright
      exact ⟨hhas, .right hparts⟩
  · rw [List.getElem?_eq_none (by simpa using Nat.succ_le_of_lt hnone)] at hc
    cases hc

/-- A join that is looked through: it has got the columns that its parts are known to have. -/
def renewed (ts : Tables) (number : Nat) (j : Join) : Tables :=
  { ts with
    joins := ts.joins.set number { j with columns := ts.columns j.left ++ ts.columnsOf j.right } }

theorem parts_renewed {number : Nat} {j : Join}
    (hparts : ts.parts[number]? = some (j.left, j.right)) :
    (ts.renewed number j).parts = ts.parts := by
  obtain ⟨hnumber, hget⟩ := List.getElem?_eq_some_iff.mp hparts
  change List.map _ (List.set _ _ _) = _
  rw [List.map_set]
  change ts.parts.set number (j.left, j.right) = ts.parts
  rw [← hget, List.set_getElem_self]

theorem Sound.renewed (h : ts.Sound) {number : Nat} {j : Join}
    (hparts : ts.parts[number]? = some (j.left, j.right)) : (ts.renewed number j).Sound := by
  have hsame := parts_renewed hparts
  have hwidens : Widens ts (ts.renewed number j) :=
    ⟨id, hsame.symm ▸ List.prefix_rfl, List.prefix_rfl⟩
  refine sound_of_joins fun join c hc => ?_
  rw [columns, Tables.renewed] at hc
  -- only the join that is looked through has got other columns
  by_cases hjoin : join = number
  · subst hjoin
    have hin : join < ts.joins.length := by
      simpa [parts] using (List.getElem?_eq_some_iff.mp hparts).1
    rw [List.getElem?_set_self hin] at hc
    rcases List.mem_append.mp hc with hleft | hright
    · obtain ⟨hhas, hdraws⟩ := h _ c hleft
      exact ⟨hhas, .left (hsame ▸ hparts) (hwidens.draws hdraws)⟩
    · obtain ⟨htable, hhas⟩ := mem_columnsOf.mp hright
      exact ⟨hhas, htable ▸ .right (hsame ▸ hparts)⟩
  · rw [List.getElem?_set_ne (Ne.symm hjoin)] at hc
    obtain ⟨hhas, hdraws⟩ := h (.join join) c hc
    exact ⟨hhas, hwidens.draws hdraws⟩

theorem list_refresh (depth : Nat) (source : Source) (ts : Tables) :
    (refresh depth source ts).list = ts.list := by
  induction depth generalizing source ts with
  | zero => cases source <;> rfl
  | succ depth ih =>
      cases source with
      | table number => rfl
      | join number =>
          rw [refresh]
          split
          · rfl
          · exact ih _ ts

theorem parts_refresh (depth : Nat) (source : Source) (ts : Tables) :
    (refresh depth source ts).parts = ts.parts := by
  induction depth generalizing source with
  | zero => cases source <;> rfl
  | succ depth ih =>
      cases source with
      | table number => rfl
      | join number =>
          rw [refresh]
          split
          · rfl
          · next j hj =>
            refine (parts_renewed ?_).trans (ih j.left)
            rw [ih]
            simp [parts, hj]

theorem Sound.refresh (h : ts.Sound) (depth : Nat) (source : Source) :
    (refresh depth source ts).Sound := by
  induction depth generalizing source with
  | zero => cases source <;> exact h
  | succ depth ih =>
      cases source with
      | table number => exact h
      | join number =>
          rw [Tables.refresh]
          split
          · exact h
          · next j hj =>
            refine (ih j.left).renewed ?_
            rw [parts_refresh]
            simp [parts, hj]

theorem widens_refreshed (ts : Tables) (source : Source) : Widens ts (ts.refreshed source) := by
  refine ⟨?_, ?_, ?_⟩
  · intro c hc
    unfold Has at hc ⊢
    rw [refreshed, list_refresh]
    exact hc
  · exact (parts_refresh _ source ts).symm ▸ List.prefix_rfl
  · exact (list_refresh _ source ts).symm ▸ List.prefix_rfl

end Tables

end NamedQuery
