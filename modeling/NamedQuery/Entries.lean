/-!
# Named entries

Entries under names, in the order in which their names were first used.  Giving a name an entry
again keeps the place of the name.
-/

namespace NamedQuery.Entries

variable {α : Type}

def assign (entries : List (String × α)) (name : String) (entry : α) : List (String × α) :=
  if entries.any (·.1 = name) then
    entries.map fun e => if e.1 = name then (name, entry) else e
  else entries ++ [(name, entry)]

theorem lookup_cons_eq_ite (e : String × α) (entries : List (String × α)) (name : String) :
    (e :: entries).lookup name = if e.1 = name then some e.2 else entries.lookup name := by
  rw [List.lookup_cons]
  by_cases h : e.1 = name
  · simp [h]
  · have hbeq : (name == e.1) = false := by simpa using fun heq : name = e.1 => h heq.symm
    rw [hbeq, if_neg h]

theorem isSome_lookup (entries : List (String × α)) (name : String) :
    (entries.lookup name).isSome = entries.any (·.1 = name) := by
  induction entries with
  | nil => rfl
  | cons e rest ih =>
    rw [lookup_cons_eq_ite, List.any_cons, ← ih]
    by_cases h : e.1 = name <;> simp [h]

theorem lookup_map_replace (entries : List (String × α)) (name : String) (entry : α)
    (other : String) :
    (entries.map fun e => if e.1 = name then (name, entry) else e).lookup other =
      if other = name then (entries.lookup name).map fun _ => entry else entries.lookup other := by
  induction entries with
  | nil => simp
  | cons e rest ih =>
    rw [List.map_cons, lookup_cons_eq_ite, ih, lookup_cons_eq_ite, lookup_cons_eq_ite]
    by_cases hk : e.1 = name
    · by_cases ho : other = name
      · simp [hk, ho]
      · have ho' : ¬name = other := fun heq => ho heq.symm
        simp [hk, ho, ho']
    · by_cases ho : other = name
      · simp [hk, ho]
      · simp [hk, ho]

/-- A name has the entry that it was given last, and every other name keeps its own. -/
theorem lookup_assign (entries : List (String × α)) (name : String) (entry : α) (other : String) :
    (assign entries name entry).lookup other =
      if other = name then some entry else entries.lookup other := by
  unfold assign
  split
  · next h =>
    rw [← isSome_lookup, Option.isSome_iff_exists] at h
    obtain ⟨old, h⟩ := h
    rw [lookup_map_replace, h]
    rfl
  · next h =>
    rw [← isSome_lookup, Bool.not_eq_true, Option.isSome_eq_false_iff,
      Option.isNone_iff_eq_none] at h
    rw [List.lookup_append]
    by_cases ho : other = name
    · simp [ho, h]
    · have hbeq : (other == name) = false := by simpa using ho
      simp [ho, List.lookup_cons, hbeq]

/-- The names stay in their order, and a new one comes last. -/
theorem map_fst_assign (entries : List (String × α)) (name : String) (entry : α) :
    (assign entries name entry).map Prod.fst =
      if name ∈ entries.map Prod.fst then entries.map Prod.fst
      else entries.map Prod.fst ++ [name] := by
  have hany : entries.any (·.1 = name) = true ↔ name ∈ entries.map Prod.fst := by
    simp only [List.any_eq_true, decide_eq_true_eq, List.mem_map]
  rw [assign]
  split
  · next h =>
    rw [if_pos (hany.mp h), List.map_map]
    refine List.map_congr_left fun e _ => ?_
    by_cases he : e.1 = name
    · simp [he]
    · simp [he]
  · next h => rw [if_neg (mt hany.mpr h), List.map_append, List.map_singleton]

theorem nodup_assign {entries : List (String × α)} (hnodup : (entries.map Prod.fst).Nodup)
    (name : String) (entry : α) : ((assign entries name entry).map Prod.fst).Nodup := by
  rw [map_fst_assign]
  split
  · exact hnodup
  · next hnew =>
    refine List.nodup_append.mpr ⟨hnodup, List.pairwise_singleton _ name, fun a ha b hb hab => ?_⟩
    exact hnew (List.mem_singleton.mp hb ▸ hab ▸ ha)

theorem mem_assign {entries : List (String × α)} {name : String} {entry : α}
    {e : String × α} (he : e ∈ assign entries name entry) : e = (name, entry) ∨ e ∈ entries := by
  unfold assign at he
  split at he
  · obtain ⟨old, hold, rfl⟩ := List.mem_map.mp he
    split
    · exact .inl rfl
    · exact .inr hold
  · rw [List.mem_append, List.mem_singleton] at he
    exact he.symm

end NamedQuery.Entries
