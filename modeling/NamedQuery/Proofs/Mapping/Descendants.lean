import Mathlib.Data.List.Basic
import NamedQuery.Proofs.Mapping.Growth

/-!
# Classes below a class

The classes below a class are found level by level.  A catalog that has grown finds all of them
again, and maybe others, so the identities of the subtree of a class only become more.
-/

namespace NamedQuery.Catalog

variable {a b : Catalog}

theorem levels_nil (catalog : Catalog) (depth : Nat) : catalog.levels depth [] = [] := by
  cases depth with
  | zero => rfl
  | succ depth => rfl

/-- That the search ends where a level is empty makes no difference. -/
theorem levels_succ (catalog : Catalog) (depth : Nat) (classes : List MappedClass) :
    catalog.levels (depth + 1) classes =
      classes ++ catalog.levels depth (classes.flatMap fun m => catalog.children m.id) := by
  cases classes with
  | nil => rw [levels, List.flatMap_nil, levels_nil]; rfl
  | cons m rest => rfl

/-- The classes that the search begins with are among those it finds. -/
theorem subset_levels (catalog : Catalog) (depth : Nat) (classes : List MappedClass) :
    classes ⊆ catalog.levels depth classes := by
  cases depth with
  | zero => exact List.Subset.refl classes
  | succ depth =>
      rw [levels_succ]
      exact List.subset_append_left _ _

theorem Grows.children_subset (h : Grows a b) (id : Nat) : a.children id ⊆ b.children id := by
  intro c hc
  rw [children, List.mem_filter] at hc ⊢
  exact ⟨h.classes.subset hc.1, hc.2⟩

/-- A search that begins with more classes and goes down further finds more. -/
theorem Grows.levels_subset (h : Grows a b) {depth later : Nat} (hdepth : depth ≤ later)
    {classes wider : List MappedClass} (hclasses : classes ⊆ wider) :
    a.levels depth classes ⊆ b.levels later wider := by
  induction depth generalizing later classes wider with
  | zero => exact List.Subset.trans hclasses (b.subset_levels later wider)
  | succ depth ih =>
      cases later with
      | zero => cases hdepth
      | succ later =>
          have hchildren : (classes.flatMap fun m => a.children m.id) ⊆
              wider.flatMap fun m => b.children m.id := by
            intro child hchild
            obtain ⟨parent, hparent, hmem⟩ := List.mem_flatMap.mp hchild
            exact List.mem_flatMap.mpr
              ⟨parent, hclasses hparent, h.children_subset parent.id hmem⟩
          have hbelow := ih (Nat.le_of_succ_le_succ hdepth) hchildren
          rw [levels_succ, levels_succ]
          intro c hc
          cases List.mem_append.mp hc with
          | inl hhere => exact List.mem_append_left _ (hclasses hhere)
          | inr hlower => exact List.mem_append_right _ (hbelow hlower)

/-- The identities of a subtree stay among those of the subtree. -/
theorem Grows.identities_subset (h : Grows a b) (m : MappedClass) :
    a.identities m ⊆ b.identities m := by
  have hfound : a.selfAndDescendants m ⊆ b.selfAndDescendants m :=
    h.levels_subset h.classes.length_le (List.Subset.refl [m])
  intro v hv
  rw [identities, List.mem_filter, List.mem_map] at hv ⊢
  obtain ⟨⟨c, hc, hidentity⟩, hsome⟩ := hv
  exact ⟨⟨c, hfound hc, hidentity⟩, hsome⟩

/-- A class is in its own subtree. -/
theorem identity_mem_identities (catalog : Catalog) {m : MappedClass}
    (hsome : m.identity.isNull = false) : m.identity ∈ catalog.identities m := by
  have hself : m ∈ catalog.selfAndDescendants m := catalog.subset_levels _ _ List.mem_cons_self
  rw [identities, List.mem_filter]
  exact ⟨List.mem_map_of_mem hself, by simp [hsome]⟩

end NamedQuery.Catalog
