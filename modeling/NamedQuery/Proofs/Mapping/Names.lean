import NamedQuery.Model.Creation
import NamedQuery.Proofs.Mapping.Growth

/-!
# Names of tables

A table keeps its name, with its schema, whatever is placed in the catalog later.  So a class reads
from the same table for good, also in the statements of definitions that come later.
-/

namespace NamedQuery

theorem Table.usableName?_congr {t u : Table} (hcalled : t.called = u.called) :
    t.usableName? = u.usableName? := by
  obtain ⟨hschema, hrest⟩ := Prod.mk.inj hcalled
  obtain ⟨hname, hshape⟩ := Prod.mk.inj hrest
  have hfull : t.fullName = u.fullName := by rw [fullName, fullName, hschema, hname]
  rw [usableName?, usableName?, hshape, hfull]

namespace Catalog

/-- What the tables are called, in their order. -/
def called (catalog : Catalog) : List (Option String × String × TableShape) :=
  catalog.tables.list.map Table.called

theorem tableName_eq_ok {catalog : Catalog} {m : MappedClass} {name : String}
    (hname : catalog.tableName m = .ok name) :
    ∃ table, catalog.tableOf m = some table ∧ table.fullName = name := by
  unfold tableName at hname
  split at hname
  · next found hfound =>
    obtain rfl := Except.ok.inj hname
    obtain ⟨table, htable, husable⟩ := Option.bind_eq_some_iff.mp hfound
    unfold Table.usableName? at husable
    split at husable
    · exact ⟨table, htable, Option.some.inj husable⟩
    · cases husable
  · cases hname

/-- A table that is there keeps its name if the others come behind it. -/
theorem tableName_of_called {old new : Catalog} (hcalled : old.called <+: new.called)
    {m : MappedClass} (htable : m.table < old.tables.list.length) :
    new.tableName m = old.tableName m := by
  obtain ⟨later, hlater⟩ := hcalled
  have hplace : m.table < old.called.length := by simpa [called] using htable
  have hsame : (new.tableOf m).map Table.called = (old.tableOf m).map Table.called := by
    rw [tableOf, tableOf, ← List.getElem?_map, ← List.getElem?_map]
    change new.called[m.table]? = old.called[m.table]?
    rw [← hlater, List.getElem?_append_left hplace]
  have hname : (new.tableOf m).bind Table.usableName? = (old.tableOf m).bind Table.usableName? := by
    cases hnew : new.tableOf m with
    | none =>
        rw [hnew, Option.map_none, eq_comm, Option.map_eq_none_iff] at hsame
        rw [hsame]
    | some t =>
        rw [hnew, Option.map_some, eq_comm, Option.map_eq_some_iff] at hsame
        obtain ⟨u, hold, hcalled⟩ := hsame
        rw [hold, Option.bind_some, Option.bind_some, Table.usableName?_congr hcalled]
  rw [tableName, tableName, hname]

theorem called_place (catalog : Catalog) (plan : MappingPlan) (name : String)
    (parent : Option Nat) : catalog.called <+: (catalog.place plan name parent).2.called := by
  rcases Placing.cases_of_place catalog plan name parent with
    ⟨hprepares, -⟩ | ⟨tables, bare, m, hbare, -, hlater, -⟩
  · exact hprepares.widens.called
  · rw [hlater]
    exact hbare.prepares.widens.called

end Catalog

namespace Models

/-- Creating a class changes no name of a table. -/
theorem called_add (ms : Models) (plan : ModelPlan) :
    ms.catalog.called <+: (ms.add plan).2.catalog.called := by
  have hplace (parent : Option Model) :
      ms.catalog.called <+: (ms.place plan parent).2.catalog.called := by
    unfold place
    split
    · exact List.prefix_rfl
    · exact ms.catalog.called_place _ _ _
  unfold add
  split
  · exact List.prefix_rfl
  · dsimp only
    split
    · exact hplace _
    · exact hplace _

end Models

end NamedQuery
