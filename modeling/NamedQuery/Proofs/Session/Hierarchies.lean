import NamedQuery.Proofs.Mapping.Columns
import NamedQuery.Proofs.Mapping.Names
import NamedQuery.Proofs.Session.Restrictions

/-!
# Hierarchies after any run

Whatever classes a run has mapped, the restriction of a class lists the identities of its whole
subtree and of nothing else.  Its condition names the table of the class and the column that tells
types apart.  That column is in a table upward from the class; where the table of the class was
joined to that of its parent, it may not be in the one that the condition names.
-/

namespace NamedQuery

theorem Models.arises_add {ms : Models} (h : ms.catalog.Arises) (plan : ModelPlan) :
    (ms.add plan).2.catalog.Arises := by
  have hplace (parent : Option Model) : (ms.place plan parent).2.catalog.Arises := by
    unfold place
    split
    · exact h
    · exact h.place _ _ _
  unfold add
  split
  · exact h
  · dsimp only
    split
    · exact hplace _
    · exact hplace _

theorem Models.Moves.arises {ms ms' : Models} {made : Made} (hmoves : Moves ms made ms')
    (h : ms.catalog.Arises) : ms'.catalog.Arises := by
  induction hmoves with
  | refl ms => exact h
  | step hmove _ ih =>
      apply ih
      cases hmove with
      | add plan => exact Models.arises_add h plan
      | change hm backend => exact h
      | attach hm => exact h

namespace Session

theorem arises_after (dialect : Dialect) (environment : List (String × String))
    (settings : Option Settings) (steps : List Step) :
    ((start dialect environment settings).after steps).models.catalog.Arises :=
  (moves_after (wellFormed_start dialect environment settings) steps).arises .empty

/-- After any run, there is no restriction for a class exactly if the class does not share the table
of the one above, if no column tells its types apart, or if no class of its subtree has an identity.
Otherwise the condition names the table and the column and lists the literals of the identities of
precisely the classes of the subtree that have one: one for each class, those of a level before
those of the levels below it, so that of the class itself first.  No class above is among them.  The
condition can only not be told if the table has no name or an identity has no literal. -/
theorem restriction_lists_after (dialect : Dialect) (environment : List (String × String))
    (settings : Option Settings) (steps : List Step) :
    let catalog := ((start dialect environment settings).after steps).models.catalog
    ∀ c ∈ catalog.classes, ∃ named,
      catalog.Lists c named ∧ (∀ x ∈ named, ∀ level, ¬catalog.Below x (level + 1) c) ∧
      (catalog.typeRestriction dialect c = .ok none ↔
        c.lineage.isSharing = false ∨ c.typeColumn = none ∨ named = []) ∧
      ∀ t, c.lineage.isSharing = true → c.typeColumn = some t → named ≠ [] →
        catalog.typeRestriction dialect c = (do
          let table ← catalog.tableName c
          let literals ← named.mapM fun x => dialect.quote x.identity
          .ok (some (table ++ "." ++ t.column.name ++ " IN (" ++
            String.intercalate ", " literals ++ ")"))) := by
  intro catalog c hc
  have hordered : catalog.Ordered := (arises_after dialect environment settings steps).ordered
  have hlists := hordered.lists_identified hc
  refine ⟨catalog.identified c, hlists, fun x hx level => hlists.not_above hordered hx,
    catalog.typeRestriction_eq_none_iff dialect c, ?_⟩
  intro t hshares htype hsome
  exact Catalog.typeRestriction_eq dialect hshares htype hsome

/-- A class of the kitchen below another one. -/
def below (parent name : String) (style : MappingStyle) (identity : Value) : Step :=
  .create
    { name, parent := none, offersFinders := true, prefetches := false, rule := none
      backend := none, attributes := [], mapping := some ⟨style, none, identity, []⟩ }
    (some parent)

/-- Soups without an identity, with two classes below them and one beside them. -/
def pantry : List Step :=
  kitchen.take 1 ++
    [below "Recipe" "Soup" .sharing .null, below "Recipe" "Pie" .sharing (.str "pie"),
      below "Soup" "Stew" .sharing (.str "stew"), below "Soup" "Broth" .sharing (.str "broth")]

/-- The classes below soups are listed for them, and those above and beside them are not. -/
theorem restriction_lists_stews :
    let catalog := ((start .sqlite [] none).after pantry).models.catalog
    ∃ soup named table literals, catalog.find? 1 = some soup ∧ catalog.Lists soup named ∧
      catalog.tableName soup = .ok table ∧
      named.mapM (fun x => Dialect.sqlite.quote x.identity) = .ok literals ∧
      table ++ "." ++ "kind" ++ " IN (" ++ String.intercalate ", " literals ++ ")" =
        "recipes.kind IN ('stew', 'broth')" := by
  intro catalog
  have hsoups : (catalog.find? 1).any (fun soup => soup.lineage.isSharing &&
      soup.typeColumn.any (fun t => t.column.name = "kind") &&
      (catalog.typeRestriction .sqlite soup).toOption =
        some (some "recipes.kind IN ('stew', 'broth')")) = true := by
    decide +kernel
  obtain ⟨soup, hsoup, hparts⟩ := (Option.any_eq_true _ _).mp hsoups
  simp only [Bool.and_eq_true, decide_eq_true_eq, toOption_eq_some] at hparts
  obtain ⟨⟨hshares, hkind⟩, hcondition⟩ := hparts
  obtain ⟨t, htype, ht⟩ := (Option.any_eq_true _ _).mp hkind
  obtain ⟨named, hlists, -, hnone, hwritten⟩ :=
    restriction_lists_after .sqlite [] none pantry soup (List.mem_of_getElem? hsoup)
  have hsome : named ≠ [] := by
    intro hempty
    have habsent := hnone.mpr (.inr (.inr hempty))
    cases hcondition.symm.trans habsent
  obtain ⟨table, htable, hrest⟩ :=
    bind_eq_ok.mp ((hwritten t hshares htype hsome).symm.trans hcondition)
  obtain ⟨literals, hliterals, hok⟩ := bind_eq_ok.mp hrest
  have hname : t.column.name = "kind" := of_decide_eq_true ht
  rw [hname] at hok
  exact ⟨soup, named, table, literals, hsoup, hlists, htable, hliterals,
    Option.some.inj (Except.ok.inj hok)⟩

/-- After any run, a condition that restricts a class names the table that statements of the class
read from unless they name others, and the column that tells types apart.  This column is one of a
table upward from the class.  It is a column of the table that the condition names if it is in the
table of the class, and so always if the class that has founded this table did not join it to that
of its parent. -/
theorem condition_names_after (dialect : Dialect) (environment : List (String × String))
    (settings : Option Settings) (steps : List Step) :
    let catalog := ((start dialect environment settings).after steps).models.catalog
    ∀ c ∈ catalog.classes, ∀ condition,
      catalog.typeRestriction dialect c = .ok (some condition) →
        ∃ table t literals, catalog.tableOf c = some table ∧ c.typeColumn = some t ∧
          condition = table.fullName ++ "." ++ t.column.name ++ " IN (" ++ literals ++ ")" ∧
          (∀ (stored : List StoredRow) (clauses : Clauses), clauses.tables.truthy = false →
            clauses.tablesClause (catalog.toBackend dialect stored c) =
              .ok (Template.literal "FROM " ++ Template.literal table.fullName)) ∧
          catalog.tables.Has t.column ∧ catalog.Upward c t.column.table ∧
          (t.column.table = c.table → t.column.name ∈ table.columns) ∧
          ∃ f ∈ catalog.classes, catalog.Founder f c ∧
            ((∀ p, f.lineage ≠ .joined p) → t.column.name ∈ table.columns) := by
  intro catalog c hc condition hcondition
  have harises : catalog.Arises := arises_after dialect environment settings steps
  have hlaid := harises.laid
  obtain ⟨t, name, literals, -, htype, hname, rfl⟩ := Catalog.typeRestriction_eq_some hcondition
  obtain ⟨hhas, hdraws⟩ := (hlaid.housed c hc).typed t htype
  obtain ⟨table, htable, rfl⟩ := Catalog.tableName_eq_ok hname
  have hin (hown : t.column.table = c.table) : t.column.name ∈ table.columns := by
    obtain ⟨found, hfound, hcolumn⟩ := hhas
    rw [hown] at hfound
    obtain rfl := Option.some.inj (htable.symm.trans hfound)
    exact hcolumn
  obtain ⟨f, hf, hfounder, hsame, hsource⟩ := hlaid.exists_founder harises.ordered c hc
  refine ⟨table, t, literals, htable, htype, rfl, ?_, hhas,
    hlaid.upward_of_draws harises.ordered c hc _ hdraws, hin, f, hf, hfounder, ?_⟩
  · intro stored clauses hnone
    rw [Clauses.tablesClause, if_neg (by simp [hnone])]
    exact congrArg _ hname
  · intro hjoined
    have hown := hlaid.source_of_not_joined hf hfounder.own hjoined
    rw [← hsource, hown] at hdraws
    exact hin (hdraws.eq_of_table.trans hsame)

/-- The condition for soups names the table of recipes, which has the column that it names. -/
theorem condition_names_kind :
    let catalog := ((start .sqlite [] none).after pantry).models.catalog
    ∃ soup table, catalog.find? 1 = some soup ∧ catalog.tableOf soup = some table ∧
      catalog.typeRestriction .sqlite soup = .ok (some "recipes.kind IN ('stew', 'broth')") ∧
      "kind" ∈ table.columns := by
  intro catalog
  have hsoups : (catalog.find? 1).any (fun soup =>
      (catalog.typeRestriction .sqlite soup).toOption =
        some (some "recipes.kind IN ('stew', 'broth')") &&
      soup.typeColumn.any fun t => t.column.name = "kind" && t.column.table = soup.table) =
        true := by
    decide +kernel
  obtain ⟨soup, hsoup, hparts⟩ := (Option.any_eq_true _ _).mp hsoups
  obtain ⟨hcondition, hkind⟩ := Bool.and_eq_true_iff.mp hparts
  obtain ⟨t, htype, ht⟩ := (Option.any_eq_true _ _).mp hkind
  simp only [Bool.and_eq_true, decide_eq_true_eq, toOption_eq_some] at hcondition ht
  obtain ⟨table, t', -, htable, htype', -, -, -, -, hown, -⟩ :=
    condition_names_after .sqlite [] none pantry soup (List.mem_of_getElem? hsoup) _ hcondition
  obtain rfl := Option.some.inj (htype.symm.trans htype')
  exact ⟨soup, table, hsoup, htable, hcondition, ht.1 ▸ hown ht.2⟩

/-- Soups in a table of their own, which is joined to that of recipes, with hot soups in it. -/
def cellar : List Step :=
  kitchen.take 1 ++
    [below "Recipe" "Soup" (.joined "soups") (.str "soup"),
      below "Soup" "HotSoup" .sharing (.str "hot")]

/-- The condition for hot soups names a column that is in the table of recipes and not in that of
soups. -/
theorem condition_of_hot_soups :
    let catalog := ((start .sqlite [] none).after cellar).models.catalog
    ∃ hot table, catalog.find? 2 = some hot ∧ catalog.tableOf hot = some table ∧
      catalog.tableName hot = .ok "soups" ∧
      catalog.typeRestriction .sqlite hot = .ok (some "soups.kind IN ('hot')") ∧
      "kind" ∉ table.columns := by
  intro catalog
  have hsoups : (catalog.find? 2).any (fun hot =>
      (catalog.tableName hot).toOption = some "soups" &&
        (catalog.typeRestriction .sqlite hot).toOption = some (some "soups.kind IN ('hot')") &&
        (catalog.tableOf hot).any fun table => !table.columns.contains "kind") = true := by
    decide +kernel
  obtain ⟨hot, hhot, hparts⟩ := (Option.any_eq_true _ _).mp hsoups
  obtain ⟨hnames, htables⟩ := Bool.and_eq_true_iff.mp hparts
  obtain ⟨table, htable, hcolumn⟩ := (Option.any_eq_true _ _).mp htables
  simp only [Bool.and_eq_true, decide_eq_true_eq, toOption_eq_some] at hnames
  exact ⟨hot, table, hhot, htable, hnames.1, hnames.2, by simpa using hcolumn⟩

end Session

end NamedQuery
