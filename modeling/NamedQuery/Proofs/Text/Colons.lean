import NamedQuery.Backend.Mapped

/-!
# Submitted statements

A statement whose colons are all escaped reaches the database as it was, and nothing in it is taken
for a parameter: no colon is left without a backslash in front, and behind an escape no name begins
that is not escaped itself.
-/

namespace NamedQuery.Text

theorem escapeColons_cons_of_ne {c : Char} (hc : c ≠ ':') (cs : List Char) :
    escapeColons (c :: cs) = c :: escapeColons cs := by
  rw [escapeColons, List.flatMap_cons, if_neg hc]
  rfl

/-- After escaping, a run of characters of names never ends before a colon. -/
theorem head?_dropWhile_escapeColons (cs : List Char) :
    ((escapeColons cs).dropWhile isNameChar).head? ≠ some ':' := by
  induction cs with
  | nil => simp [escapeColons]
  | cons c tail ih =>
      by_cases hc : c = ':'
      · subst hc
        have hslash : isNameChar '\\' = false := by decide
        have hescape : escapeColons (':' :: tail) = '\\' :: ':' :: escapeColons tail := rfl
        rw [hescape, List.dropWhile_cons, hslash]
        exact fun hhead => absurd (Option.some.inj hhead) (by decide)
      · rw [escapeColons_cons_of_ne hc, List.dropWhile_cons]
        split
        · exact ih
        · exact fun hhead => hc (Option.some.inj hhead)

theorem beginsName_escapeColons (cs : List Char) : beginsName (escapeColons cs) = false := by
  cases cs with
  | nil => rfl
  | cons c tail =>
      by_cases hc : c = ':'
      · subst hc
        rfl
      · rw [escapeColons_cons_of_ne hc]
        unfold beginsName
        split
        · next heq => exact absurd (List.cons.inj heq).1 hc
        · rfl

theorem unescapeColons_escapeColons (cs : List Char) :
    unescapeColons (escapeColons cs) = cs := by
  induction cs with
  | nil => rfl
  | cons c tail ih =>
      by_cases hc : c = ':'
      · subst hc
        have hescape : escapeColons (':' :: tail) = '\\' :: ':' :: escapeColons tail := rfl
        have hbegins : beginsName (':' :: escapeColons tail) = true :=
          decide_eq_true (head?_dropWhile_escapeColons tail)
        simp [hescape, unescapeColons, hbegins, ih]
      · rw [escapeColons_cons_of_ne hc, unescapeColons, beginsName_escapeColons, Bool.and_false,
          if_neg Bool.false_ne_true, ih]

/-- Every colon of an escaped text has a backslash in front. -/
theorem getLast?_of_escapeColons {cs front back : List Char}
    (hcs : escapeColons cs = front ++ ':' :: back) : front.getLast? = some '\\' := by
  induction cs generalizing front with
  | nil => simp [escapeColons] at hcs
  | cons c tail ih =>
      by_cases hc : c = ':'
      · subst hc
        have hescape : escapeColons (':' :: tail) = '\\' :: ':' :: escapeColons tail := rfl
        rw [hescape] at hcs
        match front with
        | [] => exact absurd (List.cons.inj hcs).1 (by decide)
        | [first] => rw [(List.cons.inj hcs).1.symm, List.getLast?_singleton]
        | first :: second :: later =>
            have hlater := ih (List.cons.inj (List.cons.inj hcs).2).2
            rw [List.getLast?_cons_cons, List.getLast?_cons, hlater]
            rfl
      · rw [escapeColons_cons_of_ne hc] at hcs
        cases front with
        | nil => exact absurd (List.cons.inj hcs).1 hc
        | cons first later =>
            have hlater := ih (List.cons.inj hcs).2
            rw [List.getLast?_cons, hlater]
            rfl

/-- A text in which no parameter may begin at any of the colons is left as it is. -/
theorem markParametersFrom_eq_self {before : Option Char} {cs : List Char}
    (hcolons : ∀ front back, cs = front ++ ':' :: back →
      allowsParameter (front.getLast?.or before) = false) :
    markParametersFrom before 0 cs = (cs, []) := by
  induction cs generalizing before with
  | nil => rfl
  | cons c rest ih =>
      have hrest : markParametersFrom (some c) 0 rest = (rest, []) := by
        apply ih
        intro front back hcs
        have hcolon := hcolons (c :: front) back (by rw [hcs]; rfl)
        rwa [List.getLast?_cons, Option.some_or, ← Option.or_some] at hcolon
      have hnone : (decide (c = ':') && allowsParameter before) = false := by
        by_cases hc : c = ':'
        · subst hc
          exact (Bool.and_eq_false_iff).mpr (.inr (hcolons [] rest rfl))
        · rw [decide_eq_false hc, Bool.false_and]
      rw [markParametersFrom, hnone, hrest]
      rfl

theorem allowsParameter_of_escapeColons {cs front back : List Char}
    (hcs : escapeColons cs = front ++ ':' :: back) :
    allowsParameter front.getLast? = false := by
  rw [getLast?_of_escapeColons hcs]
  rfl

theorem markParameters_escapeColons (cs : List Char) :
    markParameters (escapeColons cs) = (escapeColons cs, []) := by
  apply markParametersFrom_eq_self
  intro front back hcs
  rw [Option.or_none]
  exact allowsParameter_of_escapeColons hcs

/-- Without the escapes a name behind a colon is taken for a parameter. -/
example : markParameters "at > '7:30' AND diet = :diet".toList =
    ("at > '7:30' AND diet = ?".toList, ["diet".toList]) := by decide

/-- What is submitted is the statement itself, without parameters. -/
theorem submitted_eq (sql : String) : submitted sql = (sql, []) := by
  rw [submitted, markParameters_escapeColons]
  dsimp only
  rw [unescapeColons_escapeColons, String.ofList_toList]
  rfl

end NamedQuery.Text

namespace NamedQuery.Catalog

variable (catalog : Catalog) (dialect : Dialect) (stored : List StoredRow) (m : MappedClass)

theorem statements_run (sql : String) :
    ((catalog.toBackend dialect stored m).run sql).statements = [sql] := by
  have hemit : (Traced.emit (.executed (Text.submitted sql).1)).statements = [sql] := by
    rw [Text.submitted_eq]
    rfl
  have hlater : ∀ later : Traced (List Row), later.statements = [] →
      (Traced.emit (.executed (Text.submitted sql).1) >>= fun _ => later).statements =
        [sql] := by
    intro later hnone
    rw [Traced.statements_bind_of_ok rfl, hemit, hnone, List.append_nil]
  refine hlater _ (Traced.statements_bind_eq_nil rfl fun _ => ?_)
  exact Traced.statements_bind_eq_nil rfl fun _ => rfl

/-- Whatever a statement holds, it is submitted as it is, once and without parameters: after its
colons are escaped none of them stands where a parameter may begin, and the backslashes that are
taken away are those that were put there. -/
theorem run_submits_unchanged (sql : String) :
    Text.submitted sql = (sql, []) ∧
      (∀ front back, Text.escapeColons sql.toList = front ++ ':' :: back →
        Text.allowsParameter front.getLast? = false) ∧
      ((catalog.toBackend .sqlite stored m).run sql).statements = [sql] := by
  refine ⟨Text.submitted_eq sql, ?_, catalog.statements_run .sqlite stored m sql⟩
  intro front back hcs
  exact Text.allowsParameter_of_escapeColons hcs

end NamedQuery.Catalog
