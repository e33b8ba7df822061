import NamedQuery.Proofs.Settings.Lines
import NamedQuery.Proofs.Settings.References
import NamedQuery.Settings

/-!
# Variables of others

The environment, and a file of variables, hold variables of other programs as well.  Those of the
environment never matter, unless a line of the file refers to them.  Those of the file matter in one
way only: a single one that has a value makes reading fail.
-/

namespace NamedQuery

namespace Settings

open EnvFile (Line)

/-- A name, in lower case, that begins as the names of all settings do. -/
def IsOwn (name : String) : Prop := namespacePart.toList <+: name.toList

/-- The lines that a file gives. -/
def linesOf (file : Option String) : List Line := (file.map EnvFile.linesOf).getD []

/-- The variables of the environment under their names in lower case. -/
def outer (environment : List (String × String)) : List (String × Option String) :=
  foldNames (environment.map fun e => (e.1, some e.2))

/-- The variables of a file under their names in lower case. -/
def inner (environment : List (String × String)) (file : Option String) :
    List (String × Option String) :=
  foldNames ((file.map (EnvFile.read environment)).getD [])

theorem inner_eq (environment : List (String × String)) (file : Option String) :
    inner environment file = foldNames (EnvFile.resolve environment [] (linesOf file)) := by
  cases file <;> rfl

/-! ## What is read from the variables -/

/-- The settings that are read where fields have these texts and these variables are refused. -/
def settle (text : String → Option String) (refused : List (String × Option String)) :
    Except Error Settings :=
  let echoSql := flag (text "echo_sql") standard.echoSql "echo_sql"
  let poolPrePing := flag (text "pool_pre_ping") standard.poolPrePing "pool_pre_ping"
  let logSql := flag (text "log_sql") standard.logSql "log_sql"
  let unknown := refused.map fun e => Issue.mk [e.1] .unknownField
  match echoSql, poolPrePing, logSql, unknown with
  | .ok echoSql, .ok poolPrePing, .ok logSql, [] =>
    .ok {
      databaseUrl := (text "database_url").getD standard.databaseUrl
      echoSql, poolPrePing, logSql
      logLevel := (text "log_level").getD standard.logLevel
      definitionsPath := text "definitions_path" }
  | _, _, _, _ =>
    .error (.invalid (Options.issuesOf echoSql ++ Options.issuesOf poolPrePing ++
      Options.issuesOf logSql ++ unknown))

theorem read_eq (environment : List (String × String)) (file : Option String) :
    read environment file =
      settle (given (outer environment) (inner environment file))
        ((inner environment file).filter isUnknown) := rfl

/-- One refused variable is enough for an error, which names it. -/
theorem settle_of_mem (text : String → Option String) {refused : List (String × Option String)}
    {e : String × Option String} (he : e ∈ refused) :
    ∃ issues, settle text refused = .error (.invalid issues) ∧
      ⟨[e.1], .unknownField⟩ ∈ issues := by
  have hissue : Issue.mk [e.1] .unknownField ∈
      refused.map fun e => Issue.mk [e.1] .unknownField := List.mem_map_of_mem he
  rw [settle]
  split
  · next hnone =>
    rw [hnone] at hissue
    exact absurd hissue List.not_mem_nil
  · exact ⟨_, rfl, List.mem_append_right _ hissue⟩

theorem refused_eq_nil {text : String → Option String} {refused : List (String × Option String)}
    {s : Settings} (hsettled : settle text refused = .ok s) : refused = [] := by
  apply List.eq_nil_iff_forall_not_mem.mpr
  intro e he
  obtain ⟨issues, herror, -⟩ := settle_of_mem text he
  rw [hsettled] at herror
  cases herror

/-! ## Names in lower case -/

theorem only_foldNames (kept : String → Bool) (entries : List (String × Option String)) :
    Entries.only kept (foldNames entries) =
      foldNames (Entries.only (kept ∘ Text.lowerCase) entries) := by
  have hrun (folded : List (String × Option String)) :
      Entries.only kept (entries.foldl
        (fun folded e => Entries.assign folded (Text.lowerCase e.1) e.2) folded) =
      (Entries.only (kept ∘ Text.lowerCase) entries).foldl
        (fun folded e => Entries.assign folded (Text.lowerCase e.1) e.2)
        (Entries.only kept folded) := by
    induction entries generalizing folded with
    | nil => rfl
    | cons e rest ih =>
        rw [List.foldl_cons, ih, Entries.only_assign, Entries.only_cons, Function.comp_apply]
        split <;> rfl
  exact hrun []

theorem only_outer (kept : String → Bool) (environment : List (String × String)) :
    Entries.only kept (outer environment) =
      outer (Entries.only (kept ∘ Text.lowerCase) environment) := by
  rw [outer, only_foldNames, Entries.only, List.filter_map]
  rfl

/-! ## Changes that concern others -/

/-- Two environments that agree under the names, in lower case, that `outside` holds of, and two
files that agree under those that `inside` holds of.  All names of settings are among them. -/
structure Agree (outside inside : String → Bool) (environment wider : List (String × String))
    (file longer : Option String) : Prop where
  own : ∀ name, IsOwn name → outside name = true ∧ inside name = true
  environments : Entries.only (outside ∘ Text.lowerCase) environment =
    Entries.only (outside ∘ Text.lowerCase) wider
  files : Line.only (inside ∘ Text.lowerCase) (linesOf file) =
    Line.only (inside ∘ Text.lowerCase) (linesOf longer)
  /-- What stays in the files does not refer to what changes. -/
  references : ∀ l ∈ Line.only (inside ∘ Text.lowerCase) (linesOf file), ∀ name ∈ l.references,
    outside (Text.lowerCase name) = true ∧ inside (Text.lowerCase name) = true

namespace Agree

variable {outside inside : String → Bool} {environment wider : List (String × String)}
  {file longer : Option String}

theorem symm (h : Agree outside inside environment wider file longer) :
    Agree outside inside wider environment longer file :=
  ⟨h.own, h.environments.symm, h.files.symm, h.files ▸ h.references⟩

theorem only_inner_self (h : Agree outside inside environment wider file longer) :
    Entries.only inside (inner environment file) =
      foldNames (EnvFile.resolve environment []
        (Line.only (inside ∘ Text.lowerCase) (linesOf file))) := by
  rw [inner_eq, only_foldNames,
    EnvFile.only_resolve fun l hl name hname => (h.references l hl name hname).2]
  rfl

theorem only_inner (h : Agree outside inside environment wider file longer) :
    Entries.only inside (inner environment file) = Entries.only inside (inner wider longer) := by
  have hlookup : ∀ l ∈ Line.only (inside ∘ Text.lowerCase) (linesOf file),
      ∀ name ∈ l.references, environment.lookup name = wider.lookup name := by
    intro l hl name hname
    have hkept : (outside ∘ Text.lowerCase) name = true := (h.references l hl name hname).1
    rw [← Entries.lookup_only hkept environment, h.environments, Entries.lookup_only hkept]
  rw [h.only_inner_self, h.symm.only_inner_self, EnvFile.resolve_congr hlookup, h.files]

/-- What is given for the fields stays. -/
theorem given_eq (h : Agree outside inside environment wider file longer) :
    given (outer environment) (inner environment file) =
      given (outer wider) (inner wider longer) := by
  funext field
  have hown : IsOwn (namespacePart ++ field) := by
    rw [IsOwn, String.toList_append]
    exact List.prefix_append _ _
  obtain ⟨hout, hin⟩ := h.own _ hown
  rw [given, given, ← Entries.lookup_only hout (outer environment), only_outer, h.environments,
    ← only_outer, Entries.lookup_only hout, ← Entries.lookup_only hin (inner environment file),
    h.only_inner, Entries.lookup_only hin]

/-- Variables of others that are written on lines of their own in front of a text. -/
theorem of_written {vs : List (String × String)} {text : String}
    (hown : ∀ name, IsOwn name → outside name = true ∧ inside name = true)
    (henvironments : Entries.only (outside ∘ Text.lowerCase) environment =
      Entries.only (outside ∘ Text.lowerCase) wider)
    (hplain : ∀ v ∈ vs, EnvFile.IsPlain v)
    (hothers : ∀ v ∈ vs, inside (Text.lowerCase v.1) = false)
    (hmark : text.toList.head? ≠ some '\uFEFF')
    (hreferences : ∀ l ∈ Line.only (inside ∘ Text.lowerCase) (EnvFile.linesOf text),
      ∀ name ∈ l.references,
        outside (Text.lowerCase name) = true ∧ inside (Text.lowerCase name) = true) :
    Agree outside inside environment wider (some text)
      (some (String.join (vs.map EnvFile.written) ++ text)) := by
  refine ⟨hown, henvironments, ?_, hreferences⟩
  have hleft : Line.only (inside ∘ Text.lowerCase) (vs.map EnvFile.asLine) = [] := by
    rw [Line.only, List.filter_eq_nil_iff]
    intro l hl
    obtain ⟨v, hv, rfl⟩ := List.mem_map.mp hl
    rw [EnvFile.asLine, String.ofList_toList, Function.comp_apply, hothers v hv]
    exact Bool.false_ne_true
  have hlonger : linesOf (some (String.join (vs.map EnvFile.written) ++ text)) =
      vs.map EnvFile.asLine ++ linesOf (some text) := EnvFile.linesOf_join_written hplain hmark
  rw [hlonger, Line.only_append, hleft, List.nil_append]

end Agree

/-- Where nothing under the other names is refused, it does not matter what stands there. -/
theorem filter_isUnknown {inside : String → Bool} {entries : List (String × Option String)}
    (hothers : ∀ e ∈ entries, inside e.1 = false → isUnknown e = false) :
    entries.filter isUnknown = (Entries.only inside entries).filter isUnknown := by
  rw [Entries.only, List.filter_filter]
  refine List.filter_congr fun e he => ?_
  cases hinside : inside e.1 with
  | true => rw [Bool.and_true]
  | false => rw [hothers e he hinside, Bool.false_and]

/-- Variables of others change nothing that is read, wherever they are added, removed or changed, as
long as nothing that stays in the file refers to them: the settings are the same whenever both can
be read, and whether they can be read, and the error if not, is the same where no variable of others
is refused.  Those of the environment never are.  Of the file, one that has a value and does not
have the name of a field is: where reading succeeds without such variables, it succeeds with them
exactly if none is refused, and otherwise the error names each of them. -/
theorem read_of_agree {outside inside : String → Bool} {environment wider : List (String × String)}
    {file longer : Option String} (h : Agree outside inside environment wider file longer) :
    (∀ s t, read environment file = .ok s → read wider longer = .ok t → s = t) ∧
    ((∀ e ∈ inner environment file, inside e.1 = false → isUnknown e = false) →
      (∀ e ∈ inner wider longer, inside e.1 = false → isUnknown e = false) →
        read environment file = read wider longer) ∧
    (∀ s, read environment file = .ok s →
      (read wider longer = .ok s ↔ ∀ e ∈ inner wider longer, isUnknown e = false)) ∧
    ∀ e ∈ inner wider longer, isUnknown e = true → ∃ issues,
      read wider longer = .error (.invalid issues) ∧ ⟨[e.1], .unknownField⟩ ∈ issues := by
  have hsettled {one : List (String × String)} {f : Option String} {s : Settings}
      (hs : read one f = .ok s) : ∀ e ∈ inner one f, isUnknown e = false := by
    rw [read_eq] at hs
    simpa using List.filter_eq_nil_iff.mp (refused_eq_nil hs)
  have hsame (hfile : ∀ e ∈ inner environment file, inside e.1 = false → isUnknown e = false)
      (hlonger : ∀ e ∈ inner wider longer, inside e.1 = false → isUnknown e = false) :
      read environment file = read wider longer := by
    rw [read_eq, read_eq, h.given_eq, filter_isUnknown hfile, filter_isUnknown hlonger,
      h.only_inner]
  refine ⟨?settings, hsame, ?loads, ?refused⟩
  case settings =>
    intro s t hs ht
    rw [hsame (fun e he _ => hsettled hs e he) (fun e he _ => hsettled ht e he), ht] at hs
    exact (Except.ok.inj hs).symm
  case loads =>
    intro s hs
    refine ⟨hsettled, fun hnone => ?_⟩
    rw [← hs]
    exact (hsame (fun e he _ => hsettled hs e he) (fun e he _ => hnone e he)).symm
  case refused =>
    intro e he hunknown
    exact settle_of_mem _ (List.mem_filter.mpr ⟨he, hunknown⟩)

/-- An editor that the environment knows, and a variable of the file that only looks like a
setting. -/
theorem read_of_agree_editor :
    let own : String → Bool := fun name => namespacePart.toList.isPrefixOf name.toList
    let environment := [("SQLFINDER_LOG_LEVEL", "debug")]
    let wider := [("EDITOR", "vi"), ("SQLFINDER_LOG_LEVEL", "debug")]
    let file := some "SQLFINDER_LOG_SQL=no\n"
    let longer := some "LOG_LEVEL=warning\nSQLFINDER_LOG_SQL=no\n"
    Agree own own environment wider file longer ∧
      (∀ e ∈ inner environment file, own e.1 = false → isUnknown e = false) ∧
      (∀ e ∈ inner wider longer, own e.1 = false → isUnknown e = false) ∧
      read environment file = read wider longer := by
  intro own environment wider file longer
  have hlonger : longer = some (String.join ([("LOG_LEVEL", "warning")].map EnvFile.written) ++
      "SQLFINDER_LOG_SQL=no\n") := rfl
  have hagree : Agree own own environment wider file longer := by
    rw [hlonger]
    refine Agree.of_written (fun name hown => ?_) rfl ?_ (by decide) (by decide) ?_
    · exact ⟨List.isPrefixOf_iff_prefix.mpr hown, List.isPrefixOf_iff_prefix.mpr hown⟩
    · intro v hv
      obtain rfl := List.mem_singleton.mp hv
      exact ⟨by decide, by simp [EnvFile.inName_iff, Text.isBlank],
        by simp [EnvFile.inValue_iff, Text.isBlank]⟩
    · intro l hl name hname
      obtain rfl : l = ⟨"SQLFINDER_LOG_SQL".toList, some "no".toList⟩ := List.mem_singleton.mp hl
      exact absurd hname List.not_mem_nil
  have hfile : ∀ e ∈ inner environment file, own e.1 = false → isUnknown e = false := by decide
  have hnone : ∀ e ∈ inner wider longer, own e.1 = false → isUnknown e = false := by decide
  exact ⟨hagree, hfile, hnone, (read_of_agree hagree).2.1 hfile hnone⟩

/-- One variable of an editor in the file, and nothing can be read. -/
theorem read_of_editor :
    read [] (some "SQLFINDER_LOG_LEVEL=debug\n") = .ok { standard with logLevel := "debug" } ∧
      ¬IsOwn (Text.lowerCase "EDITOR") ∧
      read [] (some "SQLFINDER_LOG_LEVEL=debug\nEDITOR=vi\n") =
        .error (.invalid [⟨["editor"], .unknownField⟩]) := by
  refine ⟨rfl, ?_, rfl⟩
  rw [IsOwn]
  decide

-- a value that refers to a variable of others follows it, so the condition on references is needed
example :
    read [("LEVEL", "debug")] (some "SQLFINDER_LOG_LEVEL=$\x7bLEVEL\x7d\n") =
      .ok { standard with logLevel := "debug" } := by rfl

end Settings

end NamedQuery
