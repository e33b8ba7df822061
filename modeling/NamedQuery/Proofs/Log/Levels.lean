import Mathlib.Data.List.Basic
import NamedQuery.Log.Statement

/-!
# What a level setting decides

Any text may be given as the level of the log.  All but two give a level: a name of a level gives
that level, in any case, and every other text the usual one.  The two that fail name something else
that stands beside the levels.  Statements reach the log at one level only, and only if they are
asked for; where the loggers have no level, the one above them decides.
-/

namespace NamedQuery

namespace Log

/-- The level that a name in upper case gives: its own if it has one, or else the usual one. -/
def IsLevelOf (upper : String) (threshold : Nat) : Prop :=
  (upper, threshold) ∈ levels ∨ upper ∉ levels.map Prod.fst ∧ threshold = usualLevel

theorem isLevelOf_lookup (upper : String) :
    IsLevelOf upper ((levels.lookup upper).getD usualLevel) := by
  cases hlookup : levels.lookup upper with
  | some number =>
      obtain ⟨front, back, hlevels, -⟩ := List.lookup_eq_some_iff.mp hlookup
      left
      rw [hlevels]
      exact List.mem_append_right front List.mem_cons_self
  | none =>
      refine .inr ⟨fun hupper => ?_, rfl⟩
      obtain ⟨entry, hentry, rfl⟩ := List.mem_map.mp hupper
      have hother := List.lookup_eq_none_iff.mp hlookup entry hentry
      exact absurd hother (by simp)

/-- Statements are written at one level, or below a level that is low enough if none is given. -/
theorem admits_debug_iff {upper : String} {threshold : Nat} (hlevel : IsLevelOf upper threshold)
    (outer : Nat) : (Filter.mk threshold outer).admits .debug = true ↔
      upper = "DEBUG" ∨ upper = "NOTSET" ∧ outer ≤ Level.debug.number := by
  rcases hlevel with hnamed | ⟨hother, rfl⟩
  · simp only [levels, List.mem_cons, Prod.mk.injEq, List.not_mem_nil, or_false] at hnamed
    rcases hnamed with h | h | h | h | h | h | h | h <;> obtain ⟨rfl, rfl⟩ := h <;>
      simp [Filter.admits, Level.number]
  · refine iff_of_false (by simp [Filter.admits, usualLevel, Level.number]) ?_
    rintro (rfl | ⟨rfl, -⟩)
    · exact hother (by decide)
    · exact hother (by decide)

theorem Filter.threshold_le_of_admits (f : Filter) {level : Level}
    (hadmits : f.admits level = true) : f.threshold ≤ level.number := by
  rw [admits, decide_eq_true_iff] at hadmits
  split at hadmits <;> omega

/-! ## Statements in the log -/

theorem lines_singleton (f : Filter) (r : Record) :
    lines f [r] = if f.writes r then r.line else "" := by
  cases hwrites : f.writes r with
  | true => simp [lines, hwrites, String.join]
  | false => simp [lines, hwrites, String.join]

/-- What stands in the log of a statement that is about to run. -/
theorem lines_announce (f : Filter) (settings : Except Error Settings) (label sql : String) :
    lines f (Traced.announce settings label sql).records =
      if f.admits .debug = true ∧ (settings.toOption.any Settings.logSql) = true then
        (Record.running label sql).line
      else "" := by
  cases settings with
  | error e => simp [Traced.announce_error, Traced.records, lines, String.join, Except.toOption]
  | ok s =>
      rw [Traced.announce_ok]
      cases hlog : s.logSql with
      | false => simp [Traced.records, lines, String.join, Except.toOption, hlog]
      | true =>
          have hrecords : (Traced.mk [.consulted, .logged (.running label sql)] (.ok ())).records =
              [.running label sql] := rfl
          simp only [if_true, hrecords, lines_singleton, Except.toOption, Option.any_some, hlog,
            and_true]
          rfl

end Log

namespace Settings

/-- Two names fail, and no other text.  Any other gives the level that it names, or the usual one.
A statement that is about to run is then written only if this level is at most that of debugging and
the settings that there are by now ask for statements.  That is so for one name, and for the one
that leaves it to the level above if this is as low. -/
theorem filter_of_level (s : Settings) (outer : Nat) :
    let upper := Log.upperCase s.logLevel
    (upper = "BASIC_FORMAT" → s.filter outer = .error (.unknownLevel Log.lineFormat)) ∧
    (upper = "_STYLES" → s.filter outer = .error (.levelNotNumber Log.formatStyles)) ∧
    (upper ≠ "BASIC_FORMAT" → upper ≠ "_STYLES" → ∃ f, s.filter outer = .ok f ∧
      Log.IsLevelOf upper f.threshold ∧
      ∀ (settings : Except Error Settings) (label sql : String),
        let written := Log.lines f (Traced.announce settings label sql).records
        (written ≠ "" → f.threshold ≤ Log.Level.debug.number ∧
          ∃ now, settings = .ok now ∧ now.logSql = true) ∧
        ((upper = "DEBUG" ∨ upper = "NOTSET" ∧ outer ≤ Log.Level.debug.number) →
          ∀ now, settings = .ok now → now.logSql = true →
            written = (Log.Record.running label sql).line)) := by
  intro upper
  have hfilter : s.filter outer = (Log.threshold s.logLevel).map fun t => ⟨t, outer⟩ := rfl
  refine ⟨?format, ?styles, ?level⟩
  case format =>
    intro hupper
    rw [hfilter, Log.threshold, if_pos hupper]
    rfl
  case styles =>
    intro hupper
    have hformat : upper ≠ "BASIC_FORMAT" := by simp [hupper]
    rw [hfilter, Log.threshold, if_neg hformat, if_pos hupper]
    rfl
  case level =>
    intro hformat hstyles
    let f : Log.Filter := ⟨(Log.levels.lookup upper).getD Log.usualLevel, outer⟩
    have hlevel : Log.IsLevelOf upper f.threshold := Log.isLevelOf_lookup upper
    refine ⟨f, ?_, hlevel, fun settings label sql => ?_⟩
    · rw [hfilter, Log.threshold, if_neg hformat, if_neg hstyles]
      rfl
    · dsimp only
      rw [Log.lines_announce]
      constructor
      · intro hwritten
        obtain ⟨hadmits, hasked⟩ := by_contra fun hnot => hwritten (if_neg hnot)
        obtain ⟨now, hnow, hlog⟩ := (Option.any_eq_true _ _).mp hasked
        exact ⟨f.threshold_le_of_admits hadmits, now, toOption_eq_some.mp hnow, hlog⟩
      · rintro hname now rfl hlog
        exact if_pos ⟨(Log.admits_debug_iff hlevel outer).mpr hname, hlog⟩

/-- The level of debugging, a text that is no level, and a text that fails. -/
theorem filter_of_debug :
    (∃ f, ({ standard with logLevel := "debug" } : Settings).filter 30 = .ok f ∧
      Log.lines f (Traced.announce (.ok standard) "Recipe.cheap" "SELECT 1").records =
        (Log.Record.running "Recipe.cheap" "SELECT 1").line) ∧
    (∃ f, ({ standard with logLevel := "verbose" } : Settings).filter 30 = .ok f ∧
      f.threshold = Log.usualLevel) ∧
    ({ standard with logLevel := "_styles" } : Settings).filter 30 =
      .error (.levelNotNumber Log.formatStyles) := by
  obtain ⟨-, -, hdebug⟩ := filter_of_level { standard with logLevel := "debug" } 30
  obtain ⟨-, -, hverbose⟩ := filter_of_level { standard with logLevel := "verbose" } 30
  obtain ⟨-, hstyles, -⟩ := filter_of_level { standard with logLevel := "_styles" } 30
  obtain ⟨f, hf, -, hwrites⟩ := hdebug (by decide) (by decide)
  obtain ⟨g, hg, hlevel, -⟩ := hverbose (by decide) (by decide)
  refine ⟨⟨f, hf, (hwrites _ _ _).2 (.inl (by decide)) standard rfl rfl⟩, ⟨g, hg, ?_⟩,
    hstyles (by decide)⟩
  rcases hlevel with hnamed | ⟨-, husual⟩
  · have hname : Log.upperCase "verbose" ∈ Log.levels.map Prod.fst := List.mem_map_of_mem hnamed
    exact absurd hname (by decide)
  · exact husual

/-- The name of the format of a line is taken for that of a level, and fails. -/
theorem filter_of_line_format :
    ∃ s, read [("SQLFINDER_LOG_LEVEL", "basic_format")] none = .ok s ∧
      s.filter 30 = .error (.unknownLevel "%(levelname)s:%(name)s:%(message)s") ∧
      ¬∃ f, s.filter 30 = .ok f := by
  refine ⟨{ standard with logLevel := "basic_format" }, ?_, ?_, ?_⟩
  · rfl
  · rfl
  · rintro ⟨f, hf⟩
    nomatch hf

end Settings

end NamedQuery
