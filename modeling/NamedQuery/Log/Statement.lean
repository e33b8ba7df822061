import NamedQuery.Settings
import NamedQuery.Trace

/-!
# Statements in the log

A statement is reported before it runs, if the settings ask for it.  They are looked up each time,
and no statement runs where they cannot be read.
-/

namespace NamedQuery.Traced

/-- Asks for the settings: those that are kept, or else what reading them now gives. -/
def consult (settings : Except Error Settings) : Traced Settings := ⟨[.consulted], settings⟩

/-- Reports that a statement is about to run; `label` names the finder. -/
def announce (settings : Except Error Settings) (label sql : String) : Traced Unit := do
  let s ← consult settings
  if s.logSql then log (.running label sql) else pure ()

variable {label sql : String}

theorem announce_ok (s : Settings) : announce (.ok s) label sql =
    ⟨.consulted :: if s.logSql then [.logged (.running label sql)] else [], .ok ()⟩ := by
  rw [announce, bind_of_ok rfl]
  split <;> rfl

theorem announce_error (e : Error) : announce (.error e) label sql = ⟨[.consulted], .error e⟩ := rfl

end NamedQuery.Traced
