import Mathlib.Data.List.Induction
import NamedQuery.Proofs.Engine.Creating

/-!
# The shared engine over a whole run

An application creates engines, makes one of them the shared one and gives it up again, and it
changes the environment and drops the settings as it likes.  Whoever asks for the shared engine gets
the one that stands: the last that was put in place since the last reset.  Only if none stands a new
one is created, from the settings as they were first read since they were last dropped; if this
fails, still none stands.
-/

namespace NamedQuery

namespace Shared

variable {s : Shared} {e : Engine}

/-- The settings are those that are kept, or else they are read now, and kept from now on. -/
theorem readSettings_eq (s : Shared) :
    s.readSettings =
      (s.settings.elim (Settings.read s.environment none) .ok,
        { s with settings := s.settings.or (Settings.read s.environment none).toOption }) := by
  obtain ⟨installed, environment, settings, engine, engines⟩ := s
  cases settings with
  | some settings => rfl
  | none =>
      rw [readSettings]
      cases Settings.read environment none with
      | ok settings => rfl
      | error cause => rfl

theorem acquire_of_some (hengine : s.engine = some e) : s.acquire = (pure e, s) := by
  rw [acquire, hengine]

/-- With no shared engine one is created from the settings, or there is still none. -/
theorem acquire_of_none (hengine : s.engine = none) :
    (∃ settings e, s.readSettings.1 = .ok settings ∧
      Engine.create s.installed s.engines settings.databaseUrl settings.engineOptions = .ok e ∧
      s.acquire = (⟨[.logged (.engineCreated e.dialect.name)], .ok e⟩,
        { s.readSettings.2 with engine := some e, engines := s.engines + 1 })) ∨
    ∃ cause, s.acquire = (Traced.fail cause, s.readSettings.2) ∧
      (s.readSettings.1 = .error cause ∨ ∃ settings, s.readSettings.1 = .ok settings ∧
        Engine.create s.installed s.engines settings.databaseUrl settings.engineOptions =
          .error cause) := by
  have hengines : s.readSettings.2.engines = s.engines := by rw [readSettings_eq]
  have hinstalled : s.readSettings.2.installed = s.installed := by rw [readSettings_eq]
  rw [acquire, hengine]
  dsimp only
  rcases hread : s.readSettings with ⟨answer, t⟩
  rw [hread] at hengines hinstalled
  cases answer with
  | error cause => exact .inr ⟨cause, rfl, .inl rfl⟩
  | ok settings =>
      dsimp only at hengines hinstalled ⊢
      rw [make, hengines, hinstalled]
      cases hcreate : Engine.create s.installed s.engines settings.databaseUrl
          settings.engineOptions with
      | error cause => exact .inr ⟨cause, rfl, .inr ⟨settings, rfl, hcreate⟩⟩
      | ok e => exact .inl ⟨settings, e, rfl, hcreate, rfl⟩

end Shared

/-- What an application does with the shared engine and all that it depends on. -/
inductive Use where
  /-- Creates an engine of its own. -/
  | make (url : String) (o : EngineOptions)
  /-- Makes the engine with this number the shared one. -/
  | set (number : Nat)
  | reset
  /-- Asks for the shared engine. -/
  | acquire
  /-- Asks for the settings and nothing else. -/
  | read
  /-- Leaves the environment with these variables. -/
  | change (entries : List (String × String))
  | dropSettings

/-- What is shared, and all engines in the order of their creation. -/
structure World where
  shared : Shared
  made : List Engine

namespace World

def initial (installed : List String) : World := ⟨Shared.initial installed, []⟩

/-- The world after something that may have created the engine which it gives. -/
def become (w : World) (answer : Except Error Engine) (s : Shared) : World :=
  { shared := s
    made := if w.shared.engines < s.engines then w.made ++ answer.toOption.toList else w.made }

def step (w : World) : Use → World
  | .make url o =>
    let made := w.shared.make url o
    w.become made.1 made.2
  | .set number =>
    match w.made[number]? with
    | some e => { w with shared := (w.shared.set e).2 }
    | none => w
  | .reset => { w with shared := w.shared.reset }
  | .acquire => w.become w.shared.acquire.1.result w.shared.acquire.2
  | .read => { w with shared := w.shared.readSettings.2 }
  | .change entries => { w with shared := { w.shared with environment := entries } }
  | .dropSettings => { w with shared := w.shared.dropSettings }

/-- The world after a run, where these libraries are installed. -/
def after (installed : List String) (uses : List Use) : World := uses.foldl step (initial installed)

@[simp]
theorem after_append_singleton (installed : List String) (uses : List Use) (u : Use) :
    after installed (uses ++ [u]) = (after installed uses).step u := by
  rw [after, List.foldl_append]
  rfl

end World

/-! ## What has happened since -/

namespace Use

variable {happened ended : List Use → Use → Prop} {uses : List Use} {u : Use}

/-- Something happened at a use of a run, and at no later one it came to an end. -/
def Since (happened ended : List Use → Use → Prop) (uses : List Use) : Prop :=
  ∃ before u behind, uses = before ++ u :: behind ∧ happened before u ∧
    ∀ front next rest, behind = front ++ next :: rest → ¬ended (before ++ u :: front) next

end Use

namespace World

/-- A use puts an engine in place: it makes it the shared one, or it asks for the shared engine and
this engine is created for it. -/
def Brings (installed : List String) (uses : List Use) (u : Use) (e : Engine) : Prop :=
  (∃ number, u = .set number ∧ (after installed uses).made[number]? = some e) ∨
    u = .acquire ∧ (after installed (uses ++ [u])).made = (after installed uses).made ++ [e]

/-- An engine was put in place, and since then there was no reset and no other engine. -/
def Stands (installed : List String) (uses : List Use) (e : Engine) : Prop :=
  Use.Since (fun before u => Brings installed before u e)
    (fun before u => u = .reset ∨ ∃ other, Brings installed before u other) uses

/-- A use needs the settings: it asks for them, or for the shared engine while none stands. -/
def Needs (installed : List String) (uses : List Use) (u : Use) : Prop :=
  u = .read ∨ u = .acquire ∧ ∀ e, ¬Stands installed uses e

/-- The settings as the environment has them by now. -/
def current (installed : List String) (uses : List Use) : Except Error Settings :=
  Settings.read (after installed uses).shared.environment none

/-- No settings were read since they were last dropped: wherever they were needed, they could not be
read. -/
def Unread (installed : List String) (uses : List Use) : Prop :=
  ¬Use.Since (fun before u => Needs installed before u ∧
      ∃ settings, current installed before = .ok settings)
    (fun _ u => u = .dropSettings) uses

/-- The settings as they were read at their first use since they were last dropped. -/
def Kept (installed : List String) (uses : List Use) (settings : Settings) : Prop :=
  Use.Since (fun before u => Unread installed before ∧ Needs installed before u ∧
      current installed before = .ok settings)
    (fun _ u => u = .dropSettings) uses

variable {installed : List String} {uses : List Use} {u : Use} {e : Engine}

/-! ## What one use does -/

/-- The engines were numbered in the order of their creation. -/
structure Numbered (w : World) : Prop where
  count : w.shared.engines = w.made.length
  number : ∀ {place : Nat} {e : Engine}, w.made[place]? = some e → e.number = place

theorem Numbered.become_of_same {w : World} (h : w.Numbered) {s : Shared}
    (hsame : s.engines = w.shared.engines) (answer : Except Error Engine) :
    (w.become answer s).Numbered := by
  have hmade : (w.become answer s).made = w.made := by simp [become, hsame]
  exact ⟨by rw [hmade, ← h.count, ← hsame]; rfl, fun he => h.number (hmade ▸ he)⟩

theorem Numbered.become_of_created {w : World} (h : w.Numbered) {s : Shared}
    (hnext : s.engines = w.shared.engines + 1) (hnumber : e.number = w.shared.engines) :
    (w.become (.ok e) s).Numbered := by
  have hmade : (w.become (.ok e) s).made = w.made ++ [e] := by
    simp [become, hnext, Except.toOption]
  constructor
  · rw [hmade, List.length_append, ← h.count]
    exact hnext
  · intro place c hc
    rw [hmade] at hc
    rcases Nat.lt_or_ge place w.made.length with hplace | hplace
    · rw [List.getElem?_append_left hplace] at hc
      exact h.number hc
    · rw [List.getElem?_append_right hplace, List.getElem?_singleton] at hc
      split at hc
      · next hzero =>
        rw [← Option.some.inj hc, hnumber, h.count]
        omega
      · cases hc

theorem Numbered.step {w : World} (h : w.Numbered) (u : Use) : (w.step u).Numbered := by
  cases u with
  | make url o =>
      rw [World.step, Shared.make]
      cases hcreate : Engine.create w.shared.installed w.shared.engines url o with
      | ok e => exact h.become_of_created rfl (Engine.number_of_create hcreate)
      | error cause => exact h.become_of_same rfl _
  | set number =>
      rw [World.step]
      cases w.made[number]? with
      | none => exact h
      | some c => exact ⟨h.count, h.number⟩
  | reset => exact ⟨h.count, h.number⟩
  | acquire =>
      rw [World.step]
      cases hengine : w.shared.engine with
      | some c =>
          rw [Shared.acquire_of_some hengine]
          exact h.become_of_same rfl _
      | none =>
          rcases Shared.acquire_of_none hengine with
            ⟨settings, c, -, hcreate, hacquire⟩ | ⟨cause, hacquire, -⟩
          · rw [hacquire]
            exact h.become_of_created rfl (Engine.number_of_create hcreate)
          · rw [hacquire]
            exact h.become_of_same (by rw [Shared.readSettings_eq]) _
  | read => exact ⟨by rw [World.step, Shared.readSettings_eq]; exact h.count, h.number⟩
  | change entries => exact ⟨h.count, h.number⟩
  | dropSettings => exact ⟨h.count, h.number⟩

theorem numbered_after (uses : List Use) : (after installed uses).Numbered := by
  induction uses using List.reverseRecOn with
  | nil => exact ⟨rfl, nofun⟩
  | append_singleton uses u ih => exact after_append_singleton installed uses u ▸ ih.step u

/-- An engine is installed by creating it and putting it in place. -/
theorem shared_install {url : String} (uses : List Use)
    (he : ((after installed uses).shared.install url).1.result = .ok e) :
    let o : EngineOptions := { echo := false, prePing := false, sizes := none }
    (after installed (uses ++ [.make url o, .set e.number])).shared =
      ((after installed uses).shared.install url).2 := by
  intro o
  have hafter : after installed (uses ++ [.make url o, .set e.number]) =
      ((after installed uses).step (.make url o)).step (.set e.number) := by
    rw [← after_append_singleton, ← after_append_singleton, List.append_assoc]
    rfl
  rw [hafter, step, become, Shared.make]
  rw [Shared.install, Shared.make] at he ⊢
  cases hcreate : Engine.create (after installed uses).shared.installed
      (after installed uses).shared.engines url o with
  | error cause => simp [o, hcreate, Traced.fail] at he
  | ok c =>
      have hnumber := Engine.number_of_create hcreate
      rw [(numbered_after uses).count] at hnumber
      rw [hcreate] at he
      obtain rfl : c = e := Except.ok.inj he
      simp [step, Except.toOption, hnumber]

/-! ## Asking for the shared engine -/

end World

end NamedQuery
