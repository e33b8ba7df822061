import NamedQuery.Log

/-!
# Traced computations

A computation that may fail keeps the list of what it did on the way: the values it had quoted, the
statements it ran, the records it logged and when it asked for the settings.  What was done before a
failure stays in the list.
-/

namespace NamedQuery

inductive Event where
  | quoted (value : Value)
  /-- The settings were asked for. -/
  | consulted
  | executed (sql : String)
  | logged (record : Log.Record)
deriving Repr

/-- A result, or the cause of failure, behind the events that led to it. -/
structure Traced (α : Type) where
  events : List Event
  result : Except Error α

namespace Traced

variable {α β : Type}

def ofExcept (result : Except Error α) : Traced α := ⟨[], result⟩

def emit (event : Event) : Traced Unit := ⟨[event], .ok ()⟩

def log (record : Log.Record) : Traced Unit := emit (.logged record)

def fail (e : Error) : Traced α := ⟨[], .error e⟩

/-- Goes on with `next` unless the first part failed. -/
def andThen (first : Traced α) (next : α → Traced β) : Traced β :=
  match first.result with
  | .ok a => ⟨first.events ++ (next a).events, (next a).result⟩
  | .error e => ⟨first.events, .error e⟩

instance : Monad Traced where
  pure a := ⟨[], .ok a⟩
  bind := andThen

def quotedValues (t : Traced α) : List Value :=
  t.events.filterMap fun
    | .quoted v => some v
    | _ => none

/-- The computation without the values it had quoted. -/
def withoutQuoted (t : Traced α) : Traced α :=
  { t with
    events := t.events.filter fun
      | .quoted _ => false
      | _ => true }

def statements (t : Traced α) : List String :=
  t.events.filterMap fun
    | .executed sql => some sql
    | _ => none

/-- Whether the settings were asked for on the way. -/
def consults (t : Traced α) : Bool :=
  t.events.any fun
    | .consulted => true
    | _ => false

def records (t : Traced α) : List Log.Record :=
  t.events.filterMap fun
    | .logged r => some r
    | _ => none

@[simp]
theorem pure_events (a : α) : (pure a : Traced α).events = [] := rfl

@[simp]
theorem pure_result (a : α) : (pure a : Traced α).result = .ok a := rfl

theorem bind_of_ok {t : Traced α} {a : α} (h : t.result = .ok a) (next : α → Traced β) :
    (t >>= next) = ⟨t.events ++ (next a).events, (next a).result⟩ := by
  simp [bind, andThen, h]

theorem bind_of_error {t : Traced α} {e : Error} (h : t.result = .error e)
    (next : α → Traced β) : (t >>= next) = ⟨t.events, .error e⟩ := by
  simp [bind, andThen, h]

theorem map_eq (f : α → β) (t : Traced α) : f <$> t = ⟨t.events, t.result.map f⟩ := by
  have hbind : f <$> t = t >>= fun a => pure (f a) := rfl
  cases hresult : t.result with
  | error e => rw [hbind, bind_of_error hresult, Except.map]
  | ok a => rw [hbind, bind_of_ok hresult, pure_events, List.append_nil, pure_result, Except.map]

@[simp]
theorem ofExcept_ok_bind (a : α) (next : α → Traced β) : (ofExcept (.ok a) >>= next) = next a := rfl

/-- What is done by a computation in two parts is done by one of them. -/
theorem mem_events_bind {t : Traced α} {next : α → Traced β} {event : Event}
    (h : event ∈ (t >>= next).events) : event ∈ t.events ∨ ∃ a, event ∈ (next a).events := by
  cases hfirst : t.result with
  | error e =>
    rw [bind_of_error hfirst] at h
    exact .inl h
  | ok a =>
    rw [bind_of_ok hfirst] at h
    exact (List.mem_append.mp h).imp_right fun hlater => ⟨a, hlater⟩

/-- A computation in two parts gives a result exactly if both parts do. -/
theorem bind_result_eq_ok {t : Traced α} {next : α → Traced β} {b : β} :
    (t >>= next).result = .ok b ↔ ∃ a, t.result = .ok a ∧ (next a).result = .ok b := by
  constructor
  · intro hok
    cases hfirst : t.result with
    | ok a =>
      rw [bind_of_ok hfirst] at hok
      exact ⟨a, rfl, hok⟩
    | error e =>
      rw [bind_of_error hfirst] at hok
      cases hok
  · rintro ⟨a, hfirst, hnext⟩
    rw [bind_of_ok hfirst]
    exact hnext

@[simp]
theorem ofExcept_result (result : Except Error α) : (ofExcept result).result = result := rfl

theorem statements_bind_of_ok {t : Traced α} {a : α} (h : t.result = .ok a)
    (next : α → Traced β) : (t >>= next).statements = t.statements ++ (next a).statements := by
  rw [bind_of_ok h, statements, List.filterMap_append]
  rfl

theorem quotedValues_bind_of_ok {t : Traced α} {a : α} (h : t.result = .ok a)
    (next : α → Traced β) :
    (t >>= next).quotedValues = t.quotedValues ++ (next a).quotedValues := by
  rw [bind_of_ok h, quotedValues, List.filterMap_append]
  rfl

/-- A second part that runs no statement leaves those of the first one. -/
theorem statements_bind_of_quiet {t : Traced α} {next : α → Traced β}
    (hnext : ∀ a, (next a).statements = []) : (t >>= next).statements = t.statements := by
  cases h : t.result with
  | ok a => rw [statements_bind_of_ok h, hnext a, List.append_nil]
  | error e =>
    rw [bind_of_error h]
    rfl

theorem statements_bind_eq_nil {t : Traced α} {next : α → Traced β} (hfirst : t.statements = [])
    (hnext : ∀ a, (next a).statements = []) : (t >>= next).statements = [] :=
  (statements_bind_of_quiet hnext).trans hfirst

end Traced

end NamedQuery
