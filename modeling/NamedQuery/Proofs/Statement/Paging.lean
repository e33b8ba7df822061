import NamedQuery.Backend.Fixed
import NamedQuery.Dialect
import NamedQuery.Proofs.Statement.Layout

/-!
# Bounds behind statements

The backends of models write bounds in few ways.  All of them add fixed words to the statement and
to its bounds; only one of them puts the offset before the limit.
-/

namespace NamedQuery

/-- A way in which the backend of a model writes bounds. -/
inductive Paging where
  | fixed (style : PaginationStyle)
  | mapped (dialect : Dialect)
deriving DecidableEq, Repr

namespace Paging

def apply : Paging → Template → Option Template → Option Template → Template
  | fixed style => FixedBackend.paginate style
  | mapped d => d.paginate

/-- Whether the limit stands before the offset. -/
def keepsOrder (p : Paging) : Bool := p ≠ fixed .comma

/-- The limit that has to stand before a lone offset. -/
def endless : Paging → Option String
  | fixed _ => none
  | mapped d => d.endlessLimit

/-- The limit that is written. -/
def limit (p : Paging) : Option Template → Option Template → Option Template
  | some l, _ => some l
  | none, none => none
  | none, some _ => p.endless.map Template.literal

/-- The statement as it stands before its bounds. -/
def enclosed (p : Paging) (t : Template) : Template :=
  if p = fixed .wrap then Template.literal "SELECT * FROM (" ++ t ++ Template.literal ") q" else t

theorem limit_fixed (style : PaginationStyle) (limit offset : Option Template) :
    (fixed style).limit limit offset = limit := by
  cases limit with
  | some l => rfl
  | none =>
      cases offset with
      | none => rfl
      | some o => rfl

theorem paginate_eq_suffixed (d : Dialect) (t : Template) (limit offset : Option Template) :
    d.paginate t limit offset =
      FixedBackend.suffixed t ((mapped d).limit limit offset) offset := by
  have hlimit : d.limitText limit offset =
      FixedBackend.boundText " LIMIT " ((mapped d).limit limit offset) := by
    cases limit with
    | some l => rfl
    | none =>
        cases offset with
        | none => rfl
        | some o =>
            cases hendless : d.endlessLimit with
            | none => simp [Dialect.limitText, limit, endless, hendless, FixedBackend.boundText]
            | some s =>
                simp [Dialect.limitText, limit, endless, hendless, FixedBackend.boundText,
                  Template.literal_append]
  rw [Dialect.paginate, FixedBackend.suffixed, hlimit]
  cases offset with
  | none => rfl
  | some o => rfl

/-- Limit before offset is written in one way, whatever the backend puts before them. -/
theorem apply_eq_suffixed {p : Paging} (hkeeps : p.keepsOrder = true) (t : Template)
    (limit offset : Option Template) :
    p.apply t limit offset =
      FixedBackend.suffixed (p.enclosed t) (p.limit limit offset) offset := by
  cases p with
  | mapped d => exact paginate_eq_suffixed d t limit offset
  | fixed style =>
      rw [limit_fixed]
      cases style with
      | suffix => rfl
      | wrap => rfl
      | comma => cases hkeeps

theorem slots_suffixed (t : Template) (limit offset : Option Template) :
    (FixedBackend.suffixed t limit offset).slots =
      (t ++ limit.getD .empty ++ offset.getD .empty).slots := by
  have hbound (keyword : String) (bound : Option Template) :
      (FixedBackend.boundText keyword bound).slots = (bound.getD .empty).slots := by
    cases bound with
    | none => rfl
    | some t => simp [FixedBackend.boundText]
  simp only [FixedBackend.suffixed, Template.slots_append, hbound]

theorem slots_limit (p : Paging) (limit offset : Option Template) :
    ((p.limit limit offset).getD .empty).slots = (limit.getD .empty).slots := by
  cases limit with
  | some l => rfl
  | none =>
      cases offset with
      | none => rfl
      | some o =>
          rw [Paging.limit]
          cases p.endless with
          | none => rfl
          | some s => exact Template.slots_literal s

theorem slots_apply {p : Paging} (hkeeps : p.keepsOrder = true) (t : Template)
    (limit offset : Option Template) :
    (p.apply t limit offset).slots = (t ++ limit.getD .empty ++ offset.getD .empty).slots := by
  have henclosed : (p.enclosed t).slots = t.slots := by
    unfold enclosed
    split
    · simp
    · rfl
  simp only [apply_eq_suffixed hkeeps, slots_suffixed, Template.slots_append, henclosed,
    slots_limit]

/-- No way of writing bounds adds or loses a slot. -/
theorem perm_slots_apply (p : Paging) (t : Template) (limit offset : Option Template) :
    (p.apply t limit offset).slots.Perm
      (t ++ limit.getD .empty ++ offset.getD .empty).slots := by
  by_cases hkeeps : p.keepsOrder = true
  · exact .of_eq (slots_apply hkeeps t limit offset)
  · obtain rfl : p = fixed .comma := by simpa [keepsOrder] using hkeeps
    cases limit with
    | none => exact .of_eq (slots_suffixed t none offset)
    | some l =>
        cases offset with
        | none => exact .of_eq (slots_suffixed t (some l) none)
        | some o =>
            have hswap : (o.slots ++ l.slots).Perm (l.slots ++ o.slots) := List.perm_append_comm
            simpa [apply, FixedBackend.paginate] using hswap.append_left t.slots

end Paging

theorem Binder.isNone_bindOptional (b : Binder) (bound : Option (List Glyph)) :
    (b.bindOptional bound).1.isNone = bound.isNone := by
  cases bound with
  | none => rfl
  | some gs => rfl

namespace Layout

/-- Whether there is a limit or an offset. -/
def isBounded (l : Layout) : Bool := !(l.limit.isNone && l.offset.isNone)

theorem isBounded_eq_false {l : Layout} :
    l.isBounded = false ↔ l.limit = none ∧ l.offset = none := by
  simp [isBounded]

theorem statement_of_unbounded {l : Layout} (hbounded : l.isBounded = false) (backend : Backend)
    (b : Binder) : l.statement backend b = b.bindStretches l.stretches := by
  obtain ⟨hlimit, hoffset⟩ := isBounded_eq_false.mp hbounded
  simp [statement, hlimit, hoffset, Binder.bindOptional]

theorem statement_of_bounded {l : Layout} (hbounded : l.isBounded = true) {backend : Backend}
    {p : Paging} (hpaging : backend.paginate = p.apply) (b : Binder) :
    let body := b.bindStretches l.stretches
    let limit := body.2.bindOptional l.limit
    let offset := limit.2.bindOptional l.offset
    l.statement backend b = (p.apply body.1 limit.1 offset.1, offset.2) := by
  have hsome : (l.limit.isNone && l.offset.isNone) = false := (Bool.not_eq_true' _).mp hbounded
  intro body limit offset
  simp only [statement, Binder.isNone_bindOptional, hsome, hpaging]
  rfl

end Layout

end NamedQuery
