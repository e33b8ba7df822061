import NamedQuery.Finder.Call
import NamedQuery.Proofs.Finder.Rendering
import NamedQuery.Proofs.Statement.Parameters

/-!
# Statements with their values

What a statement reads once literals stand in the places of its markers.  Each scanned text is
filled in one pass: what a literal says is never looked at, and no marker is looked for in a text
that is copied.
-/

namespace NamedQuery

/-- What stands for a mark once its name has a literal. -/
def Marker.Mark.filled (literal : String → String) : Mark → List Glyph
  | .glyph g => [g]
  | .name cs => Glyph.ofText (literal (String.ofList cs))

/-- A text with all markers replaced by literals. -/
def Marker.filled (literal : String → String) (gs : List Glyph) : List Glyph :=
  (scan gs).flatMap (Mark.filled literal)

def Symbol.filled (literal : String → String) : Symbol → List Glyph
  | .glyph g => [g]
  | .slot s => Glyph.ofText (literal s.name)

namespace Template

/-- A template with all slots replaced by literals. -/
def filled (literal : String → String) (t : Template) : List Glyph :=
  t.symbols.flatMap (Symbol.filled literal)

variable {literal : String → String}

@[simp]
theorem filled_append (t u : Template) :
    (t ++ u).filled literal = t.filled literal ++ u.filled literal := by
  simp [filled]

@[simp]
theorem filled_ofGlyphs (gs : List Glyph) : (ofGlyphs gs).filled literal = gs := by
  simp [filled, List.flatMap_map, Symbol.filled]

@[simp]
theorem filled_literal (s : String) : (Template.literal s).filled literal = Glyph.ofText s :=
  filled_ofGlyphs (Glyph.ofText s)

/-- If every slot is resolved to its literal, the template is rendered. -/
theorem result_renderSymbols {resolve : Slot → Traced String} {symbols : List Symbol}
    (hresolve : ∀ s ∈ symbols.filterMap Symbol.slot?,
      (resolve s).result = .ok (literal s.name)) :
    (renderSymbols resolve symbols).result = .ok (symbols.flatMap (Symbol.filled literal)) := by
  induction symbols with
  | nil => rfl
  | cons symbol rest ih =>
      cases symbol with
      | glyph g =>
          have hrest := ih fun s hs => hresolve s (by simpa [Symbol.slot?] using hs)
          rw [renderSymbols, Traced.bind_of_ok hrest]
          rfl
      | slot s =>
          have hfirst := hresolve s (by simp [Symbol.slot?])
          have hrest := ih fun s hs => hresolve s (by simp [Symbol.slot?, hs])
          rw [renderSymbols, Traced.bind_of_ok hfirst]
          dsimp only
          rw [Traced.bind_of_ok hrest]
          rfl

end Template

namespace Binder

variable {literal : String → String}

theorem filled_bindMarks (b : Binder) (marks : List Marker.Mark) :
    (b.bindMarks marks).1.flatMap (Symbol.filled literal) =
      marks.flatMap (Marker.Mark.filled literal) := by
  induction marks generalizing b with
  | nil => rfl
  | cons mark rest ih =>
      cases mark with
      | glyph g => simp [bindMarks, Symbol.filled, Marker.Mark.filled, ih]
      | name cs => simp [bindMarks, Symbol.filled, slot, Marker.Mark.filled, ih]

/-- Whatever a binder knows, its template is filled like the text. -/
@[simp]
theorem filled_bindGlyphs (b : Binder) (gs : List Glyph) :
    (b.bindGlyphs gs).1.filled literal = Marker.filled literal gs :=
  b.filled_bindMarks (Marker.scan gs)

end Binder

/-! ## Whole statements -/

/-- The words of a clause and its text, unless it is absent. -/
def clauseText (words : String) (clause : Option (List Glyph)) : List Glyph :=
  clause.elim [] (Glyph.ofText words ++ ·)

/-- All conditions, each one in parentheses. -/
def whereText (conditions : List (List Glyph)) : List Glyph :=
  if conditions.isEmpty then []
  else
    Glyph.ofText " WHERE " ++ (Glyph.ofText " AND ").intercalate
      (conditions.map fun c => Glyph.ofText "(" ++ c ++ Glyph.ofText ")")

/-- A statement with its bounds in the words of the backend. -/
def Paging.written (p : Paging) (body : List Glyph) (limit offset : Option (List Glyph)) :
    List Glyph :=
  let bounds := clauseText " LIMIT " limit ++ clauseText " OFFSET " offset
  match p, limit, offset with
  | _, none, none => body
  | .fixed .wrap, _, _ =>
    Glyph.ofText "SELECT * FROM (" ++ body ++ Glyph.ofText ") q" ++ bounds
  | .fixed .comma, some l, some o =>
    body ++ Glyph.ofText " LIMIT " ++ o ++ Glyph.ofText ", " ++ l
  | .mapped d, none, some o =>
    body ++ clauseText " LIMIT " (d.endlessLimit.map Glyph.ofText) ++ clauseText " OFFSET " (some o)
  | _, _, _ => body ++ bounds

/-- A stretch with literals for the names of its markers. -/
def Stretch.filled (literal : String → String) (s : Stretch) : List Glyph :=
  Glyph.ofText s.lead ++ if s.scanned then Marker.filled literal s.body else s.body

theorem Binder.filled_bindStretches (b : Binder) (ss : List Stretch)
    (literal : String → String) :
    (b.bindStretches ss).1.filled literal = ss.flatMap (Stretch.filled literal) := by
  induction ss generalizing b with
  | nil => rfl
  | cons s rest ih =>
      have hstretch : (b.bindStretch s).1.filled literal =
          if s.scanned then Marker.filled literal s.body else s.body := by
        unfold bindStretch
        cases s.scanned with
        | true => exact b.filled_bindGlyphs s.body
        | false => exact Template.filled_ofGlyphs s.body
      simp [bindStretches, ih, hstretch, Stretch.filled]

theorem Binder.filled_bindOptional (b : Binder) (bound : Option (List Glyph))
    (literal : String → String) :
    (b.bindOptional bound).1.map (Template.filled literal) =
      bound.map (Marker.filled literal) := by
  cases bound with
  | none => rfl
  | some gs => exact congrArg some (b.filled_bindGlyphs gs)

namespace Layout

/-- The statement with literals for the names of its markers.  The texts of SELECT, FROM, JOIN and
the restriction are copied. -/
def written (l : Layout) (p : Paging) (literal : String → String) : List Glyph :=
  let filled := Option.map (Marker.filled literal)
  let body :=
    Glyph.ofText "SELECT " ++ l.select ++ Glyph.ofText " FROM " ++ l.tables ++
      clauseText " " l.joins ++
      whereText ((filled l.conditions).toList ++ l.restriction.toList) ++
      clauseText " GROUP BY " (filled l.group) ++ clauseText " ORDER BY " (filled l.order)
  p.written body (filled l.limit) (filled l.offset)

theorem filled_suffixed (t : Template) (limit offset : Option Template)
    (literal : String → String) :
    (FixedBackend.suffixed t limit offset).filled literal =
      t.filled literal ++ (clauseText " LIMIT " (limit.map (Template.filled literal)) ++
        clauseText " OFFSET " (offset.map (Template.filled literal))) := by
  have hbound (keyword : String) (bound : Option Template) :
      (FixedBackend.boundText keyword bound).filled literal =
        clauseText keyword (bound.map (Template.filled literal)) := by
    cases bound with
    | none => rfl
    | some t => simp [FixedBackend.boundText, clauseText]
  simp only [FixedBackend.suffixed, Template.filled_append, hbound, List.append_assoc]

theorem filled_apply (p : Paging) (t : Template) {limit offset : Option Template}
    (hbounded : (limit.isNone && offset.isNone) = false) (literal : String → String) :
    (p.apply t limit offset).filled literal =
      p.written (t.filled literal) (limit.map (Template.filled literal))
        (offset.map (Template.filled literal)) := by
  cases p with
  | mapped d =>
      have hplain : (Paging.mapped d).enclosed t = t := rfl
      rw [Paging.apply_eq_suffixed rfl, filled_suffixed, hplain]
      cases limit with
      | some l => simp [Paging.limit, Paging.written]
      | none =>
          cases offset with
          | none => cases hbounded
          | some o => simp [Paging.limit, Paging.endless, Paging.written, Function.comp_def]
  | fixed style =>
      cases style with
      | suffix =>
          have hplain : (Paging.fixed .suffix).enclosed t = t := rfl
          rw [Paging.apply_eq_suffixed rfl, filled_suffixed, hplain, Paging.limit_fixed]
          cases limit <;> cases offset <;> simp [Paging.written] at hbounded ⊢
      | wrap =>
          have hwrapped : (Paging.fixed .wrap).enclosed t =
              Template.literal "SELECT * FROM (" ++ t ++ Template.literal ") q" := rfl
          rw [Paging.apply_eq_suffixed rfl, filled_suffixed, hwrapped, Paging.limit_fixed]
          cases limit <;> cases offset <;> simp [Paging.written] at hbounded ⊢
      | comma =>
          cases limit with
          | none =>
              cases offset with
              | none => cases hbounded
              | some o => exact filled_suffixed t none (some o) literal
          | some l =>
              cases offset with
              | none => exact filled_suffixed t (some l) none literal
              | some o => simp [Paging.apply, FixedBackend.paginate, Paging.written]

theorem filled_optional (lead : String) (scanned : Bool) (clause : Option (List Glyph))
    (literal : String → String) :
    (optional lead scanned clause).flatMap (Stretch.filled literal) =
      clauseText lead (if scanned then clause.map (Marker.filled literal) else clause) := by
  cases clause with
  | none => cases scanned <;> rfl
  | some gs => cases scanned <;> simp [optional, Stretch.filled, clauseText]

theorem filled_whereStretches (l : Layout) (literal : String → String) :
    l.whereStretches.flatMap (Stretch.filled literal) =
      whereText ((l.conditions.map (Marker.filled literal)).toList ++ l.restriction.toList) := by
  have hopen : Glyph.ofText " WHERE (" = Glyph.ofText " WHERE " ++ Glyph.ofText "(" := rfl
  have hand : Glyph.ofText ") AND (" =
      Glyph.ofText ")" ++ (Glyph.ofText " AND " ++ Glyph.ofText "(") := rfl
  unfold whereStretches
  cases l.conditions with
  | none =>
      cases l.restriction with
      | none => rfl
      | some r => simp [Stretch.filled, whereText, List.intercalate, hopen]
  | some c =>
      cases l.restriction with
      | none => simp [Stretch.filled, whereText, List.intercalate, hopen]
      | some r => simp [Stretch.filled, whereText, List.intercalate, hopen, hand]

/-- Assembled and filled, a statement reads as it is written. -/
theorem filled_statement (l : Layout) {backend : Backend} {p : Paging}
    (hpaging : backend.paginate = p.apply) (b : Binder) (literal : String → String) :
    (l.statement backend b).1.filled literal = l.written p literal := by
  have hbody : (b.bindStretches l.stretches).1.filled literal =
      Glyph.ofText "SELECT " ++ l.select ++ Glyph.ofText " FROM " ++ l.tables ++
        clauseText " " l.joins ++
        whereText ((l.conditions.map (Marker.filled literal)).toList ++ l.restriction.toList) ++
        clauseText " GROUP BY " (l.group.map (Marker.filled literal)) ++
        clauseText " ORDER BY " (l.order.map (Marker.filled literal)) := by
    rw [Binder.filled_bindStretches]
    simp [stretches, laterStretches, filled_optional, filled_whereStretches, Stretch.filled]
  cases hbounded : l.isBounded with
  | true =>
      have hsome : (l.limit.isNone && l.offset.isNone) = false :=
        (Bool.not_eq_true' _).mp hbounded
      rw [statement_of_bounded hbounded hpaging b, filled_apply p _ _ literal, hbody,
        Binder.filled_bindOptional, Binder.filled_bindOptional]
      · rfl
      · rw [Binder.isNone_bindOptional, Binder.isNone_bindOptional, hsome]
  | false =>
      obtain ⟨hlimit, hoffset⟩ := isBounded_eq_false.mp hbounded
      rw [statement_of_unbounded hbounded backend b, hbody, written, hlimit, hoffset]
      rfl

end Layout

end NamedQuery
