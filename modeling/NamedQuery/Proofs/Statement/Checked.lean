import NamedQuery.Proofs.Statement.Parameters

/-!
# The layout of checked options

Checked options hold texts and bounds only, so their layout can be read off.  It takes from the
backend what they leave to it: the table and the restriction to the type of the model.
-/

namespace NamedQuery

/-- The restriction that statements of a backend get: the root of a hierarchy needs none. -/
def Backend.restriction? (backend : Backend) : Except Error (Option String) :=
  if backend.isHierarchyRoot then .ok none else backend.typeRestriction

/-- What is written for a bound. -/
def Bound.glyphs : Bound → List Glyph
  | count n => Glyph.ofText (toString n)
  | text c => c.glyphs

def Bound.isWritable : Bound → Bool
  | count n => !Numeral.isTooLong n
  | text _ => true

namespace Options

/-- The text of a clause.  An empty one counts as absent. -/
def present (clause : Option Content) : Option (List Glyph) :=
  (clause.filter (· ≠ .text "")).map Content.glyphs

/-- The texts of the statement of checked options. -/
def layout (o : Options) (table : String) (restriction : Option String) : Layout :=
  { select := (present o.select).getD (Glyph.ofText "*")
    tables := (present o.tables).getD (Glyph.ofText table)
    joins := present o.joins
    conditions := present o.conditions
    restriction := (restriction.filter fun s => !s.isEmpty).map Glyph.ofText
    group := present o.group
    order := present o.order
    limit := o.limit.map Bound.glyphs
    offset := o.offset.map Bound.glyphs }

/-- The names of the markers in the texts that are scanned, one for each occurrence. -/
def markers (o : Options) : List String :=
  [present o.conditions, present o.group, present o.order, o.limit.map Bound.glyphs,
    o.offset.map Bound.glyphs].flatMap fun text => text.elim [] Marker.names

theorem names_layout (o : Options) (table : String) (restriction : Option String) :
    (o.layout table restriction).names = o.markers :=
  (o.layout table restriction).names_eq

theorem present_eq (clause : Option Content) :
    present clause =
      if (textValue clause).truthy then some (textValue clause).content.glyphs else none := by
  cases clause with
  | none => rfl
  | some c =>
      cases c with
      | broken points => rfl
      | text s =>
          by_cases hs : s = ""
          · subst hs
            rfl
          · have htruthy : (textValue (some (.text s))).truthy = true := by
              simpa [textValue, Content.toValue, Value.truthy, Value.shallow, Value.plainTruthy,
                String.isEmpty_iff] using hs
            rw [if_pos htruthy]
            simp [present, hs]
            rfl

theorem clauseText_textValue (refusal : Value → Error) (clause : Option Content) :
    Clauses.clauseText refusal (textValue clause) = .ok (present clause) := by
  have hcontent : ∀ c : Content, (textValue (some c)).content? = some c ∧
      (textValue (some c)).content = c := by
    intro c
    cases c with
    | text s => exact ⟨rfl, rfl⟩
    | broken points => exact ⟨rfl, rfl⟩
  rw [Clauses.clauseText, present_eq]
  cases clause with
  | none => rfl
  | some c =>
      rw [(hcontent c).1, (hcontent c).2]
      split
      · rfl
      · rfl

theorem boundText_boundValue {bound : Option Bound}
    (hbound : ∀ b ∈ bound, b.isWritable = true) :
    Clauses.boundText (boundValue bound) = .ok (bound.map Bound.glyphs) := by
  cases bound with
  | none => rfl
  | some b =>
      cases b with
      | text c => cases c <;> rfl
      | count n =>
          have hn : Numeral.isTooLong n = false := by
            simpa [Bound.isWritable] using hbound _ rfl
          have hwritable : (Value.int n).isUnwritable = false := hn
          have htext : (Value.int n).content = .text (toString n) := rfl
          simp [Clauses.boundText, boundValue, Bound.toValue, Value.isNull, Value.written,
            hwritable, htext, Bound.glyphs]

theorem content_select (o : Options) :
    (o.clauses.select.orElse (.str "*")).content.glyphs =
      (present o.select).getD (Glyph.ofText "*") := by
  have hselect : o.clauses.select = textValue o.select := rfl
  rw [hselect, Value.orElse, present_eq]
  split
  · rfl
  · rfl

theorem tablesText_clauses {o : Options} {backend : Backend} {table : String}
    (htable : present o.tables = none → backend.tableName = .ok table) :
    o.clauses.tablesText backend = .ok ((present o.tables).getD (Glyph.ofText table)) := by
  have htables : o.clauses.tables = textValue o.tables := rfl
  rw [present_eq] at htable ⊢
  rw [Clauses.tablesText, htables]
  by_cases htruthy : (textValue o.tables).truthy = true
  · rw [if_pos htruthy, if_pos htruthy]
    rfl
  · rw [if_neg htruthy] at htable ⊢
    rw [htable rfl, if_neg htruthy]
    rfl

theorem restrictionText_of_restriction? {backend : Backend} {restriction : Option String}
    (hrestriction : backend.restriction? = .ok restriction) :
    Clauses.restrictionText backend =
      .ok ((restriction.filter fun s => !s.isEmpty).map Glyph.ofText) := by
  rw [Backend.restriction?] at hrestriction
  rw [Clauses.restrictionText]
  by_cases hroot : backend.isHierarchyRoot = true
  · rw [if_pos hroot] at hrestriction ⊢
    obtain rfl := Except.ok.inj hrestriction
    rfl
  · rw [if_neg hroot] at hrestriction ⊢
    rw [hrestriction]
    rfl

/-- Checked options are laid out if the backend has what they leave to it and their bounds can be
written. -/
theorem layout_clauses {o : Options} {backend : Backend} {table : String}
    {restriction : Option String}
    (htable : present o.tables = none → backend.tableName = .ok table)
    (hrestriction : backend.restriction? = .ok restriction)
    (hlimit : ∀ b ∈ o.limit, b.isWritable = true)
    (hoffset : ∀ b ∈ o.offset, b.isWritable = true) :
    o.clauses.layout backend = .ok (o.layout table restriction) := by
  rw [Clauses.layout, tablesText_clauses htable, restrictionText_of_restriction? hrestriction,
    content_select]
  simp only [clauses, clauseText_textValue, boundText_boundValue hlimit,
    boundText_boundValue hoffset]
  rfl

end Options

end NamedQuery
