import NamedQuery.Proofs.Template.Binding
import NamedQuery.Statement

/-!
# The layout of statements

A statement up to its bounds is a row of stretches: each has fixed words in front and a body that
is copied or scanned.  The texts of the bodies do not depend on the binder, so a statement is laid
out first and bound afterwards, stretch by stretch.
-/

namespace NamedQuery

/-- The texts that a statement is put together from. -/
structure Layout where
  select : List Glyph
  tables : List Glyph
  joins : Option (List Glyph)
  conditions : Option (List Glyph)
  /-- The restriction to the type of the model. -/
  restriction : Option (List Glyph)
  group : Option (List Glyph)
  order : Option (List Glyph)
  limit : Option (List Glyph)
  offset : Option (List Glyph)

structure Stretch where
  /-- The words in front. -/
  lead : String
  body : List Glyph
  /-- Whether the body is scanned for markers. -/
  scanned : Bool

namespace Layout

/-- The stretch of a clause that may be absent. -/
def optional (lead : String) (scanned : Bool) (clause : Option (List Glyph)) : List Stretch :=
  (clause.map (Stretch.mk lead · scanned)).toList

/-- The stretches of the WHERE clause, the last of which is a closing parenthesis. -/
def whereStretches (l : Layout) : List Stretch :=
  match l.conditions, l.restriction with
  | none, none => []
  | some c, none => [⟨" WHERE (", c, true⟩, ⟨")", [], false⟩]
  | none, some r => [⟨" WHERE (", r, false⟩, ⟨")", [], false⟩]
  | some c, some r => [⟨" WHERE (", c, true⟩, ⟨") AND (", r, false⟩, ⟨")", [], false⟩]

/-- The stretches behind the SELECT clause. -/
def laterStretches (l : Layout) : List Stretch :=
  ⟨" FROM ", l.tables, false⟩ :: (optional " " false l.joins ++ (l.whereStretches ++
    (optional " GROUP BY " true l.group ++ optional " ORDER BY " true l.order)))

def stretches (l : Layout) : List Stretch := ⟨"SELECT ", l.select, false⟩ :: l.laterStretches

end Layout

namespace Binder

def bindStretch (b : Binder) (s : Stretch) : Template × Binder :=
  if s.scanned then b.bindGlyphs s.body else (Template.ofGlyphs s.body, b)

def bindStretches (b : Binder) : List Stretch → Template × Binder
  | [] => (Template.empty, b)
  | s :: rest =>
    let (body, b) := b.bindStretch s
    let (others, b) := b.bindStretches rest
    (Template.literal s.lead ++ body ++ others, b)

/-- A bound that may be absent. -/
def bindOptional (b : Binder) : Option (List Glyph) → Option Template × Binder
  | none => (none, b)
  | some gs => (some (b.bindGlyphs gs).1, (b.bindGlyphs gs).2)

theorem bindStretches_append (b : Binder) (front back : List Stretch) :
    b.bindStretches (front ++ back) =
      ((b.bindStretches front).1 ++ ((b.bindStretches front).2.bindStretches back).1,
        ((b.bindStretches front).2.bindStretches back).2) := by
  induction front generalizing b with
  | nil => rfl
  | cons s rest ih => simp only [List.cons_append, bindStretches, ih, Template.append_assoc]

end Binder

namespace Layout

/-- The statement that is laid out, and the binder that knows its parameters. -/
def statement (l : Layout) (backend : Backend) (b : Binder) : Template × Binder :=
  let (t, b) := b.bindStretches l.stretches
  let (limit, b) := b.bindOptional l.limit
  let (offset, b) := b.bindOptional l.offset
  (if limit.isNone && offset.isNone then t else backend.paginate t limit offset, b)

end Layout

namespace Clauses

/-- The text of a clause, unless it is absent; `refusal` is the error for what is no text. -/
def clauseText (refusal : Value → Error) (clause : Value) : Except Error (Option (List Glyph)) :=
  if clause.truthy then
    match clause.content? with
    | some c => .ok (some c.glyphs)
    | none => .error (refusal clause)
  else .ok none

def tablesText (c : Clauses) (backend : Backend) : Except Error (List Glyph) :=
  if c.tables.truthy then .ok c.tables.content.glyphs else backend.tableName.map Glyph.ofText

def restrictionText (backend : Backend) : Except Error (Option (List Glyph)) :=
  if backend.isHierarchyRoot then .ok none
  else
    backend.typeRestriction.map fun restriction =>
      (restriction.filter fun s => !s.isEmpty).map Glyph.ofText

def boundText (v : Value) : Except Error (Option (List Glyph)) :=
  if v.isNull then .ok none else v.written fun v => some v.content.glyphs

/-- Lays out the statement of clauses. -/
def layout (c : Clauses) (backend : Backend) : Except Error Layout := do
  let tables ← c.tablesText backend
  let joins ← clauseText .unsupportedPart c.joins
  let conditions ← clauseText .notScannable c.conditions
  let restriction ← restrictionText backend
  let group ← clauseText .notScannable c.group
  let order ← clauseText .notScannable c.order
  let limit ← boundText c.limit
  let offset ← boundText c.offset
  .ok { select := (c.select.orElse (.str "*")).content.glyphs, tables, joins, conditions,
        restriction, group, order, limit, offset }

/-! ## Clauses and their texts -/

theorem tablesClause_eq (c : Clauses) (backend : Backend) :
    c.tablesClause backend =
      (c.tablesText backend).map fun gs => Template.literal "FROM " ++ Template.ofGlyphs gs := by
  unfold tablesClause tablesText
  split
  · rfl
  · cases backend.tableName <;> rfl

theorem verbatim_eq (clause : Value) :
    verbatim clause =
      (clauseText .unsupportedPart clause).map fun o => (o.map Template.ofGlyphs).toList := by
  unfold verbatim clauseText
  split
  · cases clause.content? <;> rfl
  · rfl

theorem scanned_eq (clause : Value) (b : Binder) :
    scanned clause b =
      (clauseText .notScannable clause).map fun o =>
        ((b.bindOptional o).1.toList, (b.bindOptional o).2) := by
  unfold scanned clauseText
  split
  · cases clause.content? <;> rfl
  · rfl

theorem restriction_eq (backend : Backend) :
    restriction backend =
      (restrictionText backend).map fun o => (o.map Template.ofGlyphs).toList := by
  unfold restriction restrictionText
  split
  · rfl
  · cases backend.typeRestriction with
    | error e => rfl
    | ok found =>
        cases found with
        | none => rfl
        | some s =>
            cases hempty : s.isEmpty <;>
              simp [Except.map, Option.filter, hempty, Template.literal]

theorem bound_eq (v : Value) (b : Binder) :
    bound v b = (boundText v).map b.bindOptional := by
  unfold bound boundText Value.written
  split
  · rfl
  · split <;> rfl

/-! ## Clauses and stretches -/

theorem bindStretches_copied (lead : String) (clause : Option (List Glyph)) (b : Binder) :
    b.bindStretches (Layout.optional lead false clause) =
      (Template.concat ((clause.map Template.ofGlyphs).toList.map (Template.literal lead ++ ·)),
        b) := by
  cases clause with
  | none => rfl
  | some gs => rfl

theorem bindStretches_scanned (lead : String) (clause : Option (List Glyph)) (b : Binder) :
    b.bindStretches (Layout.optional lead true clause) =
      (Template.concat ((b.bindOptional clause).1.toList.map (Template.literal lead ++ ·)),
        (b.bindOptional clause).2) := by
  cases clause with
  | none => rfl
  | some gs => rfl

theorem literal_opening :
    Template.literal " WHERE (" =
      Template.literal " " ++ (Template.literal "WHERE " ++ Template.literal "(") := by
  rw [← Template.literal_append, ← Template.literal_append]
  rfl

theorem whereClause_singleton (t : Template) :
    Template.concat ((whereClause [t]).map (Template.literal " " ++ ·)) =
      Template.literal " WHERE (" ++ t ++ Template.literal ")" := by
  simp [whereClause, Template.join, parenthesized, Template.concat, literal_opening,
    Template.append_assoc, Template.append_empty]

theorem whereClause_pair (t u : Template) :
    Template.concat ((whereClause [t, u]).map (Template.literal " " ++ ·)) =
      Template.literal " WHERE (" ++ t ++ Template.literal ") AND (" ++ u ++
        Template.literal ")" := by
  have hand : Template.literal ") AND (" =
      Template.literal ")" ++ (Template.literal " AND " ++ Template.literal "(") := by
    rw [← Template.literal_append, ← Template.literal_append]
    rfl
  simp [whereClause, Template.join, parenthesized, Template.concat, literal_opening, hand,
    Template.append_assoc, Template.append_empty]

theorem bindStretches_where (l : Layout) (b : Binder) :
    b.bindStretches l.whereStretches =
      (Template.concat ((whereClause ((b.bindOptional l.conditions).1.toList ++
          (l.restriction.map Template.ofGlyphs).toList)).map (Template.literal " " ++ ·)),
        (b.bindOptional l.conditions).2) := by
  have hnone : Template.ofGlyphs [] = Template.empty := rfl
  unfold Layout.whereStretches
  cases l.conditions with
  | none =>
      cases l.restriction with
      | none => rfl
      | some r =>
          simp [Binder.bindOptional, whereClause_singleton, Binder.bindStretches,
            Binder.bindStretch, hnone, Template.append_assoc, Template.append_empty]
  | some c =>
      cases l.restriction with
      | none =>
          simp [Binder.bindOptional, whereClause_singleton, Binder.bindStretches,
            Binder.bindStretch, hnone, Template.append_assoc, Template.append_empty]
      | some r =>
          simp [Binder.bindOptional, whereClause_pair, Binder.bindStretches,
            Binder.bindStretch, hnone, Template.append_assoc, Template.append_empty]

theorem concat_headed (keyword : String) (clause : List Template) :
    Template.concat ((headed keyword clause).map (Template.literal " " ++ ·)) =
      Template.concat (clause.map (Template.literal (" " ++ keyword) ++ ·)) := by
  simp only [headed, List.map_map, Function.comp_def, Template.literal_append,
    Template.append_assoc]

/-- The clauses up to ORDER BY, behind each other, are the row of the stretches. -/
theorem bindStretches_stretches (l : Layout) (b : Binder) :
    let conditions := b.bindOptional l.conditions
    let group := conditions.2.bindOptional l.group
    let order := group.2.bindOptional l.order
    b.bindStretches l.stretches =
      (Template.join (Template.literal " ")
        ((Template.literal "SELECT " ++ Template.ofGlyphs l.select) ::
          (Template.literal "FROM " ++ Template.ofGlyphs l.tables) ::
          (l.joins.map Template.ofGlyphs).toList ++
          whereClause (conditions.1.toList ++ (l.restriction.map Template.ofGlyphs).toList) ++
          headed "GROUP BY " group.1.toList ++ headed "ORDER BY " order.1.toList), order.2) := by
  intro conditions group order
  have hfrom : Template.literal " FROM " = Template.literal " " ++ Template.literal "FROM " :=
    Template.literal_append " " "FROM "
  have hgroup := concat_headed "GROUP BY " group.1.toList
  have horder := concat_headed "ORDER BY " order.1.toList
  simp only [List.cons_append, Template.join_cons, List.map_cons, List.map_append,
    Template.concat, Template.concat_append, hgroup, horder]
  simp only [Layout.stretches, Layout.laterStretches, Binder.bindStretches, Binder.bindStretch,
    Binder.bindStretches_append, bindStretches_copied, bindStretches_scanned, bindStretches_where,
    hfrom, Template.append_assoc]
  rfl

/-- Clauses make the statement of their layout, or fail as it does. -/
theorem statement_eq_layout (c : Clauses) (backend : Backend) (b : Binder) :
    c.statement backend b = (c.layout backend).map fun l => l.statement backend b := by
  have hmap {α β : Type} (f : α → β) (x : Except Error α) : x.map f = f <$> x := rfl
  have hok {α β : Type} (a : α) (next : α → Except Error β) : (.ok a >>= next) = next a := rfl
  simp only [statement, body, layout, tablesClause_eq, verbatim_eq, scanned_eq, restriction_eq,
    bound_eq, hmap, hok, bind_map_left, map_bind, bind_assoc]
  -- Both sides ask for the same texts in the same order.
  refine bind_congr fun tables => bind_congr fun joins => bind_congr fun conditions =>
    bind_congr fun restriction => bind_congr fun group => bind_congr fun order =>
    bind_congr fun limit => bind_congr fun offset => ?_
  simp only [Layout.statement, bindStretches_stretches, Except.map_ok]
  rfl

theorem exists_layout {c : Clauses} {backend : Backend} {b after : Binder} {t : Template}
    (hstatement : c.statement backend b = .ok (t, after)) :
    ∃ l, c.layout backend = .ok l ∧ l.statement backend b = (t, after) := by
  rw [statement_eq_layout] at hstatement
  cases hlayout : c.layout backend with
  | error e => simp [hlayout, Except.map] at hstatement
  | ok l => exact ⟨l, rfl, by simpa [hlayout, Except.map] using hstatement⟩

/-- Where a layout has its texts from. -/
theorem texts_of_layout {c : Clauses} {backend : Backend} {l : Layout}
    (hlayout : c.layout backend = .ok l) :
    l.select = (c.select.orElse (.str "*")).content.glyphs ∧
      c.tablesText backend = .ok l.tables ∧ clauseText .unsupportedPart c.joins = .ok l.joins ∧
        restrictionText backend = .ok l.restriction := by
  simp only [layout, bind_eq_ok] at hlayout
  obtain ⟨tables, htables, joins, hjoins, _, -, restriction, hrestriction, _, -, _, -, _, -, _, -,
    hl⟩ := hlayout
  obtain rfl := Except.ok.inj hl
  exact ⟨rfl, htables, hjoins, hrestriction⟩

end Clauses

end NamedQuery
