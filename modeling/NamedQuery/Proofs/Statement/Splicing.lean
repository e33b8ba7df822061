import NamedQuery.Finder.Call
import NamedQuery.Proofs.Statement.Paging
import NamedQuery.Proofs.Text.Unquoted

/-!
# Statements around a piece of text

The restriction to a type is one piece of text in a statement.  Everything before it and everything
behind it, slots and bounds included, is the same whatever the restriction says, and so is all that
rendering does: what two restrictions make of one layout differs in this piece only, and it does
differ in it.
-/

namespace NamedQuery

/-- Three computations behind each other may be grouped in any way. -/
instance Traced.instLawfulMonad : LawfulMonad Traced :=
  LawfulMonad.mk' Traced
    (fun t => by
      rw [Traced.map_eq]
      cases t with
      | mk events result => cases result <;> rfl)
    (fun a next => rfl)
    (fun t next last => by
      cases ht : t.result with
      | error e => rw [Traced.bind_of_error ht, Traced.bind_of_error rfl, Traced.bind_of_error ht]
      | ok a =>
          rw [Traced.bind_of_ok ht, Traced.bind_of_ok ht]
          cases hnext : (next a).result with
          | error e => rw [Traced.bind_of_error rfl, Traced.bind_of_error hnext]
          | ok b =>
              rw [Traced.bind_of_ok rfl, Traced.bind_of_ok hnext]
              simp)

namespace Template

variable {M : Type → Type} [Monad M] [LawfulMonad M]

theorem renderSymbols_glyphs (resolve : Slot → M String) (gs : List Glyph) :
    renderSymbols resolve (gs.map .glyph) = pure gs := by
  induction gs with
  | nil => rfl
  | cons g rest ih => simp [renderSymbols, ih]

theorem renderSymbols_append (resolve : Slot → M String) (front back : List Symbol) :
    renderSymbols resolve (front ++ back) =
      renderSymbols resolve front >>= fun gs => (gs ++ ·) <$> renderSymbols resolve back := by
  induction front with
  | nil => simp [renderSymbols]
  | cons symbol rest ih =>
      cases symbol with
      | glyph g => simp [renderSymbols, ih]
      | slot s => simp [renderSymbols, ih]

/-- What is rendered before and behind a piece of text that has no slots. -/
def renderAround (front back : Template) (resolve : Slot → M String) :
    M (List Glyph × List Glyph) := do
  let before ← renderSymbols resolve front.symbols
  let behind ← renderSymbols resolve back.symbols
  pure (before, behind)

end Template

/-- A text between what stands around it. -/
def Glyph.spliced (text : String) (around : List Glyph × List Glyph) : String :=
  toText (around.1 ++ (ofText text ++ around.2))

theorem Template.render_splice {M : Type → Type} [Monad M] [LawfulMonad M] (front : Template)
    (text : String) (back : Template) (resolve : Slot → M String) :
    (front ++ literal text ++ back).render resolve =
      Glyph.spliced text <$> renderAround front back resolve := by
  simp [render, renderAround, literal, renderSymbols_append, renderSymbols_glyphs, Glyph.spliced]

/-! ## What is shown around a text -/

/-- One more code point shows as one more character, or makes one with the half behind it. -/
theorem Text.length_joined_cons (n : Nat) (points : List Nat) :
    (joined points).length ≤ (joined (n :: points)).length ∧
      (joined (n :: points)).length ≤ (joined points).length + 1 := by
  induction points generalizing n with
  | nil => simp [joined]
  | cons low rest ih =>
      obtain ⟨hmore, hone⟩ := ih low
      rw [joined]
      split <;> simp only [List.length_cons] <;> omega

/-- Halves at the seam may make one character. -/
theorem Text.length_joined_append (front back : List Nat) :
    (joined (front ++ back)).length ≤ (joined front).length + (joined back).length := by
  fun_induction joined front with
  | case1 high low rest hpair ih =>
      simp only [List.cons_append, joined, if_pos hpair, List.length_cons]
      omega
  | case2 high low rest hpair ih =>
      rw [List.cons_append, List.cons_append, joined, if_neg hpair, List.length_cons,
        List.length_cons, ← List.cons_append]
      omega
  | case3 n =>
      have hone := (length_joined_cons n back).2
      rw [List.length_singleton, List.singleton_append]
      omega
  | case4 => simp

/-- Between the same glyphs no two texts show the same. -/
theorem Glyph.spliced_injective (around : List Glyph × List Glyph) :
    Function.Injective fun text => spliced text around := by
  -- without a text in between, halves of a character may meet; then less is shown, never more
  have hlonger {text : String} (htext : text ≠ "") :
      spliced "" around ≠ spliced text around := by
    intro heq
    have hshort : (spliced "" around).toList.length ≤
        (toText around.1).toList.length + (toText around.2).toList.length := by
      simpa [spliced, toText, ofText] using
        Text.length_joined_append (around.1.map point) (around.2.map point)
    have hlong : (spliced text around).toList.length = (toText around.1).toList.length +
        (text.toList.length + (toText around.2).toList.length) := by
      rw [spliced, toText_append_text _ htext, List.length_append, List.length_append]
    have hpositive : 0 < text.toList.length :=
      List.length_pos_iff.mpr (mt String.toList_eq_nil_iff.mp htext)
    rw [heq] at hshort
    omega
  intro s t heq
  by_cases hs : s = ""
  · subst hs
    by_contra ht
    exact hlonger (Ne.symm ht) heq
  · by_cases ht : t = ""
    · subst ht
      exact absurd heq.symm (hlonger hs)
    · have hlists := congrArg String.toList heq
      simp only [spliced, toText_append_text _ hs, toText_append_text _ ht] at hlists
      exact String.toList_injective (List.append_cancel_right (List.append_cancel_left hlists))

/-! ## Layouts -/

/-- The words that join a restriction to the statement, and the restriction between them. -/
def Layout.conjoined (words : String) (restriction : Option (List Glyph)) : List Glyph :=
  restriction.elim [] fun gs => Glyph.ofText words ++ gs ++ Glyph.ofText ")"

/-- Bounds stand around a statement and do not depend on it. -/
theorem Paging.exists_apply (p : Paging) (limit offset : Option Template) :
    ∃ front back : Template, ∀ t : Template, p.apply t limit offset = front ++ t ++ back := by
  by_cases hkeeps : p.keepsOrder = true
  · have henclosed : ∃ front back : Template, ∀ t : Template,
        p.enclosed t = front ++ t ++ back := by
      by_cases hwraps : p = fixed .wrap
      · exact ⟨_, _, fun t => if_pos hwraps⟩
      · refine ⟨.empty, .empty, fun t => ?_⟩
        rw [enclosed, if_neg hwraps, Template.append_empty, Template.empty_append]
    obtain ⟨front, back, henclosed⟩ := henclosed
    refine ⟨front, back ++ FixedBackend.boundText " LIMIT " (p.limit limit offset) ++
      FixedBackend.boundText " OFFSET " offset, fun t => ?_⟩
    rw [apply_eq_suffixed hkeeps, FixedBackend.suffixed, henclosed]
    simp only [Template.append_assoc]
  · obtain rfl : p = fixed .comma := by simpa [keepsOrder] using hkeeps
    cases limit with
    | none =>
        exact ⟨.empty, _, fun t => Template.append_assoc t _ _⟩
    | some l =>
        cases offset with
        | none => exact ⟨.empty, _, fun t => Template.append_assoc t _ _⟩
        | some o =>
            refine ⟨.empty,
              Template.literal " LIMIT " ++ o ++ Template.literal ", " ++ l, fun t => ?_⟩
            simp only [apply, FixedBackend.paginate, Template.append_assoc]
            rfl

namespace Layout

/-- The WHERE clause is the one without a restriction, and the restriction behind it. -/
theorem exists_whereStretches (l : Layout) (b : Binder) :
    ∃ front after, ∃ words ∈ [" WHERE (", " AND ("], ∀ restriction : Option (List Glyph),
      b.bindStretches { l with restriction }.whereStretches =
        (front ++ Template.ofGlyphs (conjoined words restriction), after) := by
  have hnone : Template.ofGlyphs [] = Template.empty := rfl
  cases l.conditions with
  | none =>
      refine ⟨.empty, b, " WHERE (", by simp, fun restriction => ?_⟩
      cases restriction with
      | none => simp [whereStretches, Binder.bindStretches, conjoined, hnone,
          Template.append_empty]
      | some r =>
          simp [whereStretches, Binder.bindStretches, Binder.bindStretch, conjoined,
            hnone, Template.ofGlyphs_append, Template.literal, Template.append_assoc,
            Template.append_empty, Template.empty_append]
  | some c =>
      have hand : Glyph.ofText ") AND (" = Glyph.ofText ")" ++ Glyph.ofText " AND (" := rfl
      refine ⟨Template.literal " WHERE (" ++ (b.bindGlyphs c).1 ++ Template.literal ")",
        (b.bindGlyphs c).2, " AND (", by simp, fun restriction => ?_⟩
      cases restriction with
      | none => simp [whereStretches, Binder.bindStretches, Binder.bindStretch, conjoined,
          hnone, Template.append_empty, Template.append_assoc]
      | some r =>
          simp [whereStretches, Binder.bindStretches, Binder.bindStretch, conjoined,
            hnone, hand, Template.ofGlyphs_append, Template.literal, Template.append_assoc,
            Template.append_empty]

theorem exists_stretches (l : Layout) (b : Binder) :
    ∃ front back after, ∃ words ∈ [" WHERE (", " AND ("], ∀ restriction : Option (List Glyph),
      b.bindStretches { l with restriction }.stretches =
        (front ++ Template.ofGlyphs (conjoined words restriction) ++ back, after) := by
  let head := b.bindStretches
    (⟨"SELECT ", l.select, false⟩ :: ⟨" FROM ", l.tables, false⟩ :: optional " " false l.joins)
  obtain ⟨front, middle, words, hwords, hwhere⟩ := l.exists_whereStretches head.2
  let tail := middle.bindStretches
    (optional " GROUP BY " true l.group ++ optional " ORDER BY " true l.order)
  refine ⟨head.1 ++ front, tail.1, tail.2, words, hwords, fun restriction => ?_⟩
  have hstretches : { l with restriction }.stretches =
      (⟨"SELECT ", l.select, false⟩ :: ⟨" FROM ", l.tables, false⟩ ::
        optional " " false l.joins) ++ ({ l with restriction }.whereStretches ++
          (optional " GROUP BY " true l.group ++ optional " ORDER BY " true l.order)) := rfl
  rw [hstretches, Binder.bindStretches_append, Binder.bindStretches_append, hwhere]
  simp only [Template.append_assoc]
  rfl

/-- Whatever the restriction is, the same stands before it and behind it, and the statement has the
same parameters. -/
theorem exists_statement (l : Layout) {backend : Backend} {p : Paging}
    (hpaging : backend.paginate = p.apply) (b : Binder) :
    ∃ front back after, ∃ words ∈ [" WHERE (", " AND ("], ∀ restriction : Option (List Glyph),
      { l with restriction }.statement backend b =
        (front ++ Template.ofGlyphs (conjoined words restriction) ++ back, after) := by
  obtain ⟨front, back, after, words, hwords, hbody⟩ := l.exists_stretches b
  cases hbounded : l.isBounded with
  | false =>
      refine ⟨front, back, after, words, hwords, fun restriction => ?_⟩
      have hlaid : { l with restriction }.isBounded = false := hbounded
      rw [statement_of_unbounded hlaid, hbody]
  | true =>
      let limit := after.bindOptional l.limit
      let offset := limit.2.bindOptional l.offset
      obtain ⟨before, behind, happly⟩ := p.exists_apply limit.1 offset.1
      refine ⟨before ++ front, back ++ behind, offset.2, words, hwords, fun restriction => ?_⟩
      have hlaid : { l with restriction }.isBounded = true := hbounded
      rw [statement_of_bounded hlaid hpaging, hbody, happly]
      simp only [Template.append_assoc]
      rfl

end Layout

namespace Finder

/-- What a finder renders around a piece of text in its template. -/
def around (f : Finder) (backend : Backend) (args : Arguments) (front back : Template) :
    Traced (List Glyph × List Glyph) := do
  Traced.ofExcept (Entrance.render.checkKeywords args.keywords)
  let bindings ← Traced.ofExcept (f.bindArguments args)
  Template.renderAround front back (f.resolve backend bindings)

theorem render_splice (f : Finder) (front : Template) (text : String) (back : Template)
    (backend : Backend) (args : Arguments) :
    { f with template := front ++ Template.literal text ++ back }.render backend args =
      Glyph.spliced text <$> f.around backend args front back := by
  have hfill (bindings : Bindings) :
      { f with template := front ++ Template.literal text ++ back }.fill backend bindings =
        Glyph.spliced text <$> Template.renderAround front back (f.resolve backend bindings) :=
    Template.render_splice front text back _
  simp only [render, around, map_bind, hfill]
  rfl

end Finder

end NamedQuery
