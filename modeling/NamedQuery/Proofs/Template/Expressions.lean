import Mathlib.Data.List.Forall2
import NamedQuery.Proofs.Statement.Splicing
import NamedQuery.Proofs.Template.Canonical
import NamedQuery.Proofs.Template.Restoring
import NamedQuery.Template.Operand

/-!
# Expressions that make templates

Templates are made from texts, slots and other templates: as a template of pieces behind each other,
as a sum, or by joining with a separator.  Whatever an expression looks like, it makes the template
of all its glyphs and slots in their order; so expressions that read the same make the same
template, and sums may be grouped in any way.
-/

namespace NamedQuery

/-- Related elements stay related when related separators come between them. -/
theorem forall₂_intersperse {α β : Type} {R : α → β → Prop} {a : α} {b : β} (hseparator : R a b)
    {xs : List α} {ys : List β} (hall : List.Forall₂ R xs ys) :
    List.Forall₂ R (xs.intersperse a) (ys.intersperse b) := by
  induction hall with
  | nil => exact .nil
  | cons hfirst hrest ih =>
      cases hrest with
      | nil => exact .cons hfirst .nil
      | cons hsecond hlater =>
          rw [List.intersperse_cons_cons, List.intersperse_cons_cons]
          exact .cons hfirst (.cons hseparator ih)

namespace Operand

/-! ## Operands behind each other -/

theorem toTemplate_toValue (c : Content) :
    toTemplate (.value c.toValue) = .ok (Template.ofContent c) := by
  cases c <;> rfl

/-- The operand stands for the template with these symbols. -/
def StandsFor (o : Operand) (gs : List Symbol) : Prop := o.toTemplate = .ok ⟨gs⟩

variable {operands : List Operand} {symbols : List (List Symbol)}

theorem build_of_stand (hstand : List.Forall₂ StandsFor operands symbols) :
    build operands = .ok ⟨symbols.flatten⟩ := by
  have hmap : operands.mapM toTemplate = .ok (symbols.map Template.mk) := by
    induction hstand with
    | nil => rfl
    | cons hfirst _ ih =>
        rw [StandsFor] at hfirst
        rw [List.mapM_cons, hfirst, ih]
        rfl
  have hconcat : Template.concat (symbols.map Template.mk) = ⟨symbols.flatten⟩ := by
    clear hmap hstand
    induction symbols with
    | nil => rfl
    | cons gs rest ih =>
        rw [List.map_cons, Template.concat, ih]
        rfl
  rw [build, hmap, ← hconcat]
  rfl

theorem join_of_stand {separator : Operand} {gs : List Symbol}
    (hseparator : StandsFor separator gs) (hstand : List.Forall₂ StandsFor operands symbols) :
    join separator operands = .ok ⟨gs.intercalate symbols⟩ :=
  build_of_stand (forall₂_intersperse hseparator hstand)

end Operand

namespace Template

/-! ## Expressions -/

mutual

/-- An expression that makes a template. -/
inductive Expression where
  | new (pieces : List Piece)
  | add (a b : Expression)
  /-- A template and a text behind it. -/
  | addText (a : Expression) (c : Content)
  /-- A text and a template behind it. -/
  | textAdd (c : Content) (b : Expression)
  | join (separator : Content) (pieces : List Piece)

/-- What a template is made from. -/
inductive Piece where
  | text (c : Content)
  | slot (s : Slot)
  | template (e : Expression)

end

mutual

/-- What the operations of an expression make. -/
def Expression.value : Expression → Except Error Operand
  | .new pieces => do
    let operands ← Piece.operands pieces
    .template <$> Operand.build operands
  | .add a b => do
    let left ← a.value
    let right ← b.value
    left.add right
  | .addText a c => do
    let left ← a.value
    left.add (.value c.toValue)
  | .textAdd c b => do
    let right ← b.value
    Operand.add (.value c.toValue) right
  | .join separator pieces => do
    let operands ← Piece.operands pieces
    .template <$> Operand.join (.value separator.toValue) operands

def Piece.operand : Piece → Except Error Operand
  | .text c => .ok (.value c.toValue)
  | .slot s => .ok (.slot s)
  | .template e => e.value

def Piece.operands : List Piece → Except Error (List Operand)
  | [] => .ok []
  | p :: rest => do
    let first ← p.operand
    let later ← Piece.operands rest
    .ok (first :: later)

end

mutual

/-- The glyphs and slots that stand in an expression, from left to right. -/
def Expression.symbols : Expression → List Symbol
  | .new pieces => (Piece.symbolsEach pieces).flatten
  | .add a b => a.symbols ++ b.symbols
  | .addText a c => a.symbols ++ c.glyphs.map .glyph
  | .textAdd c b => c.glyphs.map .glyph ++ b.symbols
  | .join separator pieces => (separator.glyphs.map .glyph).intercalate (Piece.symbolsEach pieces)

def Piece.symbols : Piece → List Symbol
  | .text c => c.glyphs.map .glyph
  | .slot s => [.slot s]
  | .template e => e.symbols

def Piece.symbolsEach : List Piece → List (List Symbol)
  | [] => []
  | p :: rest => p.symbols :: Piece.symbolsEach rest

end

mutual

/-- An expression is never refused, and makes the template of all that stands in it. -/
theorem Expression.value_eq : (e : Expression) → e.value = .ok (.template ⟨e.symbols⟩)
  | .new pieces => by
      obtain ⟨operands, hoperands, hstand⟩ := Piece.exists_operands pieces
      rw [Expression.value, hoperands, Expression.symbols]
      exact congrArg (Operand.template <$> ·) (Operand.build_of_stand hstand)
  | .add a b => by
      rw [Expression.value, a.value_eq, b.value_eq, Expression.symbols]
      rfl
  | .addText a c => by
      rw [Expression.value, a.value_eq, Expression.symbols]
      cases c <;> rfl
  | .textAdd c b => by
      rw [Expression.value, b.value_eq, Expression.symbols]
      cases c <;> rfl
  | .join separator pieces => by
      obtain ⟨operands, hoperands, hstand⟩ := Piece.exists_operands pieces
      have hseparator := Operand.toTemplate_toValue separator
      rw [Expression.value, hoperands, Expression.symbols]
      exact congrArg (Operand.template <$> ·) (Operand.join_of_stand hseparator hstand)

theorem Piece.exists_operand : (p : Piece) →
    ∃ o, p.operand = .ok o ∧ Operand.StandsFor o p.symbols
  | .text c => ⟨.value c.toValue, rfl, Operand.toTemplate_toValue c⟩
  | .slot s => ⟨.slot s, rfl, rfl⟩
  | .template e => ⟨.template ⟨e.symbols⟩, e.value_eq, rfl⟩

theorem Piece.exists_operands : (pieces : List Piece) →
    ∃ operands, Piece.operands pieces = .ok operands ∧
      List.Forall₂ Operand.StandsFor operands (Piece.symbolsEach pieces)
  | [] => ⟨[], rfl, .nil⟩
  | p :: rest => by
      obtain ⟨first, hfirst, hsymbols⟩ := Piece.exists_operand p
      obtain ⟨later, hlater, hstand⟩ := Piece.exists_operands rest
      refine ⟨first :: later, ?_, .cons hsymbols hstand⟩
      rw [Piece.operands, hfirst, hlater]
      rfl

end

/-! ## Parts that are gathered at every operation -/

mutual

/-- The parts of an expression where the parts of all operands are gathered piece by piece, at every
operation again. -/
def Expression.gathered : Expression → List Part
  | .new pieces => (Piece.gatheredEach pieces).flatten.foldl gather []
  | .add a b => (a.gathered ++ b.gathered).foldl gather []
  | .addText a c => (a.gathered ++ [Part.text c]).foldl gather []
  | .textAdd c b => (Part.text c :: b.gathered).foldl gather []
  | .join separator pieces =>
    ([Part.text separator].intercalate (Piece.gatheredEach pieces)).foldl gather []

def Piece.gathered : Piece → List Part
  | .text c => [.text c]
  | .slot s => [.slot s]
  | .template e => e.gathered

def Piece.gatheredEach : List Piece → List (List Part)
  | [] => []
  | p :: rest => p.gathered :: Piece.gatheredEach rest

end

/-- The parts make the template with these symbols. -/
def Makes (parts : List Part) (gs : List Symbol) : Prop := ofParts parts = ⟨gs⟩

variable {pieces : List (List Part)} {symbols : List (List Symbol)}

theorem gather_flatten_of_make (hmake : List.Forall₂ Makes pieces symbols) :
    pieces.flatten.foldl gather [] = (Template.mk symbols.flatten).parts := by
  have hall : ofParts pieces.flatten = ⟨symbols.flatten⟩ := by
    induction hmake with
    | nil => rfl
    | cons hfirst _ ih =>
        rw [Makes] at hfirst
        rw [List.flatten_cons, ofParts_append, hfirst, ih]
        rfl
  rw [← parts_ofParts_eq_foldl, hall]

theorem gather_intercalate_of_make (hmake : List.Forall₂ Makes pieces symbols)
    (separator : Content) :
    ([Part.text separator].intercalate pieces).foldl gather [] =
      (Template.mk ((separator.glyphs.map .glyph).intercalate symbols)).parts := by
  have hseparator : Makes [.text separator] (separator.glyphs.map .glyph) :=
    append_empty (ofContent separator)
  exact gather_flatten_of_make (forall₂_intersperse hseparator hmake)

mutual

/-- Gathering at every operation gives the parts of the template that the expression makes. -/
theorem Expression.gathered_eq : (e : Expression) → e.gathered = (Template.mk e.symbols).parts
  | .new pieces => by
      rw [Expression.gathered, Expression.symbols]
      exact gather_flatten_of_make (Piece.make_gatheredEach pieces)
  | .add a b => by
      rw [Expression.gathered, Expression.symbols, ← parts_ofParts_eq_foldl, ofParts_append,
        a.gathered_eq, b.gathered_eq, ofParts_parts, ofParts_parts]
      rfl
  | .addText a c => by
      rw [Expression.gathered, Expression.symbols, ← parts_ofParts_eq_foldl, ofParts_append,
        a.gathered_eq, ofParts_parts, ofParts_cons, ofParts_nil, append_empty]
      rfl
  | .textAdd c b => by
      rw [Expression.gathered, Expression.symbols, ← parts_ofParts_eq_foldl, ofParts_cons,
        b.gathered_eq, ofParts_parts]
      rfl
  | .join separator pieces => by
      rw [Expression.gathered, Expression.symbols]
      exact gather_intercalate_of_make (Piece.make_gatheredEach pieces) separator

theorem Piece.makes_gathered : (p : Piece) → Makes p.gathered p.symbols
  | .text c => append_empty (ofContent c)
  | .slot s => append_empty (ofSlot s)
  | .template e => by rw [Makes, Piece.gathered, e.gathered_eq, ofParts_parts, Piece.symbols]

theorem Piece.make_gatheredEach : (pieces : List Piece) →
    List.Forall₂ Makes (Piece.gatheredEach pieces) (Piece.symbolsEach pieces)
  | [] => .nil
  | p :: rest => .cons (Piece.makes_gathered p) (Piece.make_gatheredEach rest)

end

/-! ## Joining -/

theorem intercalate_cons {α : Type} (separator first : List α) (later : List (List α)) :
    separator.intercalate (first :: later) = first ++ later.flatMap (separator ++ ·) := by
  induction later generalizing first with
  | nil => simp [List.intercalate]
  | cons second rest ih => rw [List.intercalate_cons_cons, ih, List.flatMap_cons]; simp

theorem Piece.symbolsEach_map_template (es : List Expression) :
    Piece.symbolsEach (es.map .template) = es.map Expression.symbols := by
  induction es with
  | nil => rfl
  | cons e rest ih => exact congrArg (e.symbols :: ·) ih

/-- A sum of templates with the separator between neighbours. -/
def Expression.interleave (separator : Content) (first : Expression) (later : List Expression) :
    Expression :=
  later.foldl (fun sum e => (sum.addText separator).add e) first

theorem Expression.symbols_interleave (separator : Content) (first : Expression)
    (later : List Expression) :
    (interleave separator first later).symbols =
      (Expression.join separator ((first :: later).map .template)).symbols := by
  rw [Expression.symbols, Piece.symbolsEach_map_template, List.map_cons, intercalate_cons]
  induction later generalizing first with
  | nil => simp [interleave]
  | cons e rest ih =>
      have hnext := ih ((first.addText separator).add e)
      rw [interleave, List.foldl_cons]
      rw [interleave] at hnext
      rw [hnext]
      simp [Expression.symbols]

theorem Expression.value_congr {e f : Expression} (hsymbols : e.symbols = f.symbols) :
    e.value = f.value := by
  rw [e.value_eq, f.value_eq, hsymbols]

/-! ## Texts and fillings of sums -/

theorem text_eq (t : Template) : t.text = Glyph.toText t.glyphs := by
  rw [text, content]
  by_cases hhalf : t.glyphs.any Glyph.isHalf
  · rw [Content.ofGlyphs, if_pos hhalf]
    rfl
  · have hglyphs := Content.glyphs_ofGlyphs t.glyphs
    rw [Content.ofGlyphs, if_neg hhalf] at hglyphs ⊢
    conv_rhs => rw [← hglyphs, Content.glyphs_text, Glyph.toText_ofText]
    rfl

/-- Runs one computation and then the other, and puts what they give behind each other. -/
def appended {M : Type → Type} [Monad M] {α : Type} [Append α] (front back : M α) : M α := do
  let first ← front
  let last ← back
  pure (first ++ last)

/-- No half of a character stands in the template. -/
def IsWhole (t : Template) : Prop := ∀ g ∈ t.glyphs, g.isHalf = false

instance (t : Template) : Decidable t.IsWhole :=
  inferInstanceAs (Decidable (∀ g ∈ t.glyphs, g.isHalf = false))

section

variable {M : Type → Type} [Monad M] [LawfulMonad M] (resolve : Slot → M String)

/-- Texts that fill the slots between whole characters make a statement of whole characters. -/
theorem exists_renderSymbols_eq {symbols : List Symbol}
    (hwhole : ∀ g ∈ symbols.flatMap Symbol.shown, g.isHalf = false) :
    ∃ statement : M String, renderSymbols resolve symbols = Glyph.ofText <$> statement := by
  induction symbols with
  | nil => exact ⟨pure "", (map_pure Glyph.ofText "").symm⟩
  | cons symbol rest ih =>
      rw [List.flatMap_cons, List.forall_mem_append] at hwhole
      obtain ⟨tail, htail⟩ := ih hwhole.2
      cases symbol with
      | glyph g =>
          cases g with
          | half place => exact absurd (hwhole.1 _ List.mem_cons_self) Bool.noConfusion
          | char c =>
              refine ⟨(String.singleton c ++ ·) <$> tail, ?_⟩
              rw [renderSymbols, htail]
              simp [Glyph.ofText]
      | slot s =>
          refine ⟨resolve s >>= fun text => (text ++ ·) <$> tail, ?_⟩
          rw [renderSymbols, htail]
          simp

theorem renderSymbols_of_whole {t : Template} (hwhole : t.IsWhole) :
    renderSymbols resolve t.symbols = Glyph.ofText <$> t.render resolve := by
  obtain ⟨statement, hstatement⟩ := exists_renderSymbols_eq resolve hwhole
  have hrender : t.render resolve = statement := by
    rw [render, hstatement]
    simp [Glyph.toText_ofText]
  rw [hrender, hstatement]

theorem render_append_of_whole {t : Template} (hwhole : t.IsWhole) (u : Template) :
    (t ++ u).render resolve = appended (t.render resolve) (u.render resolve) := by
  have hseam (front : String) (back : List Glyph) :
      Glyph.toText (Glyph.ofText front ++ back) = front ++ Glyph.toText back := by
    apply String.toList_inj.mp
    rw [Glyph.toText_ofText_append, String.toList_append]
  calc (t ++ u).render resolve
      = renderSymbols resolve t.symbols >>= fun front =>
          (fun back => Glyph.toText (front ++ back)) <$> renderSymbols resolve u.symbols := by
        rw [render, symbols_append, renderSymbols_append]
        simp
    _ = t.render resolve >>= fun front =>
          (fun back => front ++ Glyph.toText back) <$> renderSymbols resolve u.symbols := by
        rw [renderSymbols_of_whole resolve hwhole]
        simp [hseam]
    _ = appended (t.render resolve) (u.render resolve) := by simp [appended, render]

end

theorem text_append_of_whole {t : Template} (hwhole : t.IsWhole) (u : Template) :
    (t ++ u).text = t.text ++ u.text := by
  have hshown (v : Template) : v.text = v.render markerText := by
    rw [text_eq, render_markerText]
  rw [hshown, render_append_of_whole markerText hwhole, hshown, hshown]
  rfl

/-- Whatever lists, sums and joins make a template, its parts are what the merging loop leaves at
every one of these operations, and they are canonical: no text is empty and no two texts are
neighbours.  Templates are equal exactly if the same glyphs and slots stand in them from left to
right, and then have one hash.  So sums may be grouped in any way, a text behind or before a
template being the template of this text, the template of nothing adds nothing, and joining is
adding with the separator in between.  The glyphs of a sum are those of both, and whatever fills the
slots, with whatever effects, fills both behind each other; behind a template of whole characters
this holds of the texts and statements as strings. -/
theorem Expression.canonical {M : Type → Type} [Monad M] [LawfulMonad M]
    (resolve : Slot → M String) :
    (∀ e : Expression, ∃ t : Template, e.value = .ok (.template t) ∧ t.symbols = e.symbols ∧
      t.parts = e.gathered ∧ Part.Canonical e.gathered) ∧
    (∀ e f : Expression, ∃ (left right : Operand) (c : Operand.Comparison),
      e.value = .ok left ∧ f.value = .ok right ∧ left.compare right = .ok c ∧
        (c.equal = true ↔ e.gathered = f.gathered) ∧
        (c.equal = true ↔ e.symbols = f.symbols) ∧ (c.equal = true → c.sameHash = true)) ∧
    (∀ e f g : Expression, ((e.add f).add g).value = (e.add (f.add g)).value) ∧
    (∀ (e : Expression) (c : Content),
      (e.addText c).value = (e.add (.new [.text c])).value ∧
        (Expression.textAdd c e).value = (Expression.add (.new [.text c]) e).value) ∧
    (∀ e : Expression, (e.add (.new [])).value = e.value ∧
      (Expression.add (.new []) e).value = e.value) ∧
    (∀ separator : Content,
      (Expression.join separator []).value = (Expression.new []).value ∧
        ∀ (first : Expression) (later : List Expression),
          (Expression.join separator ((first :: later).map .template)).value =
            (interleave separator first later).value) ∧
    ∀ (e f : Expression) (t u : Template), e.value = .ok (.template t) →
      f.value = .ok (.template u) → ∃ sum : Template, (e.add f).value = .ok (.template sum) ∧
        sum.glyphs = t.glyphs ++ u.glyphs ∧
        renderSymbols resolve sum.symbols =
          appended (renderSymbols resolve t.symbols) (renderSymbols resolve u.symbols) ∧
        (t.IsWhole → sum.text = t.text ++ u.text ∧
          sum.render resolve = appended (t.render resolve) (u.render resolve)) := by
  have hparts (e f : Expression) : e.gathered = f.gathered ↔ e.symbols = f.symbols := by
    rw [e.gathered_eq, f.gathered_eq, parts_inj, Template.mk.injEq]
  refine ⟨?canonical, ?equal, ?assoc, ?texts, ?identity, ?joined, ?sums⟩
  case canonical =>
    intro e
    refine ⟨⟨e.symbols⟩, e.value_eq, rfl, e.gathered_eq.symm, ?_⟩
    rw [e.gathered_eq]
    exact canonical_parts _
  case equal =>
    intro e f
    refine ⟨_, _, _, e.value_eq, f.value_eq, rfl, ?_⟩
    rw [hparts, decide_eq_true_iff, decide_eq_true_iff, Template.mk.injEq]
    exact ⟨Iff.rfl, Iff.rfl, fun hsymbols => by rw [hsymbols]⟩
  case assoc =>
    intro e f g
    apply value_congr
    simp only [symbols, List.append_assoc]
  case texts =>
    intro e c
    constructor <;> apply value_congr <;> simp [symbols, Piece.symbolsEach, Piece.symbols]
  case identity =>
    intro e
    constructor <;> apply value_congr <;> simp [symbols, Piece.symbolsEach]
  case joined =>
    intro separator
    refine ⟨value_congr rfl, fun first later => value_congr ?_⟩
    exact (symbols_interleave separator first later).symm
  case sums =>
    intro e f t u ht hu
    refine ⟨t ++ u, ?_, glyphs_append t u, ?_, fun hwhole => ⟨?_, ?_⟩⟩
    · rw [value, ht, hu]
      rfl
    · rw [symbols_append, renderSymbols_append]
      simp [appended]
    · exact text_append_of_whole hwhole u
    · exact render_append_of_whole resolve hwhole u

/-- Of a condition and the next one, which are whole, the sum is both, the slot filled. -/
theorem Expression.canonical_conditions :
    LawfulMonad (Except Error) ∧
      IsWhole ⟨(Expression.new [.text (.text "a = "), .slot ⟨"x", 0⟩]).symbols⟩ ∧
      ∃ sum : Template,
        (Expression.add (.new [.text (.text "a = "), .slot ⟨"x", 0⟩])
          (.textAdd (.text " AND ") (.new [.text (.text "b"), .text (.text "")]))).value =
            .ok (.template sum) ∧
        sum.render (fun s => (.ok (s.name ++ "1") : Except Error String)) = .ok "a = x1 AND b" := by
  have hwhole : IsWhole ⟨(Expression.new [.text (.text "a = "), .slot ⟨"x", 0⟩]).symbols⟩ := by
    decide
  obtain ⟨-, -, -, -, -, -, hsums⟩ :=
    Expression.canonical fun s => (.ok (s.name ++ "1") : Except Error String)
  obtain ⟨sum, hsum, -, -, hstrings⟩ := hsums _ _ _ _ (Expression.value_eq _)
    (Expression.value_eq _)
  exact ⟨inferInstance, hwhole, sum, hsum, (hstrings hwhole).2.trans rfl⟩

end Template

end NamedQuery
