import Mathlib.Data.List.Chain
import NamedQuery.Template

/-!
# The parts of a template

A template shows as texts and slots behind each other, where no text is empty and no two texts are
neighbours.  There is only one way to write it like this: the parts and the template determine each
other, and pieces that are put behind each other, one by one, always come out as these parts.
-/

namespace NamedQuery

namespace Part

def isText : Part → Bool
  | .text _ => true
  | .slot _ => false

/-- The form in which a template shows its pieces. -/
structure Canonical (parts : List Part) : Prop where
  /-- No text is empty, and each is made from its glyphs. -/
  proper : ∀ c, .text c ∈ parts → c.glyphs ≠ [] ∧ Content.ofGlyphs c.glyphs = c
  /-- No two texts are neighbours. -/
  parted : parts.IsChain fun p q => ¬(p.isText ∧ q.isText)

theorem canonical_nil : Canonical [] :=
  ⟨fun _ hc => absurd hc List.not_mem_nil, List.isChain_nil⟩

theorem canonical_slot (s : Slot) : Canonical [.slot s] :=
  ⟨fun _ hc => absurd (List.mem_singleton.mp hc) nofun, List.isChain_singleton _⟩

theorem canonical_text {c : Content} :
    Canonical [.text c] ↔ c.glyphs ≠ [] ∧ Content.ofGlyphs c.glyphs = c := by
  refine ⟨fun hc => hc.proper c (List.mem_singleton_self _), fun hc => ⟨?_, ?_⟩⟩
  · intro d hd
    obtain rfl : d = c := Part.text.inj (List.mem_singleton.mp hd)
    exact hc
  · exact List.isChain_singleton _

/-- At a seam of canonical pieces no two texts meet. -/
theorem canonical_append {front back : List Part} :
    Canonical (front ++ back) ↔ Canonical front ∧ Canonical back ∧
      ∀ p ∈ front.getLast?, ∀ q ∈ back.head?, ¬(p.isText ∧ q.isText) := by
  constructor
  · rintro ⟨hproper, hparted⟩
    obtain ⟨hfront, hback, hseam⟩ := List.isChain_append.mp hparted
    exact ⟨⟨fun c hc => hproper c (List.mem_append_left back hc), hfront⟩,
      ⟨fun c hc => hproper c (List.mem_append_right front hc), hback⟩, hseam⟩
  · rintro ⟨hfront, hback, hseam⟩
    refine ⟨fun c hc => ?_, hfront.parted.append hback.parted hseam⟩
    rcases List.mem_append.mp hc with hc | hc
    · exact hfront.proper c hc
    · exact hback.proper c hc

/-- The pieces do not begin with a text. -/
def OpensWithSlot (parts : List Part) : Prop := ∀ p ∈ parts.head?, p.isText = false

theorem canonical_slot_cons {s : Slot} {parts : List Part} :
    Canonical (.slot s :: parts) ↔ Canonical parts := by
  rw [← List.singleton_append, canonical_append]
  simp [canonical_slot, isText]

theorem canonical_text_cons {c : Content} {parts : List Part} :
    Canonical (.text c :: parts) ↔
      (c.glyphs ≠ [] ∧ Content.ofGlyphs c.glyphs = c) ∧ Canonical parts ∧ OpensWithSlot parts := by
  rw [← List.singleton_append, canonical_append, canonical_text]
  simp [OpensWithSlot, isText]

end Part

namespace Template

open NamedQuery.Part

/-! ## The parts show all of a template -/

@[simp]
theorem ofParts_nil : ofParts [] = empty := rfl

@[simp]
theorem ofParts_cons (p : Part) (parts : List Part) :
    ofParts (p :: parts) = ofPart p ++ ofParts parts := rfl

theorem ofParts_append (front back : List Part) :
    ofParts (front ++ back) = ofParts front ++ ofParts back := by
  rw [ofParts, List.map_append, concat_append, ofParts, ofParts]

theorem addText_nil (parts : List Part) : addText [] parts = parts := rfl

theorem addText_of_ne_nil {front : List Glyph} (hfront : front ≠ []) (parts : List Part) :
    addText front parts = .text (Content.ofGlyphs front) :: parts := by
  rw [addText, if_neg (mt List.isEmpty_iff.mp hfront)]

theorem ofParts_addText (front : List Glyph) (parts : List Part) :
    ofParts (addText front parts) = ofGlyphs front ++ ofParts parts := by
  by_cases hfront : front = []
  · rw [hfront]
    rfl
  · rw [addText_of_ne_nil hfront, ofParts_cons, ofPart, ofContent, Content.glyphs_ofGlyphs]

theorem parts_eq (t : Template) : t.parts = addText (split t.symbols).1 (split t.symbols).2 := rfl

theorem symbols_split (symbols : List Symbol) :
    (split symbols).1.map .glyph ++ (ofParts (split symbols).2).symbols = symbols := by
  induction symbols with
  | nil => rfl
  | cons symbol rest ih =>
      cases symbol with
      | glyph g => exact congrArg (Symbol.glyph g :: ·) ih
      | slot s =>
          have hrest : (ofParts (addText (split rest).1 (split rest).2)).symbols = rest := by
            rw [ofParts_addText]
            exact ih
          exact congrArg (Symbol.slot s :: ·) hrest

/-- The parts of a template, behind each other, are the template again. -/
@[simp]
theorem ofParts_parts (t : Template) : ofParts t.parts = t := by
  rw [parts_eq, ofParts_addText]
  exact congrArg Template.mk (symbols_split t.symbols)

theorem parts_inj {t u : Template} : t.parts = u.parts ↔ t = u :=
  ⟨fun hparts => by rw [← ofParts_parts t, hparts, ofParts_parts], congrArg parts⟩

/-! ## They are canonical -/

theorem canonical_addText {front : List Glyph} {parts : List Part} (hparts : Canonical parts)
    (hopens : OpensWithSlot parts) : Canonical (addText front parts) := by
  by_cases hfront : front = []
  · rw [hfront]
    exact hparts
  · rw [addText_of_ne_nil hfront, canonical_text_cons, Content.glyphs_ofGlyphs]
    exact ⟨⟨hfront, rfl⟩, hparts, hopens⟩

theorem canonical_split (symbols : List Symbol) :
    Canonical (split symbols).2 ∧ OpensWithSlot (split symbols).2 := by
  induction symbols with
  | nil => exact ⟨canonical_nil, nofun⟩
  | cons symbol rest ih =>
      cases symbol with
      | glyph g => exact ih
      | slot s =>
          refine ⟨canonical_slot_cons.mpr (canonical_addText ih.1 ih.2), fun p hp => ?_⟩
          obtain rfl : Part.slot s = p := Option.mem_some_iff.mp hp
          rfl

theorem canonical_parts (t : Template) : Canonical t.parts :=
  canonical_addText (canonical_split t.symbols).1 (canonical_split t.symbols).2

/-! ## No other pieces are -/

theorem split_glyphs_append (gs : List Glyph) (symbols : List Symbol) :
    split (gs.map .glyph ++ symbols) = (gs ++ (split symbols).1, (split symbols).2) := by
  induction gs with
  | nil => rfl
  | cons g rest ih => rw [List.map_cons, List.cons_append, split, ih, List.cons_append]

theorem split_ofParts_of_opens {parts : List Part} (hopens : OpensWithSlot parts) :
    (split (ofParts parts).symbols).1 = [] := by
  cases parts with
  | nil => rfl
  | cons p rest =>
      cases p with
      | text c => exact absurd (hopens (.text c) rfl) (by simp [isText])
      | slot s => rfl

/-- Pieces in the canonical form are the parts of the template that they make. -/
theorem parts_ofParts {parts : List Part} (hparts : Canonical parts) :
    (ofParts parts).parts = parts := by
  induction parts with
  | nil => rfl
  | cons p rest ih =>
      cases p with
      | slot s =>
          have hrest : (ofParts rest).parts = rest := ih (canonical_slot_cons.mp hparts)
          exact congrArg (Part.slot s :: ·) hrest
      | text c =>
          obtain ⟨⟨hglyphs, hproper⟩, hcanonical, hopens⟩ := canonical_text_cons.mp hparts
          have hrest : (split (ofParts rest).symbols).2 = rest := by
            have hparts := ih hcanonical
            rwa [parts_eq, split_ofParts_of_opens hopens, addText_nil] at hparts
          have hsymbols : (ofParts (.text c :: rest)).symbols =
              c.glyphs.map .glyph ++ (ofParts rest).symbols := rfl
          rw [parts_eq, hsymbols, split_glyphs_append, split_ofParts_of_opens hopens, hrest,
            List.append_nil, addText_of_ne_nil hglyphs, hproper]

/-! ## Pieces one by one -/

/-- Puts a piece behind the pieces gathered so far.  An empty text adds nothing, and a text behind a
text makes one text with it. -/
def gather (gathered : List Part) : Part → List Part
  | .slot s => gathered ++ [.slot s]
  | .text c =>
    if c.glyphs.isEmpty then gathered
    else
      match gathered.getLast? with
      | some (.text last) =>
        gathered.dropLast ++ [.text (Content.ofGlyphs (last.glyphs ++ c.glyphs))]
      | _ => gathered ++ [.text (Content.ofGlyphs c.glyphs)]

theorem canonical_ofGlyphs {gs : List Glyph} (hgs : gs ≠ []) :
    Canonical [.text (Content.ofGlyphs gs)] := by
  rw [canonical_text, Content.glyphs_ofGlyphs]
  exact ⟨hgs, rfl⟩

/-- What is gathered stays canonical, and no glyph or slot of the new piece is lost. -/
theorem gather_step {gathered : List Part} (hgathered : Canonical gathered) (p : Part) :
    Canonical (gather gathered p) ∧
      ofParts (gather gathered p) = ofParts gathered ++ ofPart p := by
  have hone (q : Part) : ofParts [q] = ofPart q := append_empty (ofPart q)
  cases p with
  | slot s =>
      refine ⟨canonical_append.mpr ⟨hgathered, canonical_slot s, ?_⟩, ?_⟩
      · rintro p - q hq ⟨-, htext⟩
        obtain rfl : Part.slot s = q := Option.mem_some_iff.mp hq
        exact Bool.false_ne_true htext
      · rw [gather, ofParts_append, hone]
  | text c =>
      rw [gather]
      split
      · next hempty =>
        have hnone : ofPart (.text c) = empty := by
          rw [ofPart, ofContent, List.isEmpty_iff.mp hempty]
          rfl
        exact ⟨hgathered, by rw [hnone, append_empty]⟩
      · next hglyphs =>
        have hc : c.glyphs ≠ [] := mt List.isEmpty_iff.mpr hglyphs
        split
        · next last hlast =>
          obtain ⟨front, rfl⟩ := List.getLast?_eq_some_iff.mp hlast
          obtain ⟨hfront, -, hseam⟩ := canonical_append.mp hgathered
          rw [List.dropLast_concat]
          refine ⟨canonical_append.mpr ⟨hfront, canonical_ofGlyphs ?_, ?_⟩, ?_⟩
          · simp [hc]
          · intro p hp q hq
            obtain rfl : _ = q := Option.mem_some_iff.mp hq
            exact hseam p hp (.text last) rfl
          · rw [ofParts_append, ofParts_append, hone, hone, ofPart, ofPart, ofPart, ofContent,
              Content.glyphs_ofGlyphs, ofGlyphs_append, ofContent, ofContent,
              Template.append_assoc]
        · next hlast =>
          refine ⟨canonical_append.mpr ⟨hgathered, canonical_ofGlyphs hc, ?_⟩, ?_⟩
          · rintro p hp - - ⟨htext, -⟩
            cases p with
            | text last => exact hlast last hp
            | slot s => exact Bool.false_ne_true htext
          · rw [ofParts_append, hone, ofPart, ofPart, ofContent, Content.glyphs_ofGlyphs,
              ofContent]

/-- The parts of a template that is made from pieces are what the pieces gather to. -/
theorem parts_ofParts_eq_foldl (pieces : List Part) :
    (ofParts pieces).parts = pieces.foldl gather [] := by
  have hrun (gathered : List Part) (hgathered : Canonical gathered) :
      Canonical (pieces.foldl gather gathered) ∧
        ofParts (pieces.foldl gather gathered) = ofParts gathered ++ ofParts pieces := by
    induction pieces generalizing gathered with
    | nil => exact ⟨hgathered, (append_empty _).symm⟩
    | cons p rest ih =>
        obtain ⟨hnext, hsame⟩ := gather_step hgathered p
        obtain ⟨hlast, hall⟩ := ih (gather gathered p) hnext
        refine ⟨hlast, hall.trans ?_⟩
        rw [hsame, ofParts_cons, Template.append_assoc]
  obtain ⟨hcanonical, hsame⟩ := hrun [] canonical_nil
  rw [← parts_ofParts hcanonical, hsame]
  rfl

example :
    (ofParts [.text (.text "a"), .text (.text ""), .text (.text " = "), .slot ⟨"x", 0⟩]).parts =
      [.text (.text "a = "), .slot ⟨"x", 0⟩] := by decide

end Template

end NamedQuery
