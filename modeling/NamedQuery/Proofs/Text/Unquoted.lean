import Mathlib.Algebra.Group.Nat.Even
import Mathlib.Data.List.Count
import NamedQuery.Text.Doubled
import NamedQuery.Text.Glyph

/-!
# Texts without their literals

What is left of a statement once its string literals are taken out is its structure.  A literal
reaches from an odd-numbered quote to the next one, so a piece with an even number of quotes ends
outside of literals, and whatever a value says, its doubled quotes leave nothing of it behind.
-/

namespace NamedQuery

namespace Text

/-- What is left from here on; `held` is the text of a literal that was begun, from its quote on. -/
def unquotedFrom : Option (List Char) → List Char → List Char
  | none, [] => []
  | some held, [] => held
  | none, c :: rest =>
    if c = '\'' then unquotedFrom (some [c]) rest else c :: unquotedFrom none rest
  | some held, c :: rest =>
    if c = '\'' then unquotedFrom none rest else unquotedFrom (some (held ++ [c])) rest

/-- The text without everything between an odd-numbered quote and the next even-numbered one, and
without these quotes.  A quote that is never closed stays. -/
def unquoted (cs : List Char) : List Char := unquotedFrom none cs

/-- A text in quotes in which quotes are doubled. -/
def IsLiteral (s : String) : Prop :=
  ∃ (twice : Char → Bool) (cs : List Char), twice '\'' = true ∧ s = enclosed (doubled twice cs)

theorem unquotedFrom_append (front back : List Char) :
    (Even (front.count '\'') →
      unquotedFrom none (front ++ back) = unquotedFrom none front ++ unquotedFrom none back) ∧
    (¬Even (front.count '\'') → ∀ held : List Char,
      unquotedFrom (some held) (front ++ back) =
        unquotedFrom (some held) front ++ unquotedFrom none back) := by
  induction front with
  | nil => exact ⟨fun _ => rfl, fun hodd => absurd Even.zero hodd⟩
  | cons c rest ih =>
      obtain ⟨ihout, ihin⟩ := ih
      by_cases hc : c = '\''
      · subst hc
        rw [List.count_cons_self, Nat.even_add_one, not_not]
        constructor
        · intro hodd
          exact ihin hodd _
        · intro heven held
          exact ihout heven
      · rw [List.count_cons_of_ne hc]
        constructor
        · intro heven
          simp only [List.cons_append, unquotedFrom, if_neg hc, ihout heven]
        · intro hodd held
          simp only [List.cons_append, unquotedFrom, if_neg hc, ihin hodd]

/-- Behind an even number of quotes a text is read as if it began there. -/
theorem unquoted_append {front : List Char} (heven : Even (front.count '\''))
    (back : List Char) : unquoted (front ++ back) = unquoted front ++ unquoted back :=
  (unquotedFrom_append front back).1 heven

theorem unquotedFrom_doubled {twice : Char → Bool} (hquote : twice '\'' = true) (cs : List Char)
    (held : List Char) : unquotedFrom (some held) (doubled twice cs ++ ['\'']) = [] := by
  induction cs generalizing held with
  | nil => rfl
  | cons c rest ih =>
      have hdoubled : doubled twice (c :: rest) =
          (if twice c then [c, c] else [c]) ++ doubled twice rest := rfl
      by_cases hc : c = '\''
      · subst hc
        rw [hdoubled, if_pos hquote]
        exact ih _
      · rw [hdoubled]
        split <;> simp [unquotedFrom, hc, ih]

theorem even_count_literal {s : String} (hs : IsLiteral s) : Even (s.toList.count '\'') := by
  obtain ⟨twice, cs, hquote, rfl⟩ := hs
  have hcount : (enclosed (doubled twice cs)).toList.count '\'' = 2 * cs.count '\'' + 2 := by
    simp [enclosed, count_doubled, hquote]
  exact ⟨cs.count '\'' + 1, by omega⟩

/-- Nothing of a literal is left. -/
theorem unquoted_literal {s : String} (hs : IsLiteral s) : unquoted s.toList = [] := by
  obtain ⟨twice, cs, hquote, rfl⟩ := hs
  rw [enclosed, String.toList_ofList]
  exact unquotedFrom_doubled hquote cs ['\'']

/-! ## Quotes among code points -/

theorem ofNat_eq_quote_iff (n : Nat) : Char.ofNat n = '\'' ↔ n = 39 := by
  constructor
  · intro heq
    by_cases hvalid : n.isValidChar
    · have hvalue : (Char.ofNat n).toNat = n := by
        rw [Char.ofNat, dif_pos hvalid]
        rfl
      rw [heq] at hvalue
      exact hvalue.symm
    · rw [Char.ofNat, dif_neg hvalid] at heq
      exact absurd heq (by decide)
  · rintro rfl
    rfl

/-- A code point that is no half of a character parts the text. -/
theorem joined_append_cons (front : List Nat) {n : Nat} (hwhole : isHalf n = false)
    (back : List Nat) :
    joined (front ++ n :: back) = joined front ++ Char.ofNat n :: joined back := by
  have hhead (rest : List Nat) : joined (n :: rest) = Char.ofNat n :: joined rest := by
    cases rest <;> simp [joined, hwhole]
  fun_induction joined front with
  | case1 high low rest hpair ih => simp [joined, hpair, ih]
  | case2 high low rest hpair ih =>
      rw [List.cons_append, List.cons_append, joined, if_neg hpair, ← List.cons_append, ih,
        List.cons_append]
  | case3 m => simp [joined, hwhole, hhead]
  | case4 => exact hhead back

theorem count_joined (points : List Nat) : (joined points).count '\'' = points.count 39 := by
  have hhalf : ∀ n, isHalf n = true → n ≠ 39 := by
    rintro n hn rfl
    exact absurd hn (by decide)
  have hshown (n : Nat) : ((if isHalf n then '\uFFFD' else Char.ofNat n) == '\'') = (n == 39) := by
    by_cases hn : isHalf n = true
    · rw [if_pos hn, beq_eq_false_iff_ne.mpr (hhalf n hn)]
      rfl
    · rw [if_neg hn, Bool.eq_iff_iff, beq_iff_eq, beq_iff_eq, ofNat_eq_quote_iff]
  fun_induction joined points with
  | case1 high low rest hpair ih =>
      simp only [Bool.and_eq_true, decide_eq_true_eq] at hpair
      have hjoin : joinHalves high low ≠ '\'' := by
        rw [joinHalves, ne_eq, ofNat_eq_quote_iff]
        omega
      rw [List.count_cons_of_ne hjoin, ih, List.count_cons_of_ne (hhalf high hpair.1.1.1),
        List.count_cons_of_ne (hhalf low hpair.1.1.2)]
  | case2 high low rest hpair ih => rw [List.count_cons, hshown, ih, ← List.count_cons]
  | case3 n =>
      rw [List.count_cons, hshown, List.count_cons]
      rfl
  | case4 => rfl

end Text

namespace Glyph

theorem count_toText (gs : List Glyph) :
    (toText gs).toList.count '\'' = gs.count (.char '\'') := by
  have hpoint : Function.Injective point := Function.LeftInverse.injective ofPoint_point
  rw [toText, String.toList_ofList, Text.count_joined]
  exact List.count_map_of_injective gs point hpoint (.char '\'')

/-- Characters between glyphs show as they are. -/
theorem toText_append_char (front : List Glyph) (c : Char) (back : List Glyph) :
    (toText (front ++ .char c :: back)).toList =
      (toText front).toList ++ c :: (toText back).toList := by
  have hwhole : Text.isHalf c.toNat = false := by
    have hvalid := c.valid
    simp only [UInt32.isValidChar, Nat.isValidChar] at hvalid
    have hvalue : c.toNat = c.val.toNat := rfl
    simp only [Text.isHalf, hvalue, Bool.and_eq_false_iff, decide_eq_false_iff_not]
    omega
  simp only [toText, String.toList_ofList, List.map_append, List.map_cons, point,
    Text.joined_append_cons _ hwhole, Char.ofNat_toNat]

theorem toText_ofText_append (s : String) (back : List Glyph) :
    (toText (ofText s ++ back)).toList = s.toList ++ (toText back).toList := by
  rw [ofText]
  induction s.toList with
  | nil => rfl
  | cons c rest ih =>
      rw [List.map_cons, List.cons_append, ← List.nil_append (char c :: _), toText_append_char, ih]
      rfl

/-- A text stands as a whole between the glyphs around it, and keeps them apart. -/
theorem toText_append_text (front : List Glyph) {s : String} (hs : s ≠ "") (back : List Glyph) :
    (toText (front ++ (ofText s ++ back))).toList =
      (toText front).toList ++ (s.toList ++ (toText back).toList) := by
  obtain ⟨c, cs, hcs⟩ := List.exists_cons_of_ne_nil (mt String.toList_eq_nil_iff.mp hs)
  obtain rfl : s = String.ofList (c :: cs) := by rw [← hcs, String.ofList_toList]
  have hopen : ofText (String.ofList (c :: cs)) ++ back =
      .char c :: (ofText (String.ofList cs) ++ back) := by simp [ofText]
  rw [hopen, toText_append_char, toText_ofText_append, String.toList_ofList, String.toList_ofList]
  rfl

theorem toText_append_literal (front : List Glyph) {s : String} (hs : Text.IsLiteral s)
    (back : List Glyph) :
    (toText (front ++ (ofText s ++ back))).toList =
      (toText front).toList ++ (s.toList ++ (toText back).toList) := by
  obtain ⟨twice, cs, -, rfl⟩ := hs
  apply toText_append_text
  simp [Text.enclosed]

end Glyph

end NamedQuery
