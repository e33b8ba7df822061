import NamedQuery.Template.Marker

/-!
# Scanning texts piece by piece

Whether a marker stands at a place depends on the glyph before it and on the glyphs up to the end
of its name.  Between two texts of which one borders on the other with a glyph that is neither a
colon nor a word character, both are therefore scanned as if each stood alone.
-/

namespace NamedQuery.Marker

open NamedQuery.Text

theorem allowsMarker_some (g : Glyph) :
    allowsMarker (some g) = true ↔ g ≠ .char ':' ∧ isWordGlyph g = false := by
  simp [allowsMarker]

theorem head?_ne_colon {rest : List Glyph} (hrest : allowsMarker rest.head? = true) :
    rest.head? ≠ some (.char ':') := by
  intro hhead
  rw [hhead, allowsMarker_some] at hrest
  exact hrest.1 rfl

/-- No run of word characters goes on into a text that borders with another kind of glyph. -/
theorem wordRun_append (gs : List Glyph) {rest : List Glyph}
    (hrest : allowsMarker rest.head? = true) : wordRun (gs ++ rest) = wordRun gs := by
  induction gs with
  | nil =>
      cases rest with
      | nil => rfl
      | cons g tail =>
          have hword : isWordGlyph g = false := ((allowsMarker_some g).mp hrest).2
          cases g with
          | char c => simpa [wordRun, isWordGlyph] using hword
          | half place => rfl
  | cons g tail ih =>
      cases g with
      | char c => simp only [List.cons_append, wordRun, ih]
      | half place => rfl

theorem length_wordRun_le (gs : List Glyph) : (wordRun gs).length ≤ gs.length := by
  induction gs with
  | nil => exact Nat.le_refl 0
  | cons g tail ih =>
      cases g with
      | char c =>
          rw [wordRun]
          split
          · exact Nat.succ_le_succ ih
          · exact Nat.zero_le _
      | half place => exact Nat.zero_le _

theorem nameAt_append (gs : List Glyph) {rest : List Glyph}
    (hrest : allowsMarker rest.head? = true) : nameAt (gs ++ rest) = nameAt gs := by
  have hcolon := head?_ne_colon hrest
  have hdrop : ((gs ++ rest).drop (wordRun gs).length).head? = some (.char ':') ↔
      (gs.drop (wordRun gs).length).head? = some (.char ':') := by
    rw [List.drop_append_of_le_length (length_wordRun_le gs), List.head?_append]
    cases (gs.drop (wordRun gs).length).head? with
    | none => simpa using hcolon
    | some g => rfl
  simp only [nameAt, wordRun_append gs hrest, hdrop]

theorem eq_wordRun_of_nameAt {gs : List Glyph} {run : List Char} (hname : nameAt gs = some run) :
    run = wordRun gs := by
  simp only [nameAt] at hname
  split at hname
  · cases hname
  · exact (Option.some.inj hname).symm

/-- A run of word characters is the front of the text that it was taken from. -/
theorem map_wordRun_append_drop (gs : List Glyph) :
    (wordRun gs).map .char ++ gs.drop (wordRun gs).length = gs := by
  induction gs with
  | nil => rfl
  | cons g tail ih =>
      cases g with
      | char c =>
          rw [wordRun]
          split
          · simpa using ih
          · rfl
      | half place => rfl

/-- What stands before a text does not matter if no marker begins at its front. -/
theorem scanFrom_of_head (before : Option Glyph) {rest : List Glyph}
    (hrest : allowsMarker rest.head? = true) : scanFrom before 0 rest = scan rest := by
  cases rest with
  | nil => rfl
  | cons g tail =>
      have hcolon : g ≠ .char ':' := ((allowsMarker_some g).mp hrest).1
      simp [scan, scanFrom, hcolon]

theorem scanFrom_append (before : Option Glyph) {skip : Nat} {gs rest : List Glyph}
    (hskip : skip ≤ gs.length) (hrest : allowsMarker rest.head? = true) :
    scanFrom before skip (gs ++ rest) = scanFrom before skip gs ++ scan rest := by
  induction gs generalizing before skip with
  | nil =>
      obtain rfl : skip = 0 := Nat.le_zero.mp hskip
      exact scanFrom_of_head before hrest
  | cons g tail ih =>
      cases skip with
      | succ skip => exact ih (some g) (Nat.le_of_succ_le_succ hskip)
      | zero =>
          -- The name of a marker ends within `tail`, so `rest` begins behind all that is left out.
          have hplain := ih (some g) (Nat.zero_le tail.length)
          rw [List.cons_append, scanFrom, scanFrom, nameAt_append tail hrest]
          split
          · cases hname : nameAt tail with
            | none => simp only [hplain, List.cons_append]
            | some run =>
                have hrun : run.length ≤ tail.length :=
                  eq_wordRun_of_nameAt hname ▸ length_wordRun_le tail
                simp only [ih (some g) hrun, List.cons_append]
          · rw [hplain, List.cons_append]

/-- A text that begins with neither a colon nor a word character is scanned on its own. -/
theorem scan_append_of_head (gs : List Glyph) {rest : List Glyph}
    (hrest : allowsMarker rest.head? = true) : scan (gs ++ rest) = scan gs ++ scan rest :=
  scanFrom_append none (Nat.zero_le gs.length) hrest

theorem scan_cons_of_allowsMarker {g : Glyph} (rest : List Glyph)
    (hg : allowsMarker (some g) = true) : scan (g :: rest) = .glyph g :: scan rest := by
  have hcolon : g ≠ .char ':' := ((allowsMarker_some g).mp hg).1
  have hrest : scanFrom (some g) 0 rest = scan rest := by
    cases rest with
    | nil => rfl
    | cons h tail =>
        have hfront : allowsMarker none = true := rfl
        simp only [scan, scanFrom, hg, hfront]
  simp [scan, scanFrom, hcolon, hrest]

/-- So is a text behind one that ends with neither a colon nor a word character. -/
theorem scan_append_of_last {gs : List Glyph} (rest : List Glyph)
    (hlast : allowsMarker gs.getLast? = true) : scan (gs ++ rest) = scan gs ++ scan rest := by
  cases hgs : gs.getLast? with
  | none =>
      rw [List.getLast?_eq_none_iff] at hgs
      rw [hgs]
      rfl
  | some g =>
      obtain ⟨front, rfl⟩ := List.getLast?_eq_some_iff.mp hgs
      rw [hgs] at hlast
      have hwhole : scan (front ++ g :: rest) = scan front ++ scan (g :: rest) :=
        scan_append_of_head front hlast
      have hfront : scan (front ++ [g]) = scan front ++ scan [g] :=
        scan_append_of_head front hlast
      rw [List.append_assoc, List.singleton_append, hwhole, hfront,
        scan_cons_of_allowsMarker rest hlast, scan_cons_of_allowsMarker [] hlast,
        List.append_assoc]
      rfl

theorem source_scanFrom (before : Option Glyph) {skip : Nat} {gs : List Glyph}
    (hskip : skip ≤ gs.length) :
    (scanFrom before skip gs).flatMap Mark.source = gs.drop skip := by
  induction gs generalizing before skip with
  | nil => simp [scanFrom]
  | cons g tail ih =>
      cases skip with
      | succ skip => exact ih (some g) (Nat.le_of_succ_le_succ hskip)
      | zero =>
          have hplain : (scanFrom (some g) 0 tail).flatMap Mark.source = tail :=
            ih (some g) (Nat.zero_le tail.length)
          rw [scanFrom]
          split
          · next hcolon =>
            cases hname : nameAt tail with
            | none => simp [Mark.source, hplain]
            | some run =>
                obtain rfl := eq_wordRun_of_nameAt hname
                have hg : g = .char ':' := of_decide_eq_true (Bool.and_eq_true_iff.mp hcolon).1
                have hlater := ih (some g) (length_wordRun_le tail)
                simp only [List.flatMap_cons, hlater, Mark.source, List.cons_append,
                  map_wordRun_append_drop]
                rw [hg, List.drop_zero]
          · simp [Mark.source, hplain]

/-- The marks of a text are read from all of it. -/
theorem source_scan (gs : List Glyph) : (scan gs).flatMap Mark.source = gs :=
  source_scanFrom none (Nat.zero_le gs.length)

end NamedQuery.Marker
