import NamedQuery.Proofs.Template.Binding

/-!
# Where markers stand

Whether a marker stands at a place of a text can be told from the glyphs around this place, whatever
else the text holds.  A scan, which goes through the text once and goes on behind each marker that
it has read, finds all of these places and no others: a run of word characters is never cut short,
and no marker hides the next one.
-/

namespace NamedQuery

namespace Marker

open NamedQuery.Text

/-- A marker with this name stands at place `i` of the text. -/
structure StandsAt (gs : List Glyph) (i : Nat) (name : List Char) : Prop where
  colon : gs[i]? = some (.char ':')
  before : ∀ j g, j + 1 = i → gs[j]? = some g → g ≠ .char ':' ∧ isWordGlyph g = false
  nonempty : name ≠ []
  word : ∀ c ∈ name, isWord c = true
  run : (gs.drop (i + 1)).take name.length = name.map .char
  /-- The run ends here, and not before a colon. -/
  behind : ∀ g, gs[i + 1 + name.length]? = some g → g ≠ .char ':' ∧ isWordGlyph g = false

theorem allowsMarker_iff (o : Option Glyph) :
    allowsMarker o = true ↔ ∀ g, o = some g → g ≠ .char ':' ∧ isWordGlyph g = false := by
  cases o with
  | none => simp [allowsMarker]
  | some g => simp [allowsMarker_some]

/-! ## Names -/

theorem wordRun_map_append {name : List Char} (hword : ∀ c ∈ name, isWord c = true)
    {rest : List Glyph} (hrest : allowsMarker rest.head? = true) :
    wordRun (name.map .char ++ rest) = name := by
  rw [wordRun_append _ hrest]
  induction name with
  | nil => rfl
  | cons c tail ih =>
      obtain ⟨hc, htail⟩ := List.forall_mem_cons.mp hword
      rw [List.map_cons, wordRun, if_pos hc, ih htail]

theorem isWord_of_mem_wordRun {gs : List Glyph} {c : Char} (hc : c ∈ wordRun gs) :
    isWord c = true := by
  induction gs with
  | nil => cases hc
  | cons g tail ih =>
      cases g with
      | half place => cases hc
      | char d =>
          rw [wordRun] at hc
          split at hc
          · next hd =>
            rcases List.mem_cons.mp hc with rfl | htail
            · exact hd
            · exact ih htail
          · cases hc

/-- A run goes on as long as there are word characters. -/
theorem isWordGlyph_behind_wordRun {gs : List Glyph} {g : Glyph}
    (hg : (gs.drop (wordRun gs).length).head? = some g) : isWordGlyph g = false := by
  induction gs with
  | nil => cases hg
  | cons first tail ih =>
      cases first with
      | half place =>
          obtain rfl := Option.some.inj hg
          rfl
      | char c =>
          rw [wordRun] at hg
          split at hg
          · exact ih hg
          · next hc =>
            obtain rfl := Option.some.inj hg
            exact (Bool.not_eq_true _).mp hc

/-- The name that a colon makes is the whole run behind it: there is no other number of word
characters behind which neither a word character nor a colon stands. -/
theorem nameAt_eq_some_iff {gs : List Glyph} {name : List Char} :
    nameAt gs = some name ↔
      name ≠ [] ∧ (∀ c ∈ name, isWord c = true) ∧ gs.take name.length = name.map .char ∧
        allowsMarker gs[name.length]? = true := by
  constructor
  · intro hname
    have hrun := eq_wordRun_of_nameAt hname
    subst hrun
    simp only [nameAt] at hname
    split at hname
    · cases hname
    · next hfits =>
      simp only [Bool.or_eq_true, List.isEmpty_iff, decide_eq_true_eq, not_or] at hfits
      obtain ⟨hnonempty, hcolon⟩ := hfits
      refine ⟨hnonempty, fun c => isWord_of_mem_wordRun, ?_, ?_⟩
      · have hfront := congrArg (List.take (wordRun gs).length) (map_wordRun_append_drop gs)
        rw [List.take_left' (List.length_map _)] at hfront
        exact hfront.symm
      · rw [← List.head?_drop, allowsMarker_iff]
        intro g hg
        refine ⟨?_, isWordGlyph_behind_wordRun hg⟩
        rintro rfl
        exact hcolon hg
  · rintro ⟨hnonempty, hword, hfront, hbehind⟩
    rw [← List.head?_drop] at hbehind
    have hgs : gs = name.map .char ++ gs.drop name.length := by
      rw [← hfront, List.take_append_drop]
    have hrun : wordRun gs = name := by
      rw [hgs]
      exact wordRun_map_append hword hbehind
    have hcolon := head?_ne_colon hbehind
    rw [List.head?_drop] at hcolon
    simp [nameAt, hrun, hnonempty, hcolon]

/-! ## Places -/

/-- At the end of what was read before, a marker stands exactly if the scan reads one there. -/
theorem standsAt_length_iff (front : List Glyph) (g : Glyph) (rest : List Glyph)
    (name : List Char) :
    StandsAt (front ++ g :: rest) front.length name ↔
      g = .char ':' ∧ allowsMarker front.getLast? = true ∧ nameAt rest = some name := by
  have hhere : (front ++ g :: rest)[front.length]? = some g := by simp
  have hdrop : (front ++ g :: rest).drop (front.length + 1) = rest := by simp
  have hbehind : (front ++ g :: rest)[front.length + 1 + name.length]? = rest[name.length]? := by
    rw [← List.getElem?_drop, hdrop]
  have hbefore : (∀ j h, j + 1 = front.length → (front ++ g :: rest)[j]? = some h →
      h ≠ .char ':' ∧ isWordGlyph h = false) ↔ allowsMarker front.getLast? = true := by
    rw [allowsMarker_iff, List.getLast?_eq_getElem?]
    constructor
    · intro h last hlast
      have hlt := (List.getElem?_eq_some_iff.mp hlast).1
      refine h (front.length - 1) last (by omega) ?_
      rw [List.getElem?_append_left hlt, hlast]
    · intro h j last hj hlast
      rw [List.getElem?_append_left (by omega)] at hlast
      refine h last ?_
      rwa [← hj, Nat.add_sub_cancel]
  rw [nameAt_eq_some_iff, ← hbefore, allowsMarker_iff]
  constructor
  · intro h
    refine ⟨Option.some.inj (hhere.symm.trans h.colon), h.before, h.nonempty, h.word, ?_, ?_⟩
    · exact hdrop ▸ h.run
    · exact hbehind ▸ h.behind
  · rintro ⟨rfl, h, hnonempty, hword, hrun, hend⟩
    exact ⟨hhere, h, hnonempty, hword, hdrop.symm ▸ hrun, hbehind.symm ▸ hend⟩

/-- From some place on, a marker stands right there or behind the glyph that is there. -/
theorem standsAt_append_cons_iff (front : List Glyph) (g : Glyph) (rest : List Glyph) (i : Nat)
    (name : List Char) :
    front.length ≤ i ∧ StandsAt (front ++ g :: rest) i name ↔
      (i = front.length ∧ g = .char ':' ∧ allowsMarker front.getLast? = true ∧
        nameAt rest = some name) ∨
      (front ++ [g]).length ≤ i ∧ StandsAt (front ++ [g] ++ rest) i name := by
  rw [← standsAt_length_iff front g rest name, List.length_append, List.length_singleton,
    List.append_assoc, List.singleton_append]
  constructor
  · rintro ⟨hi, hstands⟩
    rcases Nat.eq_or_lt_of_le hi with rfl | hlater
    · exact .inl ⟨rfl, hstands⟩
    · exact .inr ⟨hlater, hstands⟩
  · rintro (⟨rfl, hstands⟩ | ⟨hlater, hstands⟩)
    · exact ⟨Nat.le_refl _, hstands⟩
    · exact ⟨Nat.le_of_lt hlater, hstands⟩

theorem isWordGlyph_of_nameAt {gs : List Glyph} {name : List Char}
    (hname : nameAt gs = some name) : ∀ g ∈ gs.take name.length, isWordGlyph g = true := by
  obtain ⟨-, hword, hfront, -⟩ := nameAt_eq_some_iff.mp hname
  intro g hg
  rw [hfront] at hg
  obtain ⟨c, hc, rfl⟩ := List.mem_map.mp hg
  exact hword c hc

end Marker

namespace Template

/-- The slots among symbols, each with the place where its marker begins if the first symbol is
shown at place `i`. -/
def placesFrom : Nat → List Symbol → List (Nat × Slot)
  | _, [] => []
  | i, .glyph _ :: rest => placesFrom (i + 1) rest
  | i, .slot s :: rest => (i, s) :: placesFrom (i + s.marker.length) rest

/-- The slots, each with the place where its marker begins in the text of the template. -/
def places (t : Template) : List (Nat × Slot) := placesFrom 0 t.symbols

theorem map_snd_placesFrom (i : Nat) (symbols : List Symbol) :
    (placesFrom i symbols).map Prod.snd = symbols.filterMap Symbol.slot? := by
  induction symbols generalizing i with
  | nil => rfl
  | cons symbol rest ih =>
      cases symbol with
      | glyph g => exact ih (i + 1)
      | slot s => exact congrArg (s :: ·) (ih _)

theorem le_of_mem_placesFrom {i : Nat} {symbols : List Symbol} {e : Nat × Slot}
    (he : e ∈ placesFrom i symbols) : i ≤ e.1 := by
  induction symbols generalizing i with
  | nil => cases he
  | cons symbol rest ih =>
      cases symbol with
      | glyph g => exact Nat.le_of_succ_le (ih he)
      | slot s =>
          rcases List.mem_cons.mp he with rfl | hrest
          · exact Nat.le_refl i
          · exact Nat.le_trans (Nat.le_add_right i _) (ih hrest)

/-- A marker ends before the next one begins. -/
theorem pairwise_placesFrom (i : Nat) (symbols : List Symbol) :
    (placesFrom i symbols).Pairwise fun a b => a.1 + a.2.marker.length ≤ b.1 := by
  induction symbols generalizing i with
  | nil => exact .nil
  | cons symbol rest ih =>
      cases symbol with
      | glyph g => exact ih (i + 1)
      | slot s => exact .cons (fun e he => le_of_mem_placesFrom he) (ih _)

end Template

namespace Binder

open Marker

/-- The scan from some place on finds the markers that stand there or later.  What is left out at
first must be word characters: no marker begins in the name of another one. -/
theorem mem_placesFrom_scanFrom (b : Binder) (front : List Glyph) {skip : Nat} {gs : List Glyph}
    (hskip : skip ≤ gs.length) (hword : ∀ g ∈ gs.take skip, isWordGlyph g = true) (i : Nat)
    (name : List Char) :
    (∃ s, (i, s) ∈ Template.placesFrom (front.length + skip)
        (b.bindMarks (scanFrom front.getLast? skip gs)).1 ∧ s.name = String.ofList name) ↔
      front.length ≤ i ∧ StandsAt (front ++ gs) i name := by
  induction gs generalizing b front skip with
  | nil =>
      constructor
      · rintro ⟨s, hs, -⟩
        cases skip <;> cases hs
      · rintro ⟨hi, hstands⟩
        have hcolon := hstands.colon
        rw [List.append_nil, List.getElem?_eq_none hi] at hcolon
        cases hcolon
  | cons g rest ih =>
      have hlast : (front ++ [g]).getLast? = some g := List.getLast?_concat
      have hlength : (front ++ [g]).length = front.length + 1 := List.length_append
      rw [standsAt_append_cons_iff]
      cases skip with
      | succ skip =>
          obtain ⟨hg, htail⟩ := List.forall_mem_cons.mp hword
          have hcolon : g ≠ .char ':' := by
            rintro rfl
            exact absurd hg (by decide)
          have hrest := ih b (front ++ [g]) (Nat.le_of_succ_le_succ hskip) htail
          rw [← hrest, hlast, hlength, Nat.add_assoc, Nat.add_comm 1 skip]
          exact ⟨.inr, fun h => h.resolve_left fun hhere => hcolon hhere.2.1⟩
      | zero =>
          have hrest := ih b (front ++ [g]) (Nat.zero_le rest.length) (by simp)
          rw [scanFrom]
          split
          · next hbegins =>
            obtain ⟨hcolon, hbefore⟩ := Bool.and_eq_true_iff.mp hbegins
            cases hname : nameAt rest with
            | none =>
                rw [← hrest, hlast, hlength]
                exact ⟨.inr, fun h => h.resolve_left fun hhere => by simpa using hhere.2.2.2⟩
            | some run =>
                -- the search goes on behind the name, and none of its characters is a colon
                have hfits : run.length ≤ rest.length :=
                  eq_wordRun_of_nameAt hname ▸ length_wordRun_le rest
                have hlater := ih (b.note (String.ofList run)) (front ++ [g]) hfits
                  (isWordGlyph_of_nameAt hname)
                have hmarker : ((b.note (String.ofList run)).slot
                    (String.ofList run)).marker.length = 1 + run.length := by
                  simp [Slot.marker, slot, Nat.add_comm]
                rw [← hlater, hlast, hlength]
                simp only [bindMarks, Template.placesFrom, hmarker, Nat.add_zero, List.mem_cons,
                  Prod.mk.injEq, ← Nat.add_assoc, Option.some.injEq]
                constructor
                · rintro ⟨s, ⟨rfl, rfl⟩ | hs, hsame⟩
                  · exact .inl ⟨rfl, of_decide_eq_true hcolon, hbefore,
                      String.ofList_injective hsame⟩
                  · exact .inr ⟨s, hs, hsame⟩
                · rintro (⟨rfl, -, -, rfl⟩ | ⟨s, hs, hsame⟩)
                  · exact ⟨_, .inl ⟨rfl, rfl⟩, rfl⟩
                  · exact ⟨s, .inr hs, hsame⟩
          · next hbegins =>
            rw [← hrest, hlast, hlength]
            refine ⟨.inr, fun h => h.resolve_left ?_⟩
            rintro ⟨-, rfl, hbefore, -⟩
            exact hbegins (by simp [hbefore])

/-- The slots of a bound text stand, one for each and in their order, at the places where markers
stand in the text, and have the names of these markers.  Nothing else becomes a slot, and no marker
reaches into the next one. -/
theorem places_bindGlyphs (b : Binder) (gs : List Glyph) :
    let places := (b.bindGlyphs gs).1.places
    places.map Prod.snd = (b.bindGlyphs gs).1.slots ∧
      places.Pairwise (fun a b => a.1 + a.2.marker.length ≤ b.1) ∧
      ∀ i name, (∃ s, (i, s) ∈ places ∧ s.name = name) ↔ StandsAt gs i name.toList := by
  intro places
  refine ⟨Template.map_snd_placesFrom 0 _, Template.pairwise_placesFrom 0 _, fun i name => ?_⟩
  have hscan := b.mem_placesFrom_scanFrom [] (Nat.zero_le gs.length) (by simp) i name.toList
  rw [String.ofList_toList] at hscan
  exact hscan.trans (and_iff_right (Nat.zero_le i))

example :
    (Binder.empty.bind ":a:b ::c d:e :f").1.places = [(13, ⟨"f", 0⟩)] := by decide

end Binder

end NamedQuery
