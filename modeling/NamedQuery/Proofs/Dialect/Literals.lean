import Mathlib.Data.List.Basic
import NamedQuery.Backend.Mapped

/-!
# What a database reads in a literal

A database reads a string literal from its quote on: two quotes say one, a single one ends the
literal, and where the dialect has escapes a backslash changes the character behind it.  Whatever
stands behind the literal is not touched, so the literal of a text stands for one value in any
statement.  A percent sign has no meaning in a literal; where it is doubled, both signs are read.
-/

namespace NamedQuery

namespace Text

theorem doubled_cons (twice : Char → Bool) (c : Char) (rest : List Char) :
    doubled twice (c :: rest) = (if twice c then [c, c] else [c]) ++ doubled twice rest := rfl

theorem length_doubled (twice : Char → Bool) (cs : List Char) :
    (doubled twice cs).length = cs.length + cs.countP twice := by
  induction cs with
  | nil => rfl
  | cons c rest ih =>
      rw [doubled_cons, List.length_append, ih, List.countP_cons, List.length_cons]
      split
      · simp only [List.length_cons, List.length_nil]
        omega
      · simp only [List.length_cons, List.length_nil]
        omega

/-- Doubling changes a text exactly if it has a character to double. -/
theorem doubled_eq_self_iff {twice : Char → Bool} {cs : List Char} :
    doubled twice cs = cs ↔ ∀ c ∈ cs, ¬twice c = true := by
  constructor
  · intro heq
    have hlength := congrArg List.length heq
    rw [length_doubled] at hlength
    exact List.countP_eq_zero.mp (by omega)
  · intro hnone
    rw [doubled, List.flatMap_congr fun c hc => if_neg (hnone c hc)]
    exact List.flatMap_singleton' cs

theorem doubled_injective (twice : Char → Bool) : Function.Injective (doubled twice) := by
  intro left
  induction left with
  | nil =>
      intro right heq
      have hlength := congrArg List.length heq
      rw [length_doubled, length_doubled, List.length_nil, List.countP_nil] at hlength
      exact (List.length_eq_zero_iff.mp (by omega)).symm
  | cons c rest ih =>
      intro right heq
      cases right with
      | nil =>
          have hlength := congrArg List.length heq
          rw [length_doubled, length_doubled, List.length_nil, List.countP_nil,
            List.length_cons] at hlength
          omega
      | cons c' rest' =>
          rw [doubled_cons, doubled_cons] at heq
          have hhead : c = c' := by
            have hfirst := congrArg List.head? heq
            split at hfirst <;> split at hfirst <;> simpa using hfirst
          subst hhead
          rw [ih (List.append_cancel_left heq)]

end Text

namespace Dialect

variable {d : Dialect}

/-- What a backslash and the character behind it say, where a backslash begins an escape. -/
def escaped (c : Char) : List Char :=
  match c with
  | '0' => [Char.ofNat 0]
  | 'b' => [Char.ofNat 8]
  | 'n' => ['\n']
  | 'r' => ['\r']
  | 't' => ['\t']
  | 'Z' => [Char.ofNat 26]
  -- these two keep their backslash, for the patterns of `LIKE`
  | '%' => ['\\', '%']
  | '_' => ['\\', '_']
  | c => [c]

/-- What is read behind the quote that begins a literal, and what stands behind the quote that ends
it; nothing if no quote ends it. -/
def readBody (d : Dialect) : List Char → Option (List Char × List Char)
  | [] => none
  | [c] => if c = '\'' then some ([], []) else none
  | c :: next :: rest =>
    if c = '\'' then
      if next = '\'' then (d.readBody rest).map (Prod.map (['\''] ++ ·) id)
      else some ([], next :: rest)
    else if d.escapesBackslash = true ∧ c = '\\' then
      (d.readBody rest).map (Prod.map (escaped next ++ ·) id)
    else (d.readBody (next :: rest)).map (Prod.map ([c] ++ ·) id)

/-- The characters that a literal may hold if it is not marked as one of any characters. -/
def holdsUnmarked (d : Dialect) (cs : List Char) : Bool := d ≠ mssql || cs.all (·.toNat < 128)

/-- What the string literal says that a statement goes on with, and what stands behind it.  All
dialects but one know literals that are marked by a letter. -/
def readLiteral? (d : Dialect) : List Char → Option (List Char × List Char)
  | [] => none
  | mark :: rest =>
    if mark = '\'' then (d.readBody rest).filter fun r => d.holdsUnmarked r.1
    else if mark = 'N' ∧ rest.head? = some '\'' ∧ d ≠ sqlite then d.readBody rest.tail
    else none

/-- What a text has become once it is read from its literal. -/
def received (d : Dialect) (cs : List Char) : List Char :=
  Text.doubled (fun c => d.doublesPercent && c = '%') cs

theorem received_eq_self_iff {cs : List Char} :
    d.received cs = cs ↔ (d.doublesPercent = true → '%' ∉ cs) := by
  rw [received, Text.doubled_eq_self_iff]
  constructor
  · intro hnone hdoubles hpercent
    exact hnone '%' hpercent (by simp [hdoubles])
  · intro hnone c hc htwice
    simp only [Bool.and_eq_true, decide_eq_true_eq] at htwice
    exact hnone htwice.1 (htwice.2 ▸ hc)

/-! ## Reading character by character -/

theorem readBody_end {behind : List Char} (hbehind : behind.head? ≠ some '\'') :
    d.readBody ('\'' :: behind) = some ([], behind) := by
  cases behind with
  | nil => rfl
  | cons next rest =>
      have hnext : next ≠ '\'' := by simpa using hbehind
      rw [readBody, if_pos rfl, if_neg hnext]

theorem readBody_quote (rest : List Char) :
    d.readBody ('\'' :: '\'' :: rest) = (d.readBody rest).map (Prod.map (['\''] ++ ·) id) := by
  rw [readBody, if_pos rfl, if_pos rfl]

theorem readBody_backslash (hescapes : d.escapesBackslash = true) (rest : List Char) :
    d.readBody ('\\' :: '\\' :: rest) = (d.readBody rest).map (Prod.map (['\\'] ++ ·) id) := by
  rw [readBody, if_neg (by decide), if_pos ⟨hescapes, rfl⟩]
  rfl

theorem readBody_plain {c : Char} (hquote : c ≠ '\'')
    (hescape : ¬(d.escapesBackslash = true ∧ c = '\\')) (rest : List Char) :
    d.readBody (c :: rest) = (d.readBody rest).map (Prod.map ([c] ++ ·) id) := by
  cases rest with
  | nil => simp [readBody, hquote]
  | cons next rest => rw [readBody, if_neg hquote, if_neg hescape]

theorem received_append (a b : List Char) :
    d.received (a ++ b) = d.received a ++ d.received b :=
  Text.doubled_append _ a b

theorem received_of_ne {c : Char} (hc : c ≠ '%') : d.received [c] = [c] :=
  received_eq_self_iff.mpr fun _ hpercent => hc (List.mem_singleton.mp hpercent).symm

/-- One character as it is written in a literal, whatever is written behind it: the quote and the
backslash are read once, and the percent sign as often as it stands there. -/
theorem readBody_doubled_append (c : Char) (rest : List Char) :
    d.readBody (Text.doubled d.doublesInText [c] ++ rest) =
      (d.readBody rest).map (Prod.map (d.received [c] ++ ·) id) := by
  rw [Text.doubled_cons]
  -- a quote and a backslash are read in pairs, anything else as it stands
  by_cases hquote : c = '\''
  · subst hquote
    rw [received_of_ne (by decide), if_pos (by simp [doublesInText])]
    exact readBody_quote rest
  by_cases hescape : d.escapesBackslash = true ∧ c = '\\'
  · obtain ⟨hescapes, rfl⟩ := hescape
    rw [received_of_ne (by decide), if_pos (by simp [doublesInText, hescapes])]
    exact readBody_backslash hescapes rest
  · have hread := readBody_plain hquote hescape
    have hsame : d.doublesInText c = (d.doublesPercent && c = '%') := by
      have hescapes : (d.escapesBackslash && c = '\\') = false := by simpa using hescape
      simp [doublesInText, hquote, hescapes]
    rw [hsame, received, Text.doubled_cons]
    split
    · change d.readBody (c :: c :: rest) = _
      rw [hread, hread, Option.map_map]
      rfl
    · exact hread rest

theorem readBody_doubled (cs : List Char) {behind : List Char}
    (hbehind : behind.head? ≠ some '\'') :
    d.readBody (Text.doubled d.doublesInText cs ++ '\'' :: behind) =
      some (d.received cs, behind) := by
  induction cs with
  | nil => exact readBody_end hbehind
  | cons c rest ih =>
      rw [← List.singleton_append, Text.doubled_append, List.append_assoc,
        readBody_doubled_append, ih, received_append]
      rfl

/-- A dialect that marks literals doubles no percent sign, so what is read has no other characters
than the text. -/
theorem holdsUnmarked_received {s : String} (hunmarked : ¬d.marksText s = true) :
    d.holdsUnmarked (d.received s.toList) = true := by
  by_cases hd : d = mssql
  · subst hd
    have hsame : mssql.received s.toList = s.toList := received_eq_self_iff.mpr nofun
    have hplain : ∀ c ∈ s.toList, c.toNat < 128 := by
      simpa [marksText] using hunmarked
    simpa [holdsUnmarked, hsame] using hplain
  · simp [holdsUnmarked, hd]

theorem readLiteral?_textLiteral (d : Dialect) (s : String) {behind : List Char}
    (hbehind : behind.head? ≠ some '\'') :
    d.readLiteral? ((d.textLiteral s).toList ++ behind) = some (d.received s.toList, behind) := by
  have hbody := readBody_doubled (d := d) s.toList hbehind
  have hliteral : (Text.enclosed (Text.doubled d.doublesInText s.toList)).toList ++ behind =
      '\'' :: (Text.doubled d.doublesInText s.toList ++ '\'' :: behind) := by
    simp [Text.enclosed]
  rw [textLiteral, String.toList_append, List.append_assoc, hliteral]
  by_cases hmarked : d.marksText s = true
  · have hd : d = mssql := by
      simp only [marksText, Bool.and_eq_true, decide_eq_true_eq] at hmarked
      exact hmarked.1
    rw [if_pos hmarked]
    change d.readLiteral? ('N' :: '\'' :: _) = _
    rw [readLiteral?, if_neg (by decide), if_pos ⟨rfl, rfl, by rw [hd]; decide⟩, List.tail_cons,
      hbody]
  · rw [if_neg hmarked]
    change d.readLiteral? ('\'' :: _) = _
    rw [readLiteral?, if_pos rfl, hbody, Option.filter_some,
      if_pos (holdsUnmarked_received hmarked)]

end Dialect

namespace Catalog

open Dialect

/-- A mapped class writes every text as exactly one string literal of its dialect, whatever the
statement goes on with, and no other text in the same way.  The literal says the text itself unless
the dialect doubles percent signs and the text has one. -/
theorem readLiteral?_quote (catalog : Catalog) (d : Dialect) (stored : List StoredRow)
    (m : MappedClass) (s : String) :
    ∃ literal, (catalog.toBackend d stored m).quote (.str s) = .ok literal ∧
      (∀ behind : List Char, behind.head? ≠ some '\'' →
        d.readLiteral? (literal.toList ++ behind) = some (d.received s.toList, behind)) ∧
      (d.received s.toList = s.toList ↔ (d.doublesPercent = true → '%' ∉ s.toList)) ∧
      ∀ other : String, (catalog.toBackend d stored m).quote (.str other) = .ok literal →
        other = s := by
  have hread (s : String) {behind : List Char} (hbehind : behind.head? ≠ some '\'') :=
    readLiteral?_textLiteral d s hbehind
  refine ⟨d.textLiteral s, rfl, fun behind => hread s, received_eq_self_iff, ?_⟩
  intro other hother
  have hliteral : d.textLiteral other = d.textLiteral s := Except.ok.inj hother
  have hend : ([] : List Char).head? ≠ some '\'' := by decide
  have hsame := hread other hend
  rw [hliteral, hread s hend] at hsame
  -- what is received tells the texts apart, since doubling can be undone
  have hreceived := congrArg Prod.fst (Option.some.inj hsame)
  exact String.toList_injective (Text.doubled_injective _ hreceived).symm

/-- A class of recipes. -/
def recipes : MappedClass :=
  { id := 0, name := "Recipe", lineage := .root, table := 0, source := .table 0, properties := []
    attributes := [], excluded := [], typeColumn := none, identity := .null, keys := []
    keyClass := 0 }

theorem readLiteral?_percent :
    ∃ literal, (empty.toBackend .mysql [] recipes).quote (.str "100%") = .ok literal ∧
      mysql.readLiteral? (literal.toList ++ [')']) = some ("100%%".toList, [')']) := by
  obtain ⟨literal, hquote, hread, -, -⟩ := readLiteral?_quote empty .mysql [] recipes "100%"
  exact ⟨literal, hquote, (hread [')'] (by decide)).trans (by decide)⟩

/-- A percentage does not come back from the literal that it is written as. -/
theorem received_percent :
    (empty.toBackend .mysql [] recipes).quote (.str "100%") = .ok "'100%%'" ∧
      mysql.readLiteral? "'100%%'".toList = some ("100%%".toList, []) ∧ "100%%" ≠ "100%" :=
  ⟨by rfl, by decide, by decide⟩

end Catalog

end NamedQuery
