import NamedQuery.Options.Reading
import NamedQuery.Proofs.Statement.Checked

/-!
# What checked options say

A blank text counts as absent and a negative number is refused, so every clause of checked options
says something and every bound is one that rows can have.  Both are looked for in what was given,
before it is turned into texts and numbers: what becomes a text or a number only then is taken as
it comes.  Options that say something in all their clauses make statements that do.
-/

namespace NamedQuery

/-! ## Blank contents -/

/-- Half of a character is not blank. -/
def Glyph.isBlank : Glyph → Bool
  | char c => Text.isBlank c
  | half _ => false

namespace Content

def isBlank (c : Content) : Bool := c.glyphs.all Glyph.isBlank

theorem isBlank_text (s : String) : (text s).isBlank = Text.isBlankText s := by
  rw [isBlank, glyphs_text, Glyph.ofText, List.all_map]
  rfl

theorem isBlank_broken {points : List Nat} (hhalf : points.any Text.isHalf = true) :
    (broken points).isBlank = false := by
  obtain ⟨n, hn, hn'⟩ := List.any_eq_true.mp hhalf
  have hpoint : (Glyph.ofPoint n).isBlank = false := by
    simp only [Text.isHalf, Bool.and_eq_true, decide_eq_true_eq] at hn'
    rw [Glyph.ofPoint, dif_pos hn']
    rfl
  rw [isBlank, List.all_eq_false]
  exact ⟨_, List.mem_map_of_mem hn, by simp [hpoint]⟩

end Content

theorem Text.isBlank_of_isDigit {c : Char} (hdigit : c.isDigit = true) : isBlank c = false := by
  have hrange : 48 ≤ c.toNat ∧ c.toNat ≤ 57 := by
    simpa [Char.isDigit, UInt32.le_iff_toNat_le] using hdigit
  simp only [isBlank, Bool.or_eq_false_iff, Bool.and_eq_false_iff, decide_eq_false_iff_not]
  omega

theorem Glyph.all_isBlank_toString (k : Nat) :
    (Glyph.ofText (toString k)).all Glyph.isBlank = false := by
  have hdigits : (toString k).toList = Nat.toDigits 10 k := Nat.toList_repr
  obtain ⟨c, hc⟩ := List.exists_mem_of_ne_nil _ (Nat.toDigits_ne_nil (n := k) (b := 10))
  have hdigit : c.isDigit = true := Nat.isDigit_of_mem_toDigits (by decide) (by decide) hc
  rw [List.all_eq_false]
  exact ⟨.char c, List.mem_map_of_mem (hdigits ▸ hc),
    by simp [isBlank, Text.isBlank_of_isDigit hdigit]⟩

/-- A count that is not negative, or a text with something to read in it. -/
def Bound.IsUsable : Bound → Prop
  | count n => 0 ≤ n
  | text c => c.isBlank = false

namespace Options

/-! ## Reading -/

/-- Every clause says something and every bound can be met. -/
structure Meaningful (o : Options) : Prop where
  clauses : ∀ clause ∈ [o.select, o.tables, o.joins, o.conditions, o.group, o.order],
    ∀ c ∈ clause, c.isBlank = false
  bounds : ∀ bound ∈ [o.limit, o.offset], ∀ b ∈ bound, b.IsUsable

/-- The clauses of options, each behind the value of a mapping that it is read from. -/
def clauseReadings (entries : List (Value × Value)) (o : Options) :
    List (Value × Option Content) :=
  [(entry entries "select", o.select), (entry entries (tablesKey entries), o.tables),
    (entry entries "joins", o.joins), (entry entries "conditions", o.conditions),
    (entry entries "group", o.group), (entry entries "order", o.order)]

def boundReadings (entries : List (Value × Value)) (o : Options) : List (Value × Option Bound) :=
  [(entry entries "limit", o.limit), (entry entries "offset", o.offset)]

/-- The clause is what becomes of encoded text. -/
def Decodes (v : Value) (clause : Content) : Prop :=
  ∃ content s, v = .bytes content ∧ decodeText content = some s ∧ clause = .text s

/-- The bound is what becomes of a number that is no integer by its kind, or of encoded text. -/
inductive Converts : Value → Bound → Prop
  | float {x : Double} {n : Int} (hn : x.toInt? = some n) : Converts (.float x) (.count n)
  | decimal {d : Decimal} {n : Int} (hn : d.toInt? = some n) : Converts (.decimal d) (.count n)
  | number {content : List UInt8} {s : String} {n : Int} (hs : decodeText content = some s)
      (hn : readDigits s = some n) : Converts (.bytes content) (.count n)
  | text {content : List UInt8} {s : String} (hs : decodeText content = some s)
      (hn : readDigits s = none) : Converts (.bytes content) (.text (.text s))

theorem decodes_or_of_readText {v : Value} {c : Content} (hread : readText v = .ok c)
    (hstr : ∀ s, v ≠ .str s)
    (hhalves : ∀ points, v = .broken points → points.any Text.isHalf = true) :
    c.isBlank = false ∨ Decodes v c := by
  cases v with
  | str s => exact absurd rfl (hstr s)
  | arity a =>
      obtain rfl : Content.text a.word = c := Except.ok.inj hread
      refine .inl ?_
      cases a <;> decide
  | broken points =>
      obtain rfl : Content.broken points = c := Except.ok.inj hread
      exact .inl (Content.isBlank_broken (hhalves points rfl))
  | bytes content =>
      cases hs : decodeText content with
      | none => simp [readText, Value.content?, Value.text?, hs] at hread
      | some s =>
          have htext : Content.text s = c := by
            simpa [readText, Value.content?, Value.text?, hs] using hread
          exact .inr ⟨content, s, rfl, hs, htext.symm⟩
  | _ => cases hread

theorem decodes_or_of_readClause {v : Value} {clause : Option Content}
    (hread : readClause v = .ok clause)
    (hhalves : ∀ points, v = .broken points → points.any Text.isHalf = true) :
    ∀ c ∈ clause, c.isBlank = false ∨ Decodes v c := by
  intro c hc
  unfold readClause at hread
  split at hread
  · obtain rfl := Except.ok.inj hread
    cases hc
  · next s =>
    obtain rfl := Except.ok.inj hread
    split at hc
    · cases hc
    · next hblank =>
      obtain rfl := Option.some.inj hc
      exact .inl ((Content.isBlank_text s).trans ((Bool.not_eq_true _).mp hblank))
  · next hnull hstr =>
    cases htext : readText v with
    | error e =>
        rw [htext] at hread
        cases hread
    | ok found =>
        rw [htext] at hread
        obtain rfl := Except.ok.inj hread
        obtain rfl := Option.some.inj hc
        exact decodes_or_of_readText htext hstr hhalves

theorem toInt?_of_readWhole {x : Double} {n : Int} (hread : readWhole x = .ok n) :
    x.toInt? = some n := by
  unfold readWhole at hread
  split at hread
  · cases hread
  · split at hread
    · cases hread
    · next m hm =>
      split at hread
      · rw [hm, Except.ok.inj hread]
      · cases hread

theorem toInt?_of_readWholeDecimal {d : Decimal} {n : Int} (hread : readWholeDecimal d = .ok n) :
    d.toInt? = some n := by
  unfold readWholeDecimal at hread
  split at hread
  · cases hread
  · split at hread
    · cases hread
    · next m hm => rw [hm, Except.ok.inj hread]

theorem converts_of_readOtherBound {v : Value} {b : Bound} (hread : readOtherBound v = .ok b) :
    Converts v b := by
  unfold readOtherBound at hread
  dsimp only at hread
  split at hread
  · next x =>
    split at hread
    · next n hn =>
      obtain rfl := Except.ok.inj hread
      exact .float (toInt?_of_readWhole hn)
    · cases hread
  · next d =>
    split at hread
    · next n hn =>
      obtain rfl := Except.ok.inj hread
      exact .decimal (toInt?_of_readWholeDecimal hn)
    · cases hread
  · next content =>
    split at hread
    · cases hread
    · next s hs =>
      obtain rfl := Except.ok.inj hread
      cases hn : readDigits s with
      | none => exact .text hs hn
      | some n => exact .number hs hn
  · cases hread

theorem converts_or_of_readBound {field : String} {v : Value} {bound : Option Bound}
    (hread : readBound field v = .ok bound)
    (hhalves : ∀ points, v = .broken points → points.any Text.isHalf = true) :
    ∀ b ∈ bound, b.IsUsable ∨ Converts v b := by
  intro b hb
  unfold readBound at hread
  split at hread
  · obtain rfl := Except.ok.inj hread
    cases hb
  · cases hread
  · next n =>
    split at hread
    · cases hread
    · next hn =>
      obtain rfl := Except.ok.inj hread
      obtain rfl := Option.some.inj hb
      exact .inl (Int.not_lt.mp hn)
  · next s =>
    obtain rfl := Except.ok.inj hread
    split at hb
    · cases hb
    · next hblank =>
      obtain rfl := Option.some.inj hb
      exact .inl ((Content.isBlank_text s).trans ((Bool.not_eq_true _).mp hblank))
  · next a =>
    obtain rfl := Except.ok.inj hread
    obtain rfl := Option.some.inj hb
    refine .inl ?_
    change (Content.text a.word).isBlank = false
    cases a <;> decide
  · next points =>
    obtain rfl := Except.ok.inj hread
    obtain rfl := Option.some.inj hb
    exact .inl (Content.isBlank_broken (hhalves points rfl))
  · split at hread
    · next b' hother =>
      obtain rfl := Except.ok.inj hread
      obtain rfl := Option.some.inj hb
      exact .inr (converts_of_readOtherBound hother)
    · cases hread

theorem readClause_of_clauseOf {entries : List (Value × Value)} {key : String}
    {clause : Option Content} (hread : clauseOf entries key = .ok clause) :
    readClause (entry entries key) = .ok clause := by
  unfold clauseOf at hread
  split at hread
  · next s hs => rw [hs, Except.ok.inj hread]
  · cases hread

/-- Options that are read from a mapping are read field by field. -/
theorem readings_of_ofEntries {entries : List (Value × Value)} {o : Options}
    (hread : ofEntries entries = .ok o) :
    (∀ e ∈ o.clauseReadings entries, readClause e.1 = .ok e.2) ∧
      readBound "limit" (entry entries "limit") = .ok o.limit ∧
      readBound "offset" (entry entries "offset") = .ok o.offset := by
  unfold ofEntries at hread
  dsimp only at hread
  split at hread
  · cases hread
  · split at hread
    · next hselect htables hjoins hconditions hgroup horder hlimit hoffset _ _ =>
      obtain rfl := Except.ok.inj hread
      refine ⟨?_, hlimit, hoffset⟩
      simp only [clauseReadings, List.forall_mem_cons]
      exact ⟨readClause_of_clauseOf hselect, readClause_of_clauseOf htables,
        readClause_of_clauseOf hjoins, readClause_of_clauseOf hconditions,
        readClause_of_clauseOf hgroup, readClause_of_clauseOf horder, List.forall_mem_nil _⟩
    · cases hread

theorem mem_of_entry_eq {entries : List (Value × Value)} {key : String} {v : Value}
    (hentry : entry entries key = v) (hv : v ≠ .null) : ∃ e ∈ entries, e.2 = v := by
  unfold entry at hentry
  cases hfind : entries.find? fun e => e.1.text? = some key with
  | none =>
      rw [hfind] at hentry
      exact absurd hentry.symm hv
  | some e =>
      rw [hfind] at hentry
      exact ⟨e, List.mem_of_find?_eq_some hfind, hentry⟩

end Options

/-! ## Statements -/

/-- Every clause and bound says something, and the counts of options are written without a sign.
Only a table that the options leave to the backend is as it is there. -/
structure Layout.Says (l : Layout) (o : Options) : Prop where
  clauses : ∀ gs ∈ l.select :: [l.joins, l.conditions, l.group, l.order].flatMap Option.toList,
    gs.all Glyph.isBlank = false
  tables : o.tables.isSome → l.tables.all Glyph.isBlank = false
  bounds : ∀ gs ∈ [l.limit, l.offset].flatMap Option.toList, gs.all Glyph.isBlank = false
  limit : ∀ n, o.limit = some (.count n) → ∃ k : Nat, l.limit = some (Glyph.ofText (toString k))
  offset : ∀ n, o.offset = some (.count n) → ∃ k : Nat, l.offset = some (Glyph.ofText (toString k))

theorem Bound.IsUsable.all_isBlank {b : Bound} (h : b.IsUsable) :
    b.glyphs.all Glyph.isBlank = false := by
  cases b with
  | text c => exact h
  | count n =>
      obtain ⟨k, rfl⟩ := Int.eq_ofNat_of_zero_le h
      exact Glyph.all_isBlank_toString k

namespace Options

variable {o : Options} {backend : Backend} {l : Layout}

theorem exists_of_present {clause : Option Content} {gs : List Glyph}
    (hpresent : present clause = some gs) : ∃ c ∈ clause, gs = c.glyphs := by
  obtain ⟨c, hc, rfl⟩ := Option.map_eq_some_iff.mp hpresent
  exact ⟨c, (Option.filter_eq_some_iff.mp hc).1, rfl⟩

theorem boundText_eq_ok {v : Value} {text : Option (List Glyph)}
    (htext : Clauses.boundText v = .ok text) :
    text = if v.isNull then none else some v.content.glyphs := by
  unfold Clauses.boundText Value.written at htext
  split at htext
  · next hnull => rw [if_pos hnull, Except.ok.inj htext]
  · next hnull =>
    split at htext
    · cases htext
    · rw [if_neg hnull]
      exact (Except.ok.inj htext).symm

theorem glyphs_of_boundText {bound : Option Bound} {text : Option (List Glyph)}
    (htext : Clauses.boundText (boundValue bound) = .ok text) :
    text = bound.map Bound.glyphs := by
  rw [boundText_eq_ok htext]
  cases bound with
  | none => rfl
  | some b =>
      cases b with
      | text c => cases c <;> rfl
      | count n => rfl

/-- A statement has the texts of the options that it is assembled from. -/
theorem texts_of_layout (hlayout : o.clauses.layout backend = .ok l) :
    l.select = (present o.select).getD (Glyph.ofText "*") ∧
      (∀ gs, present o.tables = some gs → l.tables = gs) ∧ l.joins = present o.joins ∧
      l.conditions = present o.conditions ∧ l.group = present o.group ∧
      l.order = present o.order ∧ l.limit = o.limit.map Bound.glyphs ∧
      l.offset = o.offset.map Bound.glyphs := by
  simp only [Clauses.layout, bind_eq_ok] at hlayout
  obtain ⟨tables, htables, joins, hjoins, conditions, hconditions, restriction, -, group, hgroup,
    order, horder, limit, hlimit, offset, hoffset, hl⟩ := hlayout
  obtain rfl := Except.ok.inj hl
  have hclause {refusal : Value → Error} {clause : Option Content} {text : Option (List Glyph)}
      (htext : Clauses.clauseText refusal (textValue clause) = .ok text) :
      text = present clause := by
    rw [clauseText_textValue] at htext
    exact (Except.ok.inj htext).symm
  refine ⟨content_select o, ?_, hclause hjoins, hclause hconditions, hclause hgroup,
    hclause horder, glyphs_of_boundText hlimit, glyphs_of_boundText hoffset⟩
  intro gs hgs
  have hgiven : o.clauses.tablesText backend = .ok gs := by
    have hsome : present o.tables = none → backend.tableName = .ok "" := by
      intro hnone
      rw [hgs] at hnone
      cases hnone
    rw [tablesText_clauses hsome, hgs]
    rfl
  exact Except.ok.inj (htables.symm.trans hgiven)

theorem Meaningful.normalized (h : o.Meaningful) (arity : Arity) :
    (o.normalized arity).Meaningful := by
  cases arity with
  | many => exact h
  | single =>
      refine ⟨h.clauses, ?_⟩
      have hoffset := h.bounds o.offset (by simp)
      rw [List.forall_mem_cons, List.forall_mem_singleton]
      refine ⟨?_, hoffset⟩
      intro b hb
      obtain rfl := Option.some.inj hb
      exact Int.one_nonneg

/-- Options that say something make statements that do. -/
theorem Meaningful.of_layout (h : o.Meaningful) (hlayout : o.clauses.layout backend = .ok l) :
    l.Says o := by
  obtain ⟨hselect, htables, hjoins, hconditions, hgroup, horder, hlimit, hoffset⟩ :=
    texts_of_layout hlayout
  have hclause {clause : Option Content}
      (hmem : clause ∈ [o.select, o.tables, o.joins, o.conditions, o.group, o.order]) :
      ∀ gs ∈ (present clause).toList, gs.all Glyph.isBlank = false := by
    intro gs hgs
    obtain ⟨c, hc, rfl⟩ := exists_of_present (Option.mem_toList.mp hgs)
    exact h.clauses clause hmem c hc
  have hbound {bound : Option Bound} (hmem : bound ∈ [o.limit, o.offset]) :
      ∀ gs ∈ (bound.map Bound.glyphs).toList, gs.all Glyph.isBlank = false := by
    intro gs hgs
    obtain ⟨b, hb, rfl⟩ := Option.map_eq_some_iff.mp (Option.mem_toList.mp hgs)
    exact (h.bounds bound hmem b hb).all_isBlank
  have hcount {bound : Option Bound} (hmem : bound ∈ [o.limit, o.offset]) :
      ∀ n, bound = some (.count n) →
        ∃ k : Nat, bound.map Bound.glyphs = some (Glyph.ofText (toString k)) := by
    rintro n rfl
    obtain ⟨k, rfl⟩ := Int.eq_ofNat_of_zero_le (h.bounds _ hmem _ rfl : 0 ≤ n)
    exact ⟨k, rfl⟩
  constructor
  · rw [List.forall_mem_cons, hselect, hjoins, hconditions, hgroup, horder]
    constructor
    · cases hpresent : present o.select with
      | none => decide
      | some gs => exact hclause (by simp) gs (Option.mem_toList.mpr hpresent)
    · simp only [List.flatMap_cons, List.flatMap_nil, List.append_nil, List.forall_mem_append]
      exact ⟨hclause (by simp), hclause (by simp), hclause (by simp), hclause (by simp)⟩
  · intro hsome
    obtain ⟨c, hc⟩ := Option.isSome_iff_exists.mp hsome
    have hvisible : c.isBlank = false := h.clauses o.tables (by simp) c hc
    have hpresent : present o.tables = some c.glyphs := by
      have hne : c ≠ .text "" := by
        rintro rfl
        cases hvisible
      rw [hc, present, Option.filter_some, if_pos (by simpa using hne)]
      rfl
    rw [htables _ hpresent]
    exact hvisible
  · rw [hlimit, hoffset]
    simp only [List.flatMap_cons, List.flatMap_nil, List.append_nil, List.forall_mem_append]
    exact ⟨hbound (by simp), hbound (by simp)⟩
  · rw [hlimit]
    exact hcount (by simp)
  · rw [hoffset]
    exact hcount (by simp)

/-- Options that are read from a mapping: a clause says something unless it was given as bytes, and
then it is the text that they encode; a bound is a count that is not negative or a text that says
something unless it was given as bytes or as a number that is no integer by its kind, and then it is
what that is converted to.  Where nothing was converted, the statement that is assembled from the
options, be it for one row or for all, has no empty clause and no negative count. -/
theorem says_of_ofEntries {entries : List (Value × Value)}
    (hhalves : ∀ e ∈ entries, ∀ points, e.2 = .broken points → points.any Text.isHalf = true)
    (hread : ofEntries entries = .ok o) :
    (∀ e ∈ o.clauseReadings entries, ∀ c ∈ e.2, c.isBlank = false ∨ Decodes e.1 c) ∧
      (∀ e ∈ o.boundReadings entries, ∀ b ∈ e.2, b.IsUsable ∨ Converts e.1 b) ∧
      ((∀ e ∈ o.clauseReadings entries, ∀ c, ¬Decodes e.1 c) →
        (∀ e ∈ o.boundReadings entries, ∀ b, ¬Converts e.1 b) →
        ∀ (arity : Arity) (model : String) (hook : Option Hook) (backend : Backend)
          (b after : Binder) (t : Template),
          ((o.normalized arity).prefetched model hook).result = .ok (o.normalized arity).clauses →
          ((o.normalized arity).assemble model hook backend b).result = .ok (t, after) →
            ∃ l, (o.normalized arity).clauses.layout backend = .ok l ∧
              l.statement backend b = (t, after) ∧ l.Says (o.normalized arity)) := by
  obtain ⟨hclauses, hlimit, hoffset⟩ := readings_of_ofEntries hread
  have hgenuine (key : String) (points : List Nat) (hentry : entry entries key = .broken points) :
      points.any Text.isHalf = true := by
    obtain ⟨e, he, hvalue⟩ := mem_of_entry_eq hentry nofun
    exact hhalves e he points hvalue
  have hclause : ∀ e ∈ o.clauseReadings entries, ∀ c ∈ e.2,
      c.isBlank = false ∨ Decodes e.1 c := by
    intro e he
    refine decodes_or_of_readClause (hclauses e he) ?_
    simp only [clauseReadings, List.mem_cons, List.not_mem_nil, or_false] at he
    rcases he with rfl | rfl | rfl | rfl | rfl | rfl <;> exact hgenuine _
  have hbound : ∀ e ∈ o.boundReadings entries, ∀ b ∈ e.2, b.IsUsable ∨ Converts e.1 b := by
    rw [boundReadings, List.forall_mem_cons, List.forall_mem_singleton]
    exact ⟨converts_or_of_readBound hlimit (hgenuine _),
      converts_or_of_readBound hoffset (hgenuine _)⟩
  refine ⟨hclause, hbound, ?_⟩
  intro hnoBytes hnoNumbers arity model hook backend b after t hkept hassemble
  have hmeaningful : o.Meaningful := by
    constructor
    · intro clause hmem c hc
      have hreading : ∃ e ∈ o.clauseReadings entries, e.2 = clause :=
        List.mem_map.mp (hmem : clause ∈ (o.clauseReadings entries).map Prod.snd)
      obtain ⟨e, he, rfl⟩ := hreading
      exact (hclause e he c hc).resolve_right (hnoBytes e he c)
    · intro bound hmem b hb
      have hreading : ∃ e ∈ o.boundReadings entries, e.2 = bound :=
        List.mem_map.mp (hmem : bound ∈ (o.boundReadings entries).map Prod.snd)
      obtain ⟨e, he, rfl⟩ := hreading
      exact (hbound e he b hb).resolve_right (hnoNumbers e he b)
  rw [assemble, Traced.bind_of_ok hkept] at hassemble
  obtain ⟨l, hlayout, hstatement⟩ := Clauses.exists_layout hassemble
  exact ⟨l, hlayout, hstatement, (hmeaningful.normalized arity).of_layout hlayout⟩

/-- Options as a mapping gives them, one of them blank. -/
def menu : List (Value × Value) :=
  [(.str "conditions", .str "diet = :diet"), (.str "limit", .int 3),
    (.str "offset", .str ":skipped"), (.str "select", .str "  ")]

theorem says_of_menu :
    ∃ (o : Options) (t : Template) (after : Binder) (l : Layout), ofEntries menu = .ok o ∧
      o.select = none ∧
      (o.assemble "Recipe" none FixedBackend.standard.toBackend .empty).result = .ok (t, after) ∧
      t.text = "SELECT * FROM recipes WHERE (diet = :diet) LIMIT 3 OFFSET :skipped" ∧
      l.statement FixedBackend.standard.toBackend .empty = (t, after) ∧ l.Says o := by
  obtain ⟨o, hread, hselect⟩ : ∃ o, ofEntries menu = .ok o ∧ o.select = none := ⟨_, rfl, rfl⟩
  have hhalves : ∀ e ∈ menu, ∀ points, e.2 = .broken points → points.any Text.isHalf = true := by
    simp [menu]
  have htext : (ofEntries menu).toOption.bind (fun o =>
      (o.assemble "Recipe" none FixedBackend.standard.toBackend .empty).result.toOption.map
        (·.1.text)) =
      some "SELECT * FROM recipes WHERE (diet = :diet) LIMIT 3 OFFSET :skipped" := by
    decide +kernel
  rw [hread] at htext
  obtain ⟨⟨t, after⟩, hassemble, htext⟩ := Option.map_eq_some_iff.mp htext
  rw [toOption_eq_some] at hassemble
  obtain ⟨-, -, hsays⟩ := says_of_ofEntries hhalves hread
  obtain ⟨l, -, hstatement, hl⟩ := hsays
    (by simp only [clauseReadings, List.forall_mem_cons]
        exact ⟨nofun, nofun, nofun, nofun, nofun, nofun, nofun⟩)
    (by simp only [boundReadings, List.forall_mem_cons]
        exact ⟨nofun, nofun, nofun⟩)
    .many "Recipe" none FixedBackend.standard.toBackend .empty after t rfl hassemble
  exact ⟨o, t, after, l, hread, hselect, hassemble, htext, hstatement, hl⟩

/-- The number one below zero, which is no integer by its kind. -/
def belowZero : Double := .finite true 0x10000000000000 (-52)

/-- A mapping whose clause is encoded and whose limit is no integer by its kind. -/
def faded : List (Value × Value) :=
  [(.str "conditions", .bytes [32]), (.str "limit", .float belowZero)]

/-- A blank clause and a negative limit are not seen where they only become a text and a number once
they were looked at. -/
theorem assemble_faded :
    ∃ o t after, ofEntries faded = .ok o ∧ o.conditions = some (.text " ") ∧
      o.limit = some (.count (-1)) ∧ ¬o.Meaningful ∧
      (o.assemble "Recipe" none FixedBackend.standard.toBackend .empty).result = .ok (t, after) ∧
      t.text = "SELECT * FROM recipes WHERE ( ) LIMIT -1" := by
  obtain ⟨o, hread, hconditions, hlimit⟩ : ∃ o, ofEntries faded = .ok o ∧
      o.conditions = some (.text " ") ∧ o.limit = some (.count (-1)) := ⟨_, rfl, rfl, rfl⟩
  have htext : (ofEntries faded).toOption.bind (fun o =>
      (o.assemble "Recipe" none FixedBackend.standard.toBackend .empty).result.toOption.map
        (·.1.text)) = some "SELECT * FROM recipes WHERE ( ) LIMIT -1" := by
    decide +kernel
  rw [hread] at htext
  obtain ⟨⟨t, after⟩, hassemble, htext⟩ := Option.map_eq_some_iff.mp htext
  refine ⟨o, t, after, hread, hconditions, hlimit, ?_, toOption_eq_some.mp hassemble, htext⟩
  intro h
  have husable : (Bound.count (-1)).IsUsable := h.bounds o.limit List.mem_cons_self _ hlimit
  exact absurd husable (by decide : ¬(0 : Int) ≤ -1)

end Options

end NamedQuery
