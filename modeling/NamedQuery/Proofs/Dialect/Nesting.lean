import NamedQuery.Proofs.Dialect.Literals
import NamedQuery.Proofs.Statement.Splicing
import NamedQuery.Proofs.Template.Restoring

/-!
# Lists in statements

A list or a tuple is written as the values that it holds, however deep they lie in it: the leaves
from left to right, each with a text of its own.  What holds nothing is a leaf itself, so there is
always something to write, and the parentheses of `IN` are never empty.  The first leaf without a
text decides how writing fails: its kind is told, unless not even this can be told.
-/

namespace NamedQuery

namespace Value

/-- The items of a list or a tuple. -/
def items? : Value → Option (List Value)
  | list items => some items
  | tuple items => some items
  | _ => none

/-- A value that holds no further ones to be written: it is no list and no tuple, or an empty
one. -/
def IsLeaf (v : Value) : Prop := ∀ items, v.items? = some items → items = []

mutual

/-- The leaves of a value from left to right. -/
def leaves : Value → List Value
  | list [] => [list []]
  | tuple [] => [tuple []]
  | list items => leavesOf items
  | tuple items => leavesOf items
  | v => [v]

def leavesOf : List Value → List Value
  | [] => []
  | item :: rest => leaves item ++ leavesOf rest

end

theorem leavesOf_eq_flatMap (items : List Value) : leavesOf items = items.flatMap leaves := by
  induction items with
  | nil => rfl
  | cons item rest ih => rw [leavesOf, ih, List.flatMap_cons]

theorem leaves_of_isLeaf {v : Value} (hleaf : v.IsLeaf) : v.leaves = [v] := by
  cases v with
  | list items => rw [hleaf items rfl, leaves]
  | tuple items => rw [hleaf items rfl, leaves]
  | _ => rfl

theorem leaves_of_items {v first : Value} {rest : List Value}
    (hitems : v.items? = some (first :: rest)) : v.leaves = (first :: rest).flatMap leaves := by
  rw [← leavesOf_eq_flatMap]
  cases v with
  | list items =>
      rw [Option.some.inj hitems, leaves]
      exact nofun
  | tuple items =>
      rw [Option.some.inj hitems, leaves]
      exact nofun
  | _ => cases hitems

theorem sizeOf_lt_of_mem_items {v item : Value} {items : List Value}
    (hitems : v.items? = some items) (hitem : item ∈ items) : sizeOf item < sizeOf v := by
  have hlt := List.sizeOf_lt_of_mem hitem
  cases v with
  | list held =>
      rw [Option.some.inj hitems, list.sizeOf_spec]
      omega
  | tuple held =>
      rw [Option.some.inj hitems, tuple.sizeOf_spec]
      omega
  | _ => cases hitems

/-- What holds of the leaves, and of a value if it holds of its items, holds of all values. -/
@[elab_as_elim]
theorem inductionOnItems {motive : Value → Prop} (leaf : ∀ v : Value, v.IsLeaf → motive v)
    (nested : ∀ (v first : Value) (rest : List Value), v.items? = some (first :: rest) →
      (∀ item ∈ first :: rest, motive item) → motive v) (v : Value) : motive v := by
  cases hitems : v.items? with
  | none => exact leaf v (by simp [IsLeaf, hitems])
  | some items =>
      cases items with
      | nil => exact leaf v (by simp [IsLeaf, hitems])
      | cons first rest =>
          exact nested v first rest hitems fun item hitem => inductionOnItems leaf nested item
termination_by sizeOf v
decreasing_by exact sizeOf_lt_of_mem_items hitems hitem

theorem isLeaf_of_mem_leaves {v leaf : Value} (hleaf : leaf ∈ v.leaves) : leaf.IsLeaf := by
  induction v using inductionOnItems with
  | leaf v hv =>
      rw [leaves_of_isLeaf hv, List.mem_singleton] at hleaf
      exact hleaf ▸ hv
  | nested v first rest hitems ih =>
      rw [leaves_of_items hitems, List.mem_flatMap] at hleaf
      obtain ⟨item, hitem, hmem⟩ := hleaf
      exact ih item hitem hmem

theorem leaves_ne_nil (v : Value) : v.leaves ≠ [] := by
  induction v using inductionOnItems with
  | leaf v hv =>
      rw [leaves_of_isLeaf hv]
      exact List.cons_ne_nil v []
  | nested v first rest hitems ih =>
      rw [leaves_of_items hitems, List.flatMap_cons]
      exact List.append_ne_nil_of_left_ne_nil (ih first List.mem_cons_self) _

end Value

namespace Dialect

variable {d : Dialect} {v : Value}

/-- The text of a leaf, if it has one: a list or a tuple that holds nothing is written like the
value that equals nothing. -/
def leafText? (d : Dialect) (leaf : Value) : Option String :=
  match leaf.items? with
  | some _ => some "NULL"
  | none => d.literal? leaf

def isUnwritten (d : Dialect) (leaf : Value) : Bool := (d.leafText? leaf).isNone

/-- Leaves behind each other, or the failure at the first one that has no text. -/
def written (d : Dialect) (leaves : List Value) : Except Error String :=
  match leaves.find? d.isUnwritten with
  | none => .ok (String.intercalate ", " (leaves.filterMap d.leafText?))
  | some leaf => .error (d.refusal leaf)

/-- Two texts with a comma between them, if both are there. -/
def listed (left right : Except Error String) : Except Error String := do
  let front ← left
  let back ← right
  .ok (front ++ ", " ++ back)

theorem filterMap_leafText?_ne_nil {leaves : List Value} (hsome : leaves ≠ [])
    (hall : leaves.find? d.isUnwritten = none) : leaves.filterMap d.leafText? ≠ [] := by
  cases leaves with
  | nil => exact absurd rfl hsome
  | cons leaf rest =>
      have hleaf := List.find?_eq_none.mp hall leaf List.mem_cons_self
      cases htext : d.leafText? leaf with
      | none => simp [isUnwritten, htext] at hleaf
      | some text =>
          rw [List.filterMap_cons_some htext]
          exact List.cons_ne_nil text _

theorem written_append {left right : List Value} (hleft : left ≠ []) (hright : right ≠ []) :
    d.written (left ++ right) = listed (d.written left) (d.written right) := by
  rw [written, List.find?_append]
  cases hfront : left.find? d.isUnwritten with
  | some leaf => simp only [written, hfront]; rfl
  | none =>
      cases hback : right.find? d.isUnwritten with
      | some leaf => simp only [written, hfront, hback]; rfl
      | none =>
          have htexts := String.intercalate_append_of_ne_nil (s := ", ")
            (filterMap_leafText?_ne_nil hleft hfront) (filterMap_leafText?_ne_nil hright hback)
          simp only [written, hfront, hback, List.filterMap_append, Option.none_or, htexts]
          rfl

theorem quote_of_no_items (hitems : v.items? = none) : d.quote v = d.quoteSingle v := by
  cases v with
  | list items => cases hitems
  | tuple items => cases hitems
  | _ => rfl

theorem quote_of_isLeaf (hleaf : v.IsLeaf) : d.quote v = d.written [v] := by
  have hone : d.written [v] = (d.leafText? v).elim (.error (d.refusal v)) .ok := by
    cases htext : d.leafText? v with
    | none => simp [written, isUnwritten, htext]
    | some text => simp [written, isUnwritten, htext]
  rw [hone]
  cases hitems : v.items? with
  | none =>
      rw [quote_of_no_items hitems, leafText?, hitems, quoteSingle]
      cases d.literal? v <;> rfl
  | some items =>
      obtain rfl := hleaf items hitems
      cases v with
      | list held => rw [Option.some.inj hitems]; rfl
      | tuple held => rw [Option.some.inj hitems]; rfl
      | _ => cases hitems

/-- The items behind each other. -/
def quoteAll (d : Dialect) (items : List Value) : Except Error String :=
  String.intercalate ", " <$> d.quoteItems items

theorem quote_of_items {first : Value} {rest : List Value}
    (hitems : v.items? = some (first :: rest)) : d.quote v = d.quoteAll (first :: rest) := by
  have hbind : (do
      let texts ← d.quoteItems (first :: rest)
      .ok (String.intercalate ", " texts)) = d.quoteAll (first :: rest) := by
    rw [quoteAll]
    cases d.quoteItems (first :: rest) <;> rfl
  rw [← hbind]
  cases v with
  | list items =>
      rw [Option.some.inj hitems, quote]
      exact nofun
  | tuple items =>
      rw [Option.some.inj hitems, quote]
      exact nofun
  | _ => cases hitems

theorem quoteAll_singleton (d : Dialect) (item : Value) : d.quoteAll [item] = d.quote item := by
  rw [quoteAll, quoteItems, quoteItems]
  cases d.quote item with
  | error e => rfl
  | ok text => exact congrArg Except.ok String.intercalate_singleton

theorem quoteAll_cons_cons (d : Dialect) (item next : Value) (rest : List Value) :
    d.quoteAll (item :: next :: rest) = listed (d.quote item) (d.quoteAll (next :: rest)) := by
  rw [quoteAll, quoteAll, quoteItems]
  cases d.quote item with
  | error e => rfl
  | ok text =>
      rw [quoteItems]
      cases d.quote next with
      | error e => rfl
      | ok second =>
          cases d.quoteItems rest with
          | error e => rfl
          | ok others => exact congrArg Except.ok String.intercalate_cons_cons

/-- Items that are written as their leaves are so behind each other, too. -/
theorem quoteAll_eq_written {items : List Value} (hsome : items ≠ [])
    (hitems : ∀ item ∈ items, d.quote item = d.written item.leaves) :
    d.quoteAll items = d.written (items.flatMap Value.leaves) := by
  induction items with
  | nil => exact absurd rfl hsome
  | cons item rest ih =>
      obtain ⟨hitem, hrest⟩ := List.forall_mem_cons.mp hitems
      cases rest with
      | nil => rw [quoteAll_singleton, hitem, List.flatMap_singleton]
      | cons next others =>
          have hnext : (next :: others).flatMap Value.leaves ≠ [] := by
            rw [List.flatMap_cons]
            exact List.append_ne_nil_of_left_ne_nil next.leaves_ne_nil _
          calc
            d.quoteAll (item :: next :: others) =
                listed (d.quote item) (d.quoteAll (next :: others)) :=
              quoteAll_cons_cons d item next others
            _ = listed (d.written item.leaves)
                (d.written ((next :: others).flatMap Value.leaves)) := by
              rw [hitem, ih (List.cons_ne_nil next others) hrest]
            _ = d.written ((item :: next :: others).flatMap Value.leaves) :=
              (written_append item.leaves_ne_nil hnext).symm

/-- A value is written as its leaves. -/
theorem quote_eq_written (d : Dialect) (v : Value) : d.quote v = d.written v.leaves := by
  induction v using Value.inductionOnItems with
  | leaf v hleaf => rw [quote_of_isLeaf hleaf, Value.leaves_of_isLeaf hleaf]
  | nested v first rest hitems ih =>
      rw [quote_of_items hitems, Value.leaves_of_items hitems]
      exact quoteAll_eq_written (List.cons_ne_nil first rest) ih

end Dialect

/-! ## Texts that are not empty -/

theorem Double.toText_ne_empty (x : Double) : x.toText ≠ "" := by
  have hwritten (digits : List Char) (point : Int) : magnitudeText digits point ≠ [] := by
    rw [magnitudeText]
    split
    · rw [positional]
      split
      · exact List.cons_ne_nil _ _
      · split <;> simp
    · simp [scientific]
  cases x with
  | nan => decide
  | infinite negative => cases negative <;> decide
  | finite negative m e =>
      have hbody : (if m = 0 then ['0', '.', '0'] else
          magnitudeText (shortest m e).1 (shortest m e).2) ≠ [] := by
        split
        · decide
        · exact hwritten _ _
      cases negative with
      | true => simp [toText]
      | false => simpa [toText] using hbody

theorem Decimal.toText_ne_empty (x : Decimal) : x.toText ≠ "" := by
  have hpointed (digits : List Char) (point : Int) : pointed digits point ≠ [] := by
    rw [pointed]
    split
    · exact List.cons_ne_nil _ _
    · next hpoint =>
      split
      · -- with no digits at all there are zeros up to the point
        cases digits with
        | nil => simpa using Int.ne_of_gt (Int.not_le.mp hpoint)
        | cons first rest => exact List.cons_ne_nil _ _
      · simp
  cases x with
  | nan negative signaling payload => cases negative <;> cases signaling <;> simp [toText]
  | infinite negative => cases negative <;> decide
  | finite negative coefficient exponent =>
      have hbody : magnitudeText coefficient exponent ≠ [] := by
        simp only [magnitudeText]
        split
        · exact hpointed _ _
        · simp
      cases negative with
      | true => simp [toText]
      | false => simpa [toText] using hbody

namespace Dialect

variable {d : Dialect} {v : Value}

/-- Whatever is written is written with at least one character. -/
theorem literal?_ne_empty {text : String} (htext : d.literal? v = some text) : text ≠ "" := by
  cases v with
  | null => cases htext; decide
  | bool b => cases htext; cases d <;> cases b <;> decide
  | int n =>
      change Numeral.write? n = some text at htext
      unfold Numeral.write? at htext
      split at htext
      · cases htext
      · cases htext
        cases n with
        | ofNat n => exact Nat.repr_ne_empty
        | negSucc n => simp [toString, Int.repr]
  | float x => exact Option.some.inj htext ▸ x.toText_ne_empty
  | decimal x => exact Option.some.inj htext ▸ x.toText_ne_empty
  | str s => cases htext; simp [textLiteral, Text.enclosed]
  | broken points => cases htext; simp [textLiteral, Text.enclosed]
  | bytes content =>
      obtain ⟨s, -, rfl⟩ := Option.map_eq_some_iff.mp htext
      simp [Text.enclosed]
  | date x =>
      cases htext
      rw [dateLiteral]
      split <;> simp [converted]
  | moment m =>
      cases htext
      cases d with
      | oracle =>
          rw [momentLiteral]
          split <;> simp [converted]
      | _ => simp [momentLiteral]
  | clock t =>
      cases htext
      rw [clockLiteral]
      split <;> simp
  | duration x => cases d <;> cases htext <;> simp
  | uuid u => cases htext; cases d <;> simp [uuidLiteral, Text.enclosed]
  | _ => cases htext

theorem leafText?_ne_empty {leaf : Value} {text : String} (htext : d.leafText? leaf = some text) :
    text ≠ "" := by
  rw [leafText?] at htext
  split at htext
  · exact Option.some.inj htext ▸ by decide
  · exact literal?_ne_empty htext

theorem intercalate_ne_empty {texts : List String} (hsome : texts ≠ [])
    (htexts : ∀ text ∈ texts, text ≠ "") : String.intercalate ", " texts ≠ "" := by
  cases texts with
  | nil => exact absurd rfl hsome
  | cons text rest =>
      have htext := htexts text List.mem_cons_self
      cases rest with
      | nil => simpa using htext
      | cons next others => simp [htext]

theorem written_eq_ok {leaves : List Value} {text : String} :
    d.written leaves = .ok text ↔ (∀ leaf ∈ leaves, d.leafText? leaf ≠ none) ∧
      text = String.intercalate ", " (leaves.filterMap d.leafText?) := by
  have hall : leaves.find? d.isUnwritten = none ↔ ∀ leaf ∈ leaves, d.leafText? leaf ≠ none := by
    simp [isUnwritten]
  rw [← hall, written]
  cases leaves.find? d.isUnwritten with
  | none => simp [eq_comm]
  | some leaf => simp

theorem written_ne_empty {leaves : List Value} {text : String} (hsome : leaves ≠ [])
    (htext : d.written leaves = .ok text) : text ≠ "" := by
  obtain ⟨hall, rfl⟩ := written_eq_ok.mp htext
  refine intercalate_ne_empty ?_ ?_
  · obtain ⟨leaf, hleaf⟩ := List.exists_mem_of_ne_nil leaves hsome
    obtain ⟨first, hfirst⟩ := Option.ne_none_iff_exists'.mp (hall leaf hleaf)
    exact List.ne_nil_of_mem (List.mem_filterMap.mpr ⟨leaf, hleaf, hfirst⟩)
  · intro text hmem
    obtain ⟨leaf, -, hleaf⟩ := List.mem_filterMap.mp hmem
    exact leafText?_ne_empty hleaf

/-- The first leaf that has no text. -/
theorem find?_isUnwritten_eq_some {leaves : List Value} {leaf : Value} :
    leaves.find? d.isUnwritten = some leaf ↔ ∃ before behind, leaves = before ++ leaf :: behind ∧
      (∀ b ∈ before, d.leafText? b ≠ none) ∧ d.leafText? leaf = none := by
  have hnone (l : Value) : d.isUnwritten l = true ↔ d.leafText? l = none :=
    Option.isNone_iff_eq_none
  have hsome (l : Value) : (!d.isUnwritten l) = true ↔ d.leafText? l ≠ none := by
    rw [Bool.not_eq_true', ← Bool.not_eq_true, hnone]
  simp only [List.find?_eq_some_iff_append, hnone, hsome]
  constructor
  · rintro ⟨hleaf, before, behind, hleaves, hbefore⟩
    exact ⟨before, behind, hleaves, hbefore, hleaf⟩
  · rintro ⟨before, behind, hleaves, hbefore, hleaf⟩
    exact ⟨hleaf, before, behind, hleaves, hbefore⟩

theorem written_eq_error {leaves : List Value} {e : Error} :
    d.written leaves = .error e ↔ ∃ before leaf behind, leaves = before ++ leaf :: behind ∧
      (∀ b ∈ before, d.leafText? b ≠ none) ∧ d.leafText? leaf = none ∧
        e = d.refusal leaf := by
  rw [written]
  constructor
  · intro hwritten
    split at hwritten
    · cases hwritten
    · next leaf hfirst =>
      obtain ⟨before, behind, hleaves, hbefore, hleaf⟩ := find?_isUnwritten_eq_some.mp hfirst
      exact ⟨before, leaf, behind, hleaves, hbefore, hleaf, (Except.error.inj hwritten).symm⟩
  · rintro ⟨before, leaf, behind, hleaves, hbefore, hleaf, rfl⟩
    rw [find?_isUnwritten_eq_some.mpr ⟨before, behind, hleaves, hbefore, hleaf⟩]

/-- The failure at a leaf tells the type of the leaf.  Only a leaf that has an integer with too many
digits, or is one, fails like this integer. -/
theorem eq_refusal_iff {leaf : Value} {e : Error} : e = d.refusal leaf ↔
    leaf.isUnwritable = false ∧ e = .unquotable leaf d.name ∧ e.kind = .backend ∧
        e.message = "Cannot quote " ++ leaf.typeName ++ " value for dialect " ++ d.name ∨
      leaf.isUnwritable = true ∧ e = .unwritable ∧ e.kind = .value := by
  rw [refusal]
  cases leaf.isUnwritable with
  | false =>
      constructor
      · rintro rfl
        exact .inl ⟨rfl, rfl, rfl, rfl⟩
      · rintro (⟨-, he, -⟩ | ⟨hfalse, -⟩)
        · exact he
        · cases hfalse
  | true =>
      constructor
      · rintro rfl
        exact .inr ⟨rfl, rfl, rfl⟩
      · rintro (⟨htrue, -⟩ | ⟨-, he, -⟩)
        · cases htrue
        · exact he

theorem leafText?_of_isTooLong {n : Int} (hlong : Numeral.isTooLong n = true) :
    d.leafText? (.int n) = none := by
  change Numeral.write? n = none
  rw [Numeral.write?, if_pos hlong]

theorem refusal_of_isTooLong {n : Int} (hlong : Numeral.isTooLong n = true) :
    d.refusal (.int n) = .unwritable := by
  rw [refusal, Value.isUnwritable, if_pos hlong]

/-- What stands between the parentheses of `IN` is the text of the value. -/
theorem render_in (write : Value → Except Error String) (v : Value) :
    (Binder.empty.bind "id IN (:ids)").1.render (fun _ => write v) =
      (fun text => "id IN (" ++ text ++ ")") <$> write v := by
  have hbind : (Binder.empty.bind "id IN (:ids)").1 =
      .literal "id IN (" ++ .ofSlot ⟨"ids", 0⟩ ++ .literal ")" := by decide
  have htext (text : String) : Glyph.toText (Glyph.ofText "id IN (" ++
      (Glyph.ofText text ++ Glyph.ofText ")")) = "id IN (" ++ text ++ ")" := by
    rw [← Glyph.toText_ofText ("id IN (" ++ text ++ ")"), Glyph.ofText_append, Glyph.ofText_append,
      List.append_assoc]
  simp only [hbind, Template.render, Template.literal, Template.ofSlot, Template.symbols_append,
    Template.symbols_ofGlyphs, Template.renderSymbols_append, Template.renderSymbols_glyphs,
    Template.renderSymbols, ← htext]
  cases write v with
  | error e => rfl
  | ok text => simp

end Dialect

namespace Catalog

open Dialect

/-- A mapped class writes a value as its leaves, from left to right with commas between them; an
empty list, an empty tuple and the value that stands for nothing are written `NULL`.  So the text
is never empty, not even in the parentheses of `IN`.  It fails exactly if a leaf has no text, and
tells what the first such leaf is, unless this leaf is an integer with too many digits or has one in
it.  What is put together is written behind each other. -/
theorem quote_nested (catalog : Catalog) (d : Dialect) (stored : List StoredRow)
    (m : MappedClass) :
    let quote := (catalog.toBackend d stored m).quote
    (∀ v : Value, (∀ leaf ∈ v.leaves, leaf.IsLeaf) ∧
      (∀ text, quote v = .ok text ↔ (∀ leaf ∈ v.leaves, d.leafText? leaf ≠ none) ∧
        text = String.intercalate ", " (v.leaves.filterMap d.leafText?)) ∧
      (∀ text, quote v = .ok text → text ≠ "" ∧ ∃ sql,
        (Binder.empty.bind "id IN (:ids)").1.render (fun _ => quote v) = .ok sql ∧
          sql ≠ "id IN ()") ∧
      (∀ e, quote v = .error e ↔ ∃ before leaf behind, v.leaves = before ++ leaf :: behind ∧
        (∀ b ∈ before, d.leafText? b ≠ none) ∧ d.leafText? leaf = none ∧
        (leaf.isUnwritable = false ∧ e = .unquotable leaf d.name ∧ e.kind = .backend ∧
            e.message = "Cannot quote " ++ leaf.typeName ++ " value for dialect " ++ d.name ∨
          leaf.isUnwritable = true ∧ e = .unwritable ∧ e.kind = .value))) ∧
    (∀ leaf : Value, leaf = .null ∨ leaf.items? = some [] → d.leafText? leaf = some "NULL") ∧
    ∀ made ∈ [Value.list, Value.tuple], ∀ xs ys : List Value, xs ≠ [] → ys ≠ [] →
      quote (made (xs ++ ys)) = (do
        let front ← quote (made xs)
        let back ← quote (made ys)
        .ok (front ++ ", " ++ back)) := by
  intro quote
  have hquote (v : Value) : quote v = d.written v.leaves := d.quote_eq_written v
  refine ⟨fun v => ⟨fun leaf => Value.isLeaf_of_mem_leaves, ?_, ?_, ?_⟩, ?_, ?_⟩
  · intro text
    rw [hquote, written_eq_ok]
  · intro text htext
    have hnonempty : text ≠ "" := by
      rw [hquote] at htext
      exact written_ne_empty v.leaves_ne_nil htext
    refine ⟨hnonempty, "id IN (" ++ text ++ ")", ?_, fun hempty => hnonempty ?_⟩
    · rw [render_in, htext]
      rfl
    · have hfront : "id IN (" ++ text = "id IN (" ++ "" := (String.append_left_inj ")").mp hempty
      exact (String.append_right_inj "id IN (").mp hfront
  · intro e
    rw [hquote, written_eq_error]
    simp only [eq_refusal_iff]
  · rintro leaf (rfl | hempty)
    · rfl
    · rw [leafText?, hempty]
  · intro made hmade xs ys hxs hys
    have hleaves {items : List Value} (hsome : items ≠ []) :
        (made items).leaves = items.flatMap Value.leaves := by
      obtain ⟨first, rest, rfl⟩ := List.exists_cons_of_ne_nil hsome
      simp only [List.mem_cons, List.not_mem_nil, or_false] at hmade
      rcases hmade with rfl | rfl
      · exact Value.leaves_of_items rfl
      · exact Value.leaves_of_items rfl
    have hsome {items : List Value} (hitems : items ≠ []) : items.flatMap Value.leaves ≠ [] :=
      hleaves hitems ▸ (made items).leaves_ne_nil
    rw [hquote, hquote, hquote, hleaves hxs, hleaves hys,
      hleaves (List.append_ne_nil_of_left_ne_nil hxs ys), List.flatMap_append,
      written_append (hsome hxs) (hsome hys)]
    rfl

/-- An empty list within a list is written `NULL`, and of two leaves without a text the first one is
told. -/
theorem quote_nested_diets :
    (empty.toBackend .mysql [] recipes).quote
        (.list [.list [], .tuple [.null, .list [.str "raw"]]]) = .ok "NULL, NULL, 'raw'" ∧
      (empty.toBackend .mysql [] recipes).quote
        (.tuple [.int 1, .list [.list [.set []]], .object "Diet"]) =
          .error (.unquotable (.set []) "mysql") := by
  obtain ⟨hnested, -, -⟩ := quote_nested empty .mysql [] recipes
  constructor
  · exact ((hnested _).2.1 _).mpr ⟨by decide, by decide⟩
  · exact ((hnested _).2.2.2 _).mpr
      ⟨[.int 1], .set [], [.object "Diet"], rfl, by decide +kernel, rfl, .inl ⟨rfl, rfl, rfl, rfl⟩⟩

/-- An integer with too many digits is a leaf without a text, and its type is not told. -/
theorem quote_of_huge_int :
    let huge := Value.int (.ofNat (Nat.pow 10 5000))
    (Value.list [huge]).leaves = [huge] ∧ sqlite.leafText? huge = none ∧
      (empty.toBackend .sqlite [] recipes).quote (.list [huge]) = .error .unwritable ∧
      Error.unwritable.kind ≠ .backend := by
  intro huge
  have hlong : Numeral.isTooLong (.ofNat (Nat.pow 10 5000)) = true := by
    rw [Numeral.isTooLong, decide_eq_true_iff]
    decide +kernel
  have hleaf : sqlite.leafText? huge = none := leafText?_of_isTooLong hlong
  have hleaves : (Value.list [huge]).leaves = [huge] := rfl
  refine ⟨hleaves, hleaf, ?_, by decide⟩
  change sqlite.quote _ = _
  rw [quote_eq_written, hleaves, written_eq_error]
  exact ⟨[], huge, [], rfl, nofun, hleaf, (refusal_of_isTooLong hlong).symm⟩

end Catalog

end NamedQuery
