import Mathlib.Data.List.Forall2
import NamedQuery.Definition

/-!
# What documents say

A document lists entries, and each of them describes one finder: three of its keys say what is
defined, and all others are options.  Reading a document gives exactly what it lists, in its order,
or tells the first fault of it.  Only what cannot be compared or cannot be written, such as a number
with too many digits, fails with a cause that is none of the document's own.
-/

namespace NamedQuery

namespace Value

variable {v : Value} {items : List Value}

/-- What is opened as a list counts as absent only if the list is empty. -/
theorem eq_nil_of_opened (hopened : v.opened = .list items) (hfalsy : v.truthy = false) :
    items = [] := by
  cases v with
  | list held =>
      obtain rfl : held = items := list.inj hopened
      simpa [truthy, shallow, plainTruthy] using hfalsy
  | looped heap place =>
      simp only [opened] at hopened
      simp only [truthy, shallow] at hfalsy
      cases hhere : (heap[place]?).getD null with
      | list held =>
          obtain rfl : held = [] := by simpa [hhere, plainTruthy] using hfalsy
          simpa [hhere, unfold, unfoldItems] using hopened.symm
      | link next => simp [hhere, plainTruthy] at hfalsy
      | tuple held =>
          obtain rfl : held = [] := by simpa [hhere, plainTruthy] using hfalsy
          simp [hhere, unfold, unfoldItems] at hopened
      | dict held =>
          obtain rfl : held = [] := by simpa [hhere, plainTruthy] using hfalsy
          simp [hhere, unfold, unfoldEntries] at hopened
      | _ => simp [hhere, unfold] at hopened
  | _ => cases hopened

theorem same_int (m n : Int) : same (.int m) (.int n) = decide (m = n) := by
  by_cases hzero : m = 0
  · simp [same, sameLeaf, text?, quantity?, Quantity.same, isShifted, hzero, eq_comm]
  · simp [same, sameLeaf, text?, quantity?, Quantity.same, isShifted, hzero]

/-- A signaling number is equal to no integer. -/
theorem same_int_of_isSignaling (hsignaling : v.isSignaling = true) (n : Int) :
    same v (.int n) = false := by
  cases v with
  | decimal x =>
      cases x with
      | nan => simp [same, sameLeaf, text?, quantity?]
      | _ => cases hsignaling
  | _ => cases hsignaling

end Value

namespace Definition

variable {entries : List (Value × Value)} {entry document : Value} {d : Definition} {e : Error}

/-! ## Entries -/

/-- A key that says what is defined, and so is no option. -/
def isReserved : Value → Bool
  | .str key => requiredKeys.contains key
  | _ => false

/-- A key with a value that counts as there. -/
def isPresent (entries : List (Value × Value)) (key : String) : Bool :=
  (Value.lookup (.str key) entries).any Value.truthy

/-- The required keys that are not there, in the order in which they are required. -/
def absentKeys (entries : List (Value × Value)) : List String :=
  requiredKeys.filter fun key => !isPresent entries key

/-- What stands under a key is there and is written like this. -/
def Names (entries : List (Value × Value)) (key : String) (text : Value) : Prop :=
  ∃ v, Value.lookup (.str key) entries = some v ∧ v.truthy = true ∧ v.isUnwritable = false ∧
    text = v.content.toValue

/-- The definition says what the entries say: its texts are written under the required keys, and
all else, in the same order, is an option. -/
structure Describes (entries : List (Value × Value)) (d : Definition) : Prop where
  model : Names entries "model" d.model
  name : Names entries "name" d.name
  arity : Names entries "arity" d.arity
  options : d.options = entries.filter fun e => !isReserved e.1

/-- An item of a document is a mapping that describes the definition. -/
def Reads (entry : Value) (d : Definition) : Prop :=
  ∃ entries, entry.opened = .dict entries ∧ Describes entries d

/-- What is wrong with the entry at a place of a document. -/
inductive EntryFault (index : Nat) (entry : Value) : Error → Prop where
  | notMapping (hopened : ∀ entries, entry.opened ≠ .dict entries) :
      EntryFault index entry (.entryNotMapping index)
  | missing {entries : List (Value × Value)} (hopened : entry.opened = .dict entries)
      (habsent : absentKeys entries ≠ []) :
      EntryFault index entry (.entryMissing index (absentKeys entries))

/-- An entry that has all it needs, but a value under a required key cannot be written. -/
def IsOverlong (entry : Value) : Prop :=
  ∃ entries, entry.opened = .dict entries ∧ absentKeys entries = [] ∧
    ∃ key ∈ requiredKeys, ∃ v, Value.lookup (.str key) entries = some v ∧ v.isUnwritable = true

theorem isOption_eq (key : Value) : isOption key = !isReserved key := by
  cases key with
  | str s =>
      simp only [isOption, isReserved, Value.same_str, List.contains_eq_any_beq]
  | arity a => cases a <;> simp [isOption, isReserved, requiredKeys, Value.same, Value.sameLeaf,
      Value.text?, Arity.word]
  | _ => simp [isOption, isReserved, requiredKeys, Value.same, Value.sameLeaf, Value.text?,
      Value.quantity?]

theorem truthy_field (entries : List (Value × Value)) (key : String) :
    (field entries key).truthy = isPresent entries key := by
  rw [field, isPresent]
  cases Value.lookup (.str key) entries with
  | none => rfl
  | some v => rfl

theorem missingKeys_eq (entries : List (Value × Value)) :
    missingKeys entries = absentKeys entries := by
  simp only [missingKeys, absentKeys, truthy_field]

theorem isPresent_of_absentKeys_eq_nil (habsent : absentKeys entries = []) {key : String}
    (hkey : key ∈ requiredKeys) : isPresent entries key = true := by
  simpa using List.filter_eq_nil_iff.mp habsent key hkey

theorem Names.isPresent {key : String} {text : Value} (hnames : Names entries key text) :
    isPresent entries key = true := by
  obtain ⟨v, hlookup, htruthy, -, -⟩ := hnames
  rw [Definition.isPresent, hlookup]
  exact htruthy

theorem Describes.absentKeys_eq_nil (hdescribes : Describes entries d) :
    absentKeys entries = [] := by
  simp [absentKeys, requiredKeys, hdescribes.model.isPresent, hdescribes.name.isPresent,
    hdescribes.arity.isPresent]

/-- A text is read from a key exactly if it is written under it. -/
theorem fieldText_eq_ok {key : String} {text : Value} (hpresent : isPresent entries key = true) :
    fieldText entries key = .ok text ↔ Names entries key text := by
  obtain ⟨v, hlookup, htruthy⟩ := (Option.any_eq_true _ _).mp hpresent
  simp only [fieldText, field, Names, hlookup, Option.getD_some, Value.written,
    Option.some.injEq, exists_eq_left', htruthy, true_and]
  cases v.isUnwritable with
  | true => simp
  | false => simp [eq_comm]

theorem fieldText_eq_error {key : String} :
    fieldText entries key = .error e ↔
      (∃ v, Value.lookup (.str key) entries = some v ∧ v.isUnwritable = true) ∧
        .unwritable = e := by
  rw [fieldText, field, Value.written]
  cases hlookup : Value.lookup (.str key) entries with
  | none => simp [Value.isUnwritable]
  | some v =>
      rw [Option.getD_some]
      cases hwritable : v.isUnwritable with
      | true => simp [hwritable]
      | false => simp [hwritable]

theorem ofFields_eq_ok (habsent : absentKeys entries = []) :
    ofFields entries = .ok d ↔ Describes entries d := by
  have htext {key : String} (hkey : key ∈ requiredKeys) {text : Value} :
      fieldText entries key = .ok text ↔ Names entries key text :=
    fieldText_eq_ok (isPresent_of_absentKeys_eq_nil habsent hkey)
  simp only [ofFields, bind_eq_ok, htext (List.mem_cons_self),
    htext (show "name" ∈ requiredKeys by decide), htext (show "arity" ∈ requiredKeys by decide),
    isOption_eq]
  constructor
  · rintro ⟨model, hmodel, name, hname, arity, harity, hd⟩
    cases hd
    exact ⟨hmodel, hname, harity, rfl⟩
  · rintro ⟨hmodel, hname, harity, hoptions⟩
    exact ⟨d.model, hmodel, d.name, hname, d.arity, harity, by rw [← hoptions]⟩

theorem eq_unwritable_of_ofFields (herror : ofFields entries = .error e) :
    (∃ key ∈ requiredKeys, ∃ v, Value.lookup (.str key) entries = some v ∧
      v.isUnwritable = true) ∧ .unwritable = e := by
  simp only [ofFields, bind_eq_error, fieldText_eq_error] at herror
  rcases herror with ⟨hfound, he⟩ | ⟨_, -, ⟨hfound, he⟩ | ⟨_, -, ⟨hfound, he⟩ | ⟨_, -, hnone⟩⟩⟩
  · exact ⟨⟨"model", by decide, hfound⟩, he⟩
  · exact ⟨⟨"name", by decide, hfound⟩, he⟩
  · exact ⟨⟨"arity", by decide, hfound⟩, he⟩
  · cases hnone

theorem ofFields_eq_error :
    ofFields entries = .error e ↔
      (∃ key ∈ requiredKeys, ∃ v, Value.lookup (.str key) entries = some v ∧
        v.isUnwritable = true) ∧ .unwritable = e := by
  refine ⟨eq_unwritable_of_ofFields, ?_⟩
  rintro ⟨⟨key, hkey, hfound⟩, rfl⟩
  have herror : fieldText entries key = .error .unwritable := fieldText_eq_error.mpr ⟨hfound, rfl⟩
  cases hfields : ofFields entries with
  | error other => exact congrArg Except.error (eq_unwritable_of_ofFields hfields).2.symm
  | ok d =>
      -- then all three texts were read, also the one that cannot be written
      simp only [ofFields, bind_eq_ok] at hfields
      obtain ⟨model, hmodel, name, hname, arity, harity, -⟩ := hfields
      simp only [requiredKeys, List.mem_cons, List.not_mem_nil, or_false] at hkey
      rcases hkey with rfl | rfl | rfl
      · cases herror.symm.trans hmodel
      · cases herror.symm.trans hname
      · cases herror.symm.trans harity

/-- What is made of an entry that is a mapping. -/
theorem ofEntry_of_dict {index : Nat} (hopened : entry.opened = .dict entries) :
    ofEntry index entry =
      if absentKeys entries = [] then ofFields entries
      else .error (.entryMissing index (absentKeys entries)) := by
  rw [ofEntry, hopened]
  simp only [missingKeys_eq, List.isEmpty_iff]

theorem ofEntry_of_not_dict {index : Nat}
    (hmapping : ¬∃ entries, entry.opened = .dict entries) :
    ofEntry index entry = .error (.entryNotMapping index) := by
  rw [ofEntry]
  split
  · next entries hopened => exact absurd ⟨entries, hopened⟩ hmapping
  · rfl

theorem ofEntry_eq_ok {index : Nat} : ofEntry index entry = .ok d ↔ Reads entry d := by
  by_cases hmapping : ∃ entries, entry.opened = .dict entries
  · obtain ⟨entries, hopened⟩ := hmapping
    have hreads : Reads entry d ↔ Describes entries d := by simp [Reads, hopened]
    rw [hreads, ofEntry_of_dict hopened]
    split
    · next habsent => exact ofFields_eq_ok habsent
    · next habsent => exact ⟨nofun, fun hdescribes => absurd hdescribes.absentKeys_eq_nil habsent⟩
  · have hreads : ¬Reads entry d := fun ⟨entries, hopened, _⟩ => hmapping ⟨entries, hopened⟩
    simp [ofEntry_of_not_dict hmapping, hreads]

theorem ofEntry_eq_error {index : Nat} :
    ofEntry index entry = .error e ↔
      EntryFault index entry e ∨ IsOverlong entry ∧ .unwritable = e := by
  by_cases hmapping : ∃ entries, entry.opened = .dict entries
  · obtain ⟨entries, hopened⟩ := hmapping
    have hfault : EntryFault index entry e ↔
        absentKeys entries ≠ [] ∧ .entryMissing index (absentKeys entries) = e := by
      constructor
      · rintro (hdict | ⟨hdict, habsent⟩)
        · exact absurd hopened (hdict entries)
        · obtain rfl := Value.dict.inj (hdict.symm.trans hopened)
          exact ⟨habsent, rfl⟩
      · rintro ⟨habsent, rfl⟩
        exact .missing hopened habsent
    rw [ofEntry_of_dict hopened, hfault]
    split
    · next habsent => simp [ofFields_eq_error, IsOverlong, hopened, habsent]
    · next habsent => simp [IsOverlong, hopened, habsent]
  · have hoverlong : ¬IsOverlong entry := fun ⟨entries, hopened, _⟩ => hmapping ⟨entries, hopened⟩
    have hfault : EntryFault index entry e ↔ .entryNotMapping index = e := by
      constructor
      · rintro (hdict | ⟨hdict, -⟩)
        · rfl
        · exact absurd ⟨_, hdict⟩ hmapping
      · rintro rfl
        exact .notMapping (not_exists.mp hmapping)
    simp [ofEntry_of_not_dict hmapping, hfault, hoverlong]

/-! ## Lists of entries -/

theorem ofEntriesFrom_eq_ok {index : Nat} {items : List Value} {ds : List Definition} :
    ofEntriesFrom index items = .ok ds ↔ List.Forall₂ Reads items ds := by
  induction items generalizing index ds with
  | nil => simp [ofEntriesFrom, eq_comm]
  | cons entry rest ih =>
      simp only [ofEntriesFrom, bind_eq_ok, ofEntry_eq_ok, ih, List.forall₂_cons_left_iff]
      constructor
      · rintro ⟨d, hd, others, hothers, hds⟩
        exact ⟨d, others, hd, hothers, (Except.ok.inj hds).symm⟩
      · rintro ⟨d, others, hd, hothers, rfl⟩
        exact ⟨d, hd, others, hothers, rfl⟩

/-- Reading stops at the first entry that cannot be read: all before it can. -/
theorem ofEntriesFrom_eq_error {index : Nat} {items : List Value} :
    ofEntriesFrom index items = .error e ↔ ∃ before entry behind,
      items = before ++ entry :: behind ∧ (∀ earlier ∈ before, ∃ d, Reads earlier d) ∧
        ofEntry (index + before.length) entry = .error e := by
  induction items generalizing index with
  | nil => simp [ofEntriesFrom]
  | cons entry rest ih =>
      rw [ofEntriesFrom, bind_eq_error]
      constructor
      · rintro (hentry | ⟨d, hd, herror⟩)
        · exact ⟨[], entry, rest, rfl, nofun, hentry⟩
        · have hrest : ofEntriesFrom (index + 1) rest = .error e := by
            simpa [bind_eq_error] using herror
          obtain ⟨before, faulty, behind, rfl, hbefore, hfaulty⟩ := ih.mp hrest
          refine ⟨entry :: before, faulty, behind, rfl, ?_, ?_⟩
          · exact List.forall_mem_cons.mpr ⟨⟨d, ofEntry_eq_ok.mp hd⟩, hbefore⟩
          · rwa [List.length_cons, Nat.add_comm before.length, ← Nat.add_assoc]
      · rintro ⟨before, faulty, behind, hitems, hbefore, hfaulty⟩
        cases before with
        | nil =>
            obtain ⟨rfl, rfl⟩ := List.cons.inj hitems
            exact .inl hfaulty
        | cons first others =>
            obtain ⟨rfl, rfl⟩ := List.cons.inj hitems
            obtain ⟨⟨d, hd⟩, hothers⟩ := List.forall_mem_cons.mp hbefore
            rw [List.length_cons, Nat.add_comm others.length, ← Nat.add_assoc] at hfaulty
            have hrest := ih.mpr ⟨others, faulty, behind, rfl, hothers, hfaulty⟩
            exact .inr ⟨d, ofEntry_eq_ok.mpr hd, bind_eq_error.mpr (.inl hrest)⟩

/-! ## Documents -/

/-- A document without a version has the first one. -/
def HasFirstVersion (entries : List (Value × Value)) : Prop :=
  ∀ v, Value.lookup (.str "version") entries = some v → Value.same v (.int 1) = true

/-- The list under `finders`; what is absent or counts as absent lists nothing. -/
inductive Lists (entries : List (Value × Value)) : List Value → Prop where
  | absent (hlookup : Value.lookup (.str "finders") entries = none) : Lists entries []
  | falsy {v : Value} (hlookup : Value.lookup (.str "finders") entries = some v)
      (hfalsy : v.truthy = false) : Lists entries []
  | listed {v : Value} {items : List Value}
      (hlookup : Value.lookup (.str "finders") entries = some v)
      (hopened : v.opened = .list items) : Lists entries items

/-- A document that can be read as far as its entries, and these entries. -/
inductive Holds (document : Value) : List Value → Prop where
  | nothing (hopened : document.opened = .null) : Holds document []
  | listed {entries : List (Value × Value)} {items : List Value}
      (hopened : document.opened = .dict entries) (hversion : HasFirstVersion entries)
      (hitems : Lists entries items) : Holds document items

/-- Why a document is refused. -/
inductive Refused (document : Value) : Error → Prop where
  | notMapping (hsome : document.opened ≠ .null)
      (hopened : ∀ entries, document.opened ≠ .dict entries) :
      Refused document .documentNotMapping
  | version {entries : List (Value × Value)} {v : Value}
      (hopened : document.opened = .dict entries)
      (hlookup : Value.lookup (.str "version") entries = some v)
      (hother : Value.same v (.int 1) = false) (hcomparable : v.isSignaling = false)
      (hwritable : v.isUnwritable = false) : Refused document (.unsupportedVersion v)
  | notList {entries : List (Value × Value)} {v : Value}
      (hopened : document.opened = .dict entries) (hversion : HasFirstVersion entries)
      (hlookup : Value.lookup (.str "finders") entries = some v) (htruthy : v.truthy = true)
      (hother : ∀ items, v.opened ≠ .list items) : Refused document .findersNotList
  | entry {before behind : List Value} {entry : Value} {e : Error}
      (hitems : Holds document (before ++ entry :: behind))
      (hbefore : ∀ earlier ∈ before, ∃ d, Reads earlier d)
      (hfault : EntryFault before.length entry e) : Refused document e

/-- What of a document takes part in no comparison or cannot be written, and the failure which that
gives instead of a refusal. -/
inductive Unreadable (document : Value) : Error → Prop where
  | signaling {entries : List (Value × Value)} {v : Value}
      (hopened : document.opened = .dict entries)
      (hlookup : Value.lookup (.str "version") entries = some v)
      (hsignaling : v.isSignaling = true) : Unreadable document (.decimal .undefined)
  | version {entries : List (Value × Value)} {v : Value}
      (hopened : document.opened = .dict entries)
      (hlookup : Value.lookup (.str "version") entries = some v)
      (hother : Value.same v (.int 1) = false) (hcomparable : v.isSignaling = false)
      (hunwritable : v.isUnwritable = true) : Unreadable document .unwritable
  | entry {before behind : List Value} {entry : Value}
      (hitems : Holds document (before ++ entry :: behind))
      (hbefore : ∀ earlier ∈ before, ∃ d, Reads earlier d) (hoverlong : IsOverlong entry) :
      Unreadable document .unwritable

/-- A version that is not equal to the first one is refused, as far as it can be compared and
written. -/
theorem checkVersion_eq (v : Value) :
    checkVersion v =
      if Value.same v (.int 1) then .ok ()
      else if v.isSignaling then .error (.decimal .undefined)
      else if v.isUnwritable then .error .unwritable
      else .error (.unsupportedVersion v) := by
  have hrefuses : v.refusesComparison (.int 1) = v.isSignaling := by
    simp [Value.refusesComparison, Value.isSignaling, Value.isNumeric]
  rw [checkVersion, hrefuses, Value.written]
  cases hsignaling : v.isSignaling with
  | true => simp [v.same_int_of_isSignaling hsignaling]
  | false => cases v.isUnwritable <;> rfl

theorem versionOf_of_none (hlookup : Value.lookup (.str "version") entries = none) :
    Value.same (versionOf entries) (.int 1) = true := by
  rw [versionOf, hlookup]
  exact Value.same_int 1 1

theorem same_versionOf :
    Value.same (versionOf entries) (.int 1) = true ↔ HasFirstVersion entries := by
  cases hlookup : Value.lookup (.str "version") entries with
  | none => simp [HasFirstVersion, hlookup, versionOf_of_none hlookup]
  | some v => simp [HasFirstVersion, hlookup, versionOf]

theorem entriesOf_of_none (hlookup : Value.lookup (.str "finders") entries = none) :
    entriesOf entries = .ok [] := by
  rw [entriesOf, field, hlookup]
  rfl

theorem entriesOf_of_falsy {v : Value} (hlookup : Value.lookup (.str "finders") entries = some v)
    (hfalsy : v.truthy = false) : entriesOf entries = .ok [] := by
  rw [entriesOf, field, hlookup, Option.getD_some, Value.orElse, hfalsy]
  rfl

theorem entriesOf_of_truthy {v : Value} (hlookup : Value.lookup (.str "finders") entries = some v)
    (htruthy : v.truthy = true) :
    (∃ items, v.opened = .list items ∧ entriesOf entries = .ok items) ∨
      (∀ items, v.opened ≠ .list items) ∧ entriesOf entries = .error .findersNotList := by
  rw [entriesOf, field, hlookup, Option.getD_some, Value.orElse, htruthy, if_pos rfl]
  split
  · next items hopened => exact .inl ⟨items, hopened, rfl⟩
  · next hopened => exact .inr ⟨hopened, rfl⟩

theorem Lists.entriesOf_eq {items : List Value} (hitems : Lists entries items) :
    entriesOf entries = .ok items := by
  cases hitems with
  | absent hlookup => exact entriesOf_of_none hlookup
  | falsy hlookup hfalsy => exact entriesOf_of_falsy hlookup hfalsy
  | @listed v items hlookup hopened =>
      cases htruthy : v.truthy with
      | false => rw [Value.eq_nil_of_opened hopened htruthy, entriesOf_of_falsy hlookup htruthy]
      | true =>
          rcases entriesOf_of_truthy hlookup htruthy with ⟨held, hheld, heq⟩ | ⟨hother, -⟩
          · rwa [← Value.list.inj (hheld.symm.trans hopened)]
          · exact absurd hopened (hother items)

/-- What is found under `finders` is a list, or it makes the document be refused. -/
theorem entriesOf_cases (entries : List (Value × Value)) :
    (∃ items, Lists entries items ∧ entriesOf entries = .ok items) ∨
      (∃ v, Value.lookup (.str "finders") entries = some v ∧ v.truthy = true ∧
        ∀ items, v.opened ≠ .list items) ∧ entriesOf entries = .error .findersNotList := by
  cases hlookup : Value.lookup (.str "finders") entries with
  | none => exact .inl ⟨[], .absent hlookup, entriesOf_of_none hlookup⟩
  | some v =>
      cases htruthy : v.truthy with
      | false => exact .inl ⟨[], .falsy hlookup htruthy, entriesOf_of_falsy hlookup htruthy⟩
      | true =>
          rcases entriesOf_of_truthy hlookup htruthy with ⟨items, hopened, heq⟩ | ⟨hother, heq⟩
          · exact .inl ⟨items, .listed hlookup hopened, heq⟩
          · exact .inr ⟨⟨v, rfl, htruthy, hother⟩, heq⟩

/-- A document that can be read as far as its entries is read entry by entry. -/
theorem Holds.ofDocument_eq {items : List Value} (hitems : Holds document items) :
    ofDocument document = ofEntriesFrom 0 items := by
  cases hitems with
  | nothing hopened => rw [ofDocument, hopened]; rfl
  | listed hopened hversion hitems =>
      simp only [ofDocument, hopened, checkVersion_eq, same_versionOf.mpr hversion,
        hitems.entriesOf_eq]
      rfl

theorem ofDocument_of_version {v : Value} (hopened : document.opened = .dict entries)
    (hlookup : Value.lookup (.str "version") entries = some v)
    (hother : Value.same v (.int 1) = false) :
    ofDocument document =
      if v.isSignaling then .error (.decimal .undefined)
      else if v.isUnwritable then .error .unwritable
      else .error (.unsupportedVersion v) := by
  have hdocument : ofDocument document =
      checkVersion v >>= fun _ => entriesOf entries >>= ofEntriesFrom 0 := by
    simp only [ofDocument, hopened, versionOf, hlookup, Option.getD_some]
  rw [hdocument, checkVersion_eq, hother, if_neg Bool.false_ne_true]
  cases v.isSignaling <;> cases v.isUnwritable <;> rfl

theorem ofDocument_of_not_list (hopened : document.opened = .dict entries)
    (hversion : HasFirstVersion entries) (hlist : entriesOf entries = .error .findersNotList) :
    ofDocument document = .error .findersNotList := by
  simp only [ofDocument, hopened, checkVersion_eq, same_versionOf.mpr hversion, hlist]
  rfl

theorem ofDocument_of_not_dict (hnull : document.opened ≠ .null)
    (hmapping : ∀ entries, document.opened ≠ .dict entries) :
    ofDocument document = .error .documentNotMapping := by
  rw [ofDocument]
  split
  · next hopened => exact absurd hopened hnull
  · next entries hopened => exact absurd hopened (hmapping entries)
  · rfl

/-- A document can be read as far as its entries, or its reading fails before them. -/
theorem ofDocument_cases (document : Value) :
    (∃ items, Holds document items) ∨
      ∃ e, ofDocument document = .error e ∧ (Refused document e ∨ Unreadable document e) := by
  by_cases hmapping : ∃ entries, document.opened = .dict entries
  · obtain ⟨entries, hopened⟩ := hmapping
    by_cases hversion : HasFirstVersion entries
    · rcases entriesOf_cases entries with
        ⟨items, hitems, -⟩ | ⟨⟨v, hlookup, htruthy, hother⟩, hlist⟩
      · exact .inl ⟨items, .listed hopened hversion hitems⟩
      · exact .inr ⟨_, ofDocument_of_not_list hopened hversion hlist,
          .inl (.notList hopened hversion hlookup htruthy hother)⟩
    · simp only [HasFirstVersion, not_forall, Bool.not_eq_true] at hversion
      obtain ⟨v, hlookup, hother⟩ := hversion
      have hdocument := ofDocument_of_version hopened hlookup hother
      cases hsignaling : v.isSignaling with
      | true =>
          exact .inr ⟨_, by simpa [hsignaling] using hdocument,
            .inr (.signaling hopened hlookup hsignaling)⟩
      | false =>
          cases hwritable : v.isUnwritable with
          | true =>
              exact .inr ⟨_, by simpa [hsignaling, hwritable] using hdocument,
                .inr (.version hopened hlookup hother hsignaling hwritable)⟩
          | false =>
              exact .inr ⟨_, by simpa [hsignaling, hwritable] using hdocument,
                .inl (.version hopened hlookup hother hsignaling hwritable)⟩
  · by_cases hnull : document.opened = .null
    · exact .inl ⟨[], .nothing hnull⟩
    · exact .inr ⟨_, ofDocument_of_not_dict hnull (not_exists.mp hmapping),
        .inl (.notMapping hnull (not_exists.mp hmapping))⟩

theorem ofDocument_eq_ok {ds : List Definition} :
    ofDocument document = .ok ds ↔
      ∃ items, Holds document items ∧ List.Forall₂ Reads items ds := by
  constructor
  · intro hdocument
    rcases ofDocument_cases document with ⟨items, hitems⟩ | ⟨e, herror, -⟩
    · exact ⟨items, hitems, ofEntriesFrom_eq_ok.mp (hitems.ofDocument_eq ▸ hdocument)⟩
    · cases herror.symm.trans hdocument
  · rintro ⟨items, hitems, hread⟩
    rw [hitems.ofDocument_eq]
    exact ofEntriesFrom_eq_ok.mpr hread

/-- The first entry that cannot be read gives its failure to the whole document. -/
theorem ofDocument_of_entry {before behind : List Value}
    (hitems : Holds document (before ++ entry :: behind))
    (hbefore : ∀ earlier ∈ before, ∃ d, Reads earlier d)
    (hentry : ofEntry before.length entry = .error e) : ofDocument document = .error e := by
  rw [hitems.ofDocument_eq]
  exact ofEntriesFrom_eq_error.mpr ⟨before, entry, behind, rfl, hbefore, by simpa using hentry⟩

theorem Refused.ofDocument_eq (hrefused : Refused document e) : ofDocument document = .error e := by
  cases hrefused with
  | notMapping hsome hopened => exact ofDocument_of_not_dict hsome hopened
  | version hopened hlookup hother hcomparable hwritable =>
      simp [ofDocument_of_version hopened hlookup hother, hcomparable, hwritable]
  | notList hopened hversion hlookup htruthy hother =>
      refine ofDocument_of_not_list hopened hversion ?_
      rcases entriesOf_of_truthy hlookup htruthy with ⟨items, hlist, -⟩ | ⟨-, hlist⟩
      · exact absurd hlist (hother items)
      · exact hlist
  | entry hitems hbefore hfault =>
      exact ofDocument_of_entry hitems hbefore (ofEntry_eq_error.mpr (.inl hfault))

theorem Unreadable.ofDocument_eq (hunreadable : Unreadable document e) :
    ofDocument document = .error e := by
  cases hunreadable with
  | signaling hopened hlookup hsignaling =>
      simp [ofDocument_of_version hopened hlookup (Value.same_int_of_isSignaling hsignaling 1),
        hsignaling]
  | version hopened hlookup hother hcomparable hunwritable =>
      simp [ofDocument_of_version hopened hlookup hother, hcomparable, hunwritable]
  | entry hitems hbefore hoverlong =>
      exact ofDocument_of_entry hitems hbefore (ofEntry_eq_error.mpr (.inr ⟨hoverlong, rfl⟩))

theorem ofDocument_eq_error :
    ofDocument document = .error e ↔ Refused document e ∨ Unreadable document e := by
  constructor
  · intro hdocument
    rcases ofDocument_cases document with ⟨items, hitems⟩ | ⟨other, herror, hcause⟩
    · obtain ⟨before, entry, behind, rfl, hbefore, hentry⟩ :=
        ofEntriesFrom_eq_error.mp (hitems.ofDocument_eq ▸ hdocument)
      rw [Nat.zero_add] at hentry
      rcases ofEntry_eq_error.mp hentry with hfault | ⟨hoverlong, rfl⟩
      · exact .inl (.entry hitems hbefore hfault)
      · exact .inr (.entry hitems hbefore hoverlong)
    · cases herror.symm.trans hdocument
      exact hcause
  · rintro (hrefused | hunreadable)
    · exact hrefused.ofDocument_eq
    · exact hunreadable.ofDocument_eq

theorem EntryFault.kind_eq {index : Nat} (hfault : EntryFault index entry e) :
    e.kind = .definition := by
  cases hfault <;> rfl

theorem Refused.kind_eq (hrefused : Refused document e) : e.kind = .definition := by
  cases hrefused with
  | entry hitems hbefore hfault => exact hfault.kind_eq
  | _ => rfl

theorem Unreadable.kind_ne (hunreadable : Unreadable document e) : e.kind ≠ .definition := by
  cases hunreadable <;> decide

/-- A document gives definitions exactly if it is nothing, or a mapping of the first version that
lists mappings with all required keys, whose values can be written: one definition for each of them,
in their order, with everything else in them as its options.  Every other document is refused,
except where something in it cannot be compared or cannot be written.  The first entry that is at
fault is told by its place, and a mapping with all the keys that it lacks. -/
theorem ofDocument_exact (document : Value) :
    (∀ ds, ofDocument document = .ok ds ↔
      ∃ items, Holds document items ∧ List.Forall₂ Reads items ds) ∧
    (∀ e, ofDocument document = .error e ∧ e.kind = .definition ↔ Refused document e) ∧
    (∀ e, ofDocument document = .error e ∧ e.kind ≠ .definition ↔ Unreadable document e) ∧
    ∀ before entry behind, Holds document (before ++ entry :: behind) →
      (∀ earlier ∈ before, ∃ d, Reads earlier d) →
      ((∀ entries, entry.opened ≠ .dict entries) →
        ∃ e, ofDocument document = .error e ∧ e.kind = .definition ∧
          e.message = "finders[" ++ toString before.length ++ "] must be a mapping") ∧
      ∀ entries, entry.opened = .dict entries → absentKeys entries ≠ [] →
        ∃ e, ofDocument document = .error e ∧ e.kind = .definition ∧
          e.message = "finders[" ++ toString before.length ++ "] is missing " ++
            String.intercalate ", " (absentKeys entries) := by
  refine ⟨fun ds => ofDocument_eq_ok, fun e => ⟨?_, ?_⟩, fun e => ⟨?_, ?_⟩, ?_⟩
  · rintro ⟨hdocument, hkind⟩
    exact (ofDocument_eq_error.mp hdocument).resolve_right fun h => h.kind_ne hkind
  · exact fun hrefused => ⟨hrefused.ofDocument_eq, hrefused.kind_eq⟩
  · rintro ⟨hdocument, hkind⟩
    exact (ofDocument_eq_error.mp hdocument).resolve_left fun h => hkind h.kind_eq
  · exact fun hunreadable => ⟨hunreadable.ofDocument_eq, hunreadable.kind_ne⟩
  · intro before entry behind hitems hbefore
    refine ⟨fun hopened => ?_, fun entries hopened habsent => ?_⟩
    · have hrefused : Refused document (.entryNotMapping before.length) :=
        .entry hitems hbefore (.notMapping hopened)
      exact ⟨_, hrefused.ofDocument_eq, hrefused.kind_eq, rfl⟩
    · have hrefused : Refused document (.entryMissing before.length (absentKeys entries)) :=
        .entry hitems hbefore (.missing hopened habsent)
      exact ⟨_, hrefused.ofDocument_eq, hrefused.kind_eq, rfl⟩

/-- A version with more digits than are ever written is not even named in a refusal. -/
theorem ofDocument_of_huge_version :
    ∃ e, ofDocument (.dict [(.str "version", .int (.ofNat (Nat.pow 16 3600 - 1)))]) = .error e ∧
      e.kind ≠ .definition := by
  have hlookup (v : Value) : Value.lookup (.str "version") [(.str "version", v)] = some v := by
    rw [Value.lookup_cons, Value.same_str, beq_self_eq_true, if_pos rfl]
  have hlong : Numeral.isTooLong (.ofNat (Nat.pow 16 3600 - 1)) = true := by
    rw [Numeral.isTooLong, decide_eq_true_iff]
    decide +kernel
  have hother : Value.same (.int (.ofNat (Nat.pow 16 3600 - 1))) (.int 1) = false := by
    rw [Value.same_int, decide_eq_false_iff_not]
    exact fun hone => absurd (Int.ofNat.inj hone) (by decide +kernel)
  have hunreadable :
      Unreadable (.dict [(.str "version", .int (.ofNat (Nat.pow 16 3600 - 1)))]) .unwritable :=
    .version rfl (hlookup _) hother rfl hlong
  exact ⟨.unwritable, hunreadable.ofDocument_eq, hunreadable.kind_ne⟩

/-- One entry is read as it stands there, and the one behind it lacks two keys. -/
theorem ofDocument_exact_menu :
    let top := [(.str "model", .str "Recipe"), (.str "limit", .int 5), (.str "name", .str "top"),
      (.str "arity", .str "all")]
    let document := fun items => Value.dict [(.str "finders", .list items)]
    ofDocument (document [.dict top]) =
        .ok [⟨.str "Recipe", .str "top", .str "all", [(.str "limit", .int 5)]⟩] ∧
      ∃ e, ofDocument (document [.dict top, .dict [(.str "name", .str "x")]]) = .error e ∧
        e.kind = .definition ∧ e.message = "finders[1] is missing model, arity" := by
  intro top document
  have hreads : Reads (.dict top)
      ⟨.str "Recipe", .str "top", .str "all", [(.str "limit", .int 5)]⟩ := by
    refine ⟨top, rfl, ⟨.str "Recipe", ?_, rfl, rfl, rfl⟩, ⟨.str "top", ?_, rfl, rfl, rfl⟩,
      ⟨.str "all", ?_, rfl, rfl, rfl⟩, rfl⟩
    all_goals simp [top, Value.lookup, Value.same_str]
  have hholds (items : List Value) : Holds (document items) items := by
    refine .listed rfl ?_ (.listed (v := .list items) ?_ rfl)
    · simp [HasFirstVersion, Value.lookup, Value.same_str]
    · simp [Value.lookup, Value.same_str]
  have habsent : absentKeys [(.str "name", .str "x")] = ["model", "arity"] := by
    simp [absentKeys, requiredKeys, isPresent, Value.lookup, Value.same_str, Value.truthy,
      Value.shallow, Value.plainTruthy]
  obtain ⟨hok, -⟩ := ofDocument_exact (document [.dict top])
  obtain ⟨-, -, -, hfault⟩ :=
    ofDocument_exact (document [.dict top, .dict [(.str "name", .str "x")]])
  constructor
  · exact (hok _).mpr ⟨[.dict top], hholds _, .cons hreads .nil⟩
  · have hmissing := (hfault [.dict top] (.dict [(.str "name", .str "x")]) [] (hholds _)
      fun earlier hearlier => ⟨_, List.mem_singleton.mp hearlier ▸ hreads⟩).2 _ rfl
    rw [habsent] at hmissing
    obtain ⟨e, he, hkind, hmessage⟩ := hmissing (by decide)
    exact ⟨e, he, hkind, hmessage.trans (by decide)⟩

end Definition

end NamedQuery
