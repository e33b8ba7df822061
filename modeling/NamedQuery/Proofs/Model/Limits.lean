import NamedQuery.Prefetch
import NamedQuery.Proofs.Model.Defining
import NamedQuery.Proofs.Statement.Checked

/-!
# The limit of finders for one row

A finder for one row has its limit set before its options reach the hook of the class, and nothing
sets it again behind the hook.  So its statement asks for one row, whatever limit the options gave,
as long as the hook hands on the limit that it was given.
-/

namespace NamedQuery

/-- The hook hands on the limit that it is given. -/
def Hook.KeepsLimit (hook : Hook) : Prop :=
  ∀ o c, (hook o).result = .ok (.options c) → c.limit = o.clauses.limit

namespace PrefetchRule

theorem limit_replace (c : Clauses) {field : String} (hfield : field ≠ "limit") (v : Value) :
    (replace c field v).limit = c.limit := by
  unfold replace
  split <;> first | rfl | exact absurd rfl hfield

theorem limit_foldl_replace (c : Clauses) {changes : List (String × Value)}
    (hchanges : ∀ e ∈ changes, e.1 ≠ "limit") :
    (changes.foldl (fun c change => replace c change.1 change.2) c).limit = c.limit := by
  induction changes generalizing c with
  | nil => rfl
  | cons change rest ih =>
      rw [List.forall_mem_cons] at hchanges
      rw [List.foldl_cons, ih _ hchanges.2, limit_replace c hchanges.1]

/-- Of all rules, only a replacement of the limit itself changes it. -/
theorem keepsLimit_toHook {rule : Option PrefetchRule}
    (hrule : ∀ changes, rule = some (.update changes) → ∀ e ∈ changes, e.1 ≠ "limit")
    (model : String) : Hook.KeepsLimit (toHook rule model) := by
  intro o c hc
  have happly : apply rule model o = .ok (.options c) := hc
  unfold apply at happly
  split at happly
  · next changes =>
    obtain rfl := HookAnswer.options.inj (Except.ok.inj happly)
    exact limit_foldl_replace o.clauses (hrule changes rfl)
  · split at happly
    · obtain ⟨c', hcolumns, hanswer⟩ := map_eq_ok.mp happly
      obtain rfl := HookAnswer.options.inj hanswer
      obtain ⟨items, -, hc'⟩ := bind_eq_ok.mp hcolumns
      obtain rfl := Except.ok.inj hc'
      rfl
    · obtain rfl := HookAnswer.options.inj (Except.ok.inj happly)
      rfl
  · cases happly
  · cases happly

end PrefetchRule

/-- The clauses in effect have the limit of the options, whatever else the hook has done. -/
theorem Options.limit_of_prefetched {o : Options} {model : String} {hook : Option Hook}
    (hkeeps : ∀ h ∈ hook, Hook.KeepsLimit h) {c : Clauses}
    (hc : (o.prefetched model hook).result = .ok c) : c.limit = o.clauses.limit := by
  cases hook with
  | none => exact congrArg Clauses.limit (Except.ok.inj hc).symm
  | some h =>
      obtain ⟨answer, hanswer, hrest⟩ := Traced.bind_result_eq_ok.mp hc
      cases answer with
      | other v => cases hrest
      | options c' =>
          obtain rfl : c' = c := Except.ok.inj hrest
          exact hkeeps h rfl o c' hanswer

theorem Clauses.limit_of_layout {c : Clauses} {backend : Backend} {l : Layout}
    (hlayout : c.layout backend = .ok l) : boundText c.limit = .ok l.limit := by
  simp only [layout, bind_eq_ok] at hlayout
  obtain ⟨_, -, _, -, _, -, _, -, _, -, _, -, limit, hlimit, _, -, hl⟩ := hlayout
  obtain rfl := Except.ok.inj hl
  exact hlimit

theorem Bound.isWritable_one : (count 1).isWritable = true := by
  have hshort (digits : Nat) (hdigits : digits ≠ 0) : 1 < Nat.pow 10 digits :=
    Nat.one_lt_pow hdigits (by decide)
  rw [isWritable, Numeral.isTooLong, Bool.not_eq_true', decide_eq_false_iff_not, Nat.not_le]
  exact hshort Numeral.longest (by decide)

namespace Layout

/-- The end of a statement that asks for one row. -/
def oneRow : Option Template → Template
  | none => Template.literal " LIMIT 1"
  | some offset => Template.literal " LIMIT 1 OFFSET " ++ offset

/-- A limit of one is no marker, so the offset is bound as if there were no limit. -/
theorem statement_of_one {l : Layout} (hone : l.limit = some (Glyph.ofText "1"))
    {backend : Backend} {p : Paging} (hpaging : backend.paginate = p.apply) (b : Binder) :
    let body := b.bindStretches l.stretches
    let offset := body.2.bindOptional l.offset
    l.statement backend b =
      (p.apply body.1 (some (Template.literal "1")) offset.1, offset.2) := by
  intro body offset
  have hbounded : l.isBounded = true := by simp [isBounded, hone]
  rw [statement_of_bounded hbounded hpaging, hone]
  rfl

theorem apply_one {p : Paging} (hkeeps : p.keepsOrder = true) (t : Template)
    (offset : Option Template) :
    p.apply t (some (Template.literal "1")) offset = p.enclosed t ++ oneRow offset := by
  have hlimit : p.limit (some (Template.literal "1")) offset = some (Template.literal "1") := rfl
  have hwords : Template.literal " LIMIT 1 OFFSET " =
      Template.literal " LIMIT 1" ++ Template.literal " OFFSET " :=
    Template.literal_append " LIMIT 1" " OFFSET "
  rw [Paging.apply_eq_suffixed hkeeps, hlimit, FixedBackend.suffixed, Template.append_assoc]
  cases offset with
  | none => rfl
  | some o =>
      rw [oneRow, hwords, Template.append_assoc]
      rfl

end Layout

namespace Models

variable {ms : Models} {hook : Option Hook} {dialect : Dialect} {m : Model} {name arity : Value}
  {given : GivenOptions} {f : Finder}

/-- The statement of a finder for one row asks for one row, whatever limit the options give, unless
the hook of the class puts another limit in its place: it ends in the limit 1 and the offset behind
it, in the words of the backend.  No marker of a limit is among its parameters. -/
theorem limit_of_single (hkeeps : ∀ h ∈ hook, Hook.KeepsLimit h)
    (hdefine : (ms.defineWith hook dialect m name arity given).1.result = .ok f)
    (hsingle : f.arity = .single) :
    ∃ spec c backend l, Spec.build name arity given = .ok spec ∧
      (spec.normalized.prefetched m.name hook).result = .ok c ∧
      ms.backendOf dialect [] m = .ok backend ∧ c.layout backend = .ok l ∧
      let body := Binder.empty.bindStretches l.stretches
      let offset := (body.2.bindOptional l.offset).1
      f.template = (ms.paging dialect m).apply body.1 (some (Template.literal "1")) offset ∧
        ((ms.paging dialect m).keepsOrder = true →
          f.template = (ms.paging dialect m).enclosed body.1 ++ Layout.oneRow offset) ∧
        f.order = ([l.conditions, l.group, l.order, l.offset].flatMap fun text =>
          text.elim [] Marker.names).eraseDups := by
  rw [result_defineWith] at hdefine
  obtain ⟨spec, backend, c, t, b, hspec, -, hbackend, hc, hstatement, hmake⟩ :=
    compileWith_eq_ok.mp hdefine
  obtain ⟨l, hlayout, hl⟩ := Clauses.exists_layout hstatement
  have hpaging := paginate_of_backendOf hbackend
  obtain rfl := eq_of_make hmake
  have hnormal : spec.normalized.limit = some (.count 1) := by
    rw [Spec.normalized, show spec.arity = .single from hsingle]
    rfl
  have hclauses : c.limit = Options.boundValue (some (.count 1)) := by
    rw [Options.limit_of_prefetched hkeeps hc, Options.clauses, hnormal]
  have hone : l.limit = some (Glyph.ofText "1") := by
    have htext := Clauses.limit_of_layout hlayout
    rw [hclauses, Options.boundText_boundValue (by simpa using Bound.isWritable_one)] at htext
    exact (Except.ok.inj htext).symm
  have hstate := l.statement_of_one hone hpaging .empty
  rw [hl] at hstate
  obtain ⟨htemplate, -⟩ := Prod.mk.inj hstate
  refine ⟨spec, c, backend, l, hspec, hc, hbackend, hlayout, htemplate, ?_, ?_⟩
  · intro hkept
    exact htemplate.trans (Layout.apply_one hkept _ _)
  · obtain ⟨u, hbinds, -, -⟩ := l.binds_statement hpaging .empty
    rw [hl] at hbinds
    have horder := hbinds.order [] rfl
    rw [List.nil_append, l.names_eq, hone] at horder
    exact horder

/-- Options for a finder whose limit is a parameter. -/
def capped : Options := { cheap with limit := some (.text (.text ":n")) }

theorem keepsLimit_skipping : Hook.KeepsLimit skipping := by
  intro o c hc
  obtain rfl := HookAnswer.options.inj (Except.ok.inj hc)
  rfl

theorem limit_of_capped :
    ∃ f front offset, (recipes.defineWith (some skipping) .sqlite recipe (.str "cheap")
        (.str "first") (.checked capped)).1.result = .ok f ∧
      f.arity = .single ∧ f.order = ["diet", "most", "skipped"] ∧
      f.template = front ++ Layout.oneRow offset := by
  have hmade : ((recipes.defineWith (some skipping) .sqlite recipe (.str "cheap") (.str "first")
      (.checked capped)).1.result.toOption.map fun f => (f.arity, f.order)) =
        some (.single, ["diet", "most", "skipped"]) := by decide +kernel
  obtain ⟨f, hf, hparts⟩ := Option.map_eq_some_iff.mp hmade
  obtain ⟨hsingle, horder⟩ := Prod.mk.inj hparts
  have hdefine := toOption_eq_some.mp hf
  have hkeeps : ∀ h ∈ some skipping, Hook.KeepsLimit h := by
    simpa using keepsLimit_skipping
  obtain ⟨spec, c, backend, l, -, -, -, -, -, hone, -⟩ := limit_of_single hkeeps hdefine hsingle
  exact ⟨f, _, _, hdefine, hsingle, horder, hone rfl⟩

/-- A class whose hook puts a parameter in the place of every limit. -/
def unlimited : Model :=
  { recipe with
    prefetches := true
    members := recipe.members ++
      [("apply_prefetch", .hook (.update [("limit", .str ":n")]))] }

/-- The hook has the last word, so a finder for one row may ask for any number of them. -/
theorem order_of_unlimited :
    ∃ f, (Models.define ⟨[unlimited], .empty⟩ .usual unlimited (.str "cheap") (.str "first")
        (.checked .empty)).1.result = .ok f ∧
      f.arity = .single ∧ f.sql = "SELECT * FROM recipes LIMIT :n" ∧ f.order = ["n"] :=
  ⟨_, rfl, rfl, rfl, rfl⟩

end Models

end NamedQuery
