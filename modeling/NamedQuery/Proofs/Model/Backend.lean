import NamedQuery.Model.Definition
import NamedQuery.Proofs.Model.Ancestry
import NamedQuery.Proofs.Statement.Paging
import NamedQuery.Proofs.Text.Colons

/-!
# Backends of models

A class takes its backend from what it has under the name of the operation that gives it.  Attaching
a finder under another name changes nothing about that, so a finder runs on the backend that its
definition was compiled with.
-/

namespace NamedQuery.Models

variable {ms : Models} {m : Model} {f : Finder} {dialect : Dialect} {stored : List StoredRow}
  {backend : Backend}

/-- The way in which the backend of a model writes bounds. -/
def paging (ms : Models) (dialect : Dialect) (m : Model) : Paging :=
  match ms.fixedBackend? m with
  | some f => .fixed f.pagination
  | none => .mapped dialect

theorem backendOf_of_fixed {fixed : FixedBackend} (hfixed : ms.fixedBackend? m = some fixed) :
    ms.backendOf dialect stored m = .ok fixed.toBackend := by
  rw [backendOf, hfixed]

/-- A backend that is not fixed is that of a mapped class, on any rows. -/
theorem backendOf_of_not_fixed (hfixed : ms.fixedBackend? m = none)
    (hbackend : ms.backendOf dialect stored m = .ok backend) :
    ∃ c, ms.mappedClass? m = some c ∧ ∀ stored' : List StoredRow,
      ms.backendOf dialect stored' m = .ok (ms.catalog.toBackend dialect stored' c) := by
  have hmapped (stored' : List StoredRow) :
      ms.backendOf dialect stored' m = ms.mappedBackend dialect stored' m := by
    simp only [backendOf, hfixed] at hbackend ⊢
    by_cases hoffers : m.offersFinders = true
    · rw [if_pos hoffers] at hbackend ⊢
      split
      · next hsource => simp [hsource] at hbackend
      · next hsource => simp [hsource] at hbackend
      · rfl
    · rw [if_neg hoffers]
  rw [hmapped, mappedBackend] at hbackend
  cases hclass : ms.mappedClass? m with
  | none => simp [hclass] at hbackend
  | some c => exact ⟨c, rfl, fun stored' => by rw [hmapped, mappedBackend, hclass]⟩

theorem paginate_of_backendOf (hbackend : ms.backendOf dialect stored m = .ok backend) :
    backend.paginate = (ms.paging dialect m).apply := by
  unfold paging
  cases hfixed : ms.fixedBackend? m with
  | some fixed =>
      rw [backendOf_of_fixed hfixed] at hbackend
      obtain rfl := Except.ok.inj hbackend
      rfl
  | none =>
      obtain ⟨c, -, hmapped⟩ := backendOf_of_not_fixed hfixed hbackend
      rw [hmapped] at hbackend
      obtain rfl := Except.ok.inj hbackend
      rfl

/-- The rows that a database answers with matter to nothing but what is run. -/
theorem exists_backendOf (hbackend : ms.backendOf dialect stored m = .ok backend)
    (stored' : List StoredRow) :
    ∃ run, ms.backendOf dialect stored' m = .ok { backend with run } := by
  cases hfixed : ms.fixedBackend? m with
  | some fixed =>
      rw [backendOf_of_fixed hfixed] at hbackend
      obtain rfl := Except.ok.inj hbackend
      exact ⟨_, backendOf_of_fixed hfixed⟩
  | none =>
      obtain ⟨c, -, hmapped⟩ := backendOf_of_not_fixed hfixed hbackend
      rw [hmapped] at hbackend
      obtain rfl := Except.ok.inj hbackend
      exact ⟨_, hmapped stored'⟩

/-- What is run is the statement as it was rendered, once. -/
theorem statements_run (hbackend : ms.backendOf dialect stored m = .ok backend) (sql : String) :
    (backend.run sql).statements = [sql] := by
  cases hfixed : ms.fixedBackend? m with
  | some fixed =>
      rw [backendOf_of_fixed hfixed] at hbackend
      obtain rfl := Except.ok.inj hbackend
      rfl
  | none =>
      obtain ⟨c, -, hmapped⟩ := backendOf_of_not_fixed hfixed hbackend
      rw [hmapped] at hbackend
      obtain rfl := Except.ok.inj hbackend
      exact ms.catalog.statements_run dialect stored c sql

/-! ## Attaching -/

theorem member?_attach {name : String} (hname : name ≠ f.name) :
    (m.attach f).member? name = m.member? name := by
  rw [Model.member?, Model.attach, Entries.lookup_assign, if_neg hname, Model.member?]

theorem ownMember?_attach {name : String} (hname : name ≠ f.name) :
    ms.ownMember? (m.attach f) name = ms.ownMember? m name := by
  rw [ownMember?, ownMember?, member?_attach hname]
  rfl

/-- What a class has itself under a name, with the backend that it brings along. -/
def held (ms : Models) (name : String) (c : Model) : Option (Option FixedBackend × Member) :=
  (ms.ownMember? c name).map (c.backend, ·)

/-- The same of the first class of the chain that has anything under the name. -/
def provider? (ms : Models) (m : Model) (name : String) : Option (Option FixedBackend × Member) :=
  ((ms.chain m).filterMap (ms.held name)).head?

theorem provider?_eq (ms : Models) (m : Model) (name : String) :
    ms.provider? m name = (ms.source? m name).map fun e => (e.1.backend, e.2) := by
  rw [provider?, List.head?_filterMap, source?, List.map_findSome?]
  congr 1
  funext c
  rw [held, Function.comp_apply, Option.map_map]
  rfl

theorem held_attach {name : String} (hname : name ≠ f.name) :
    (ms.replace (m.attach f)).held name (m.attach f) = ms.held name m :=
  congrArg (Option.map (m.backend, ·)) (ownMember?_attach hname)

theorem provider?_attach (hmodel : ms.get? m.id = some m) {name : String}
    (hname : name ≠ f.name) :
    (ms.replace (m.attach f)).provider? (m.attach f) name = ms.provider? m name := by
  have hancestor (id : Nat) :
      ((ms.replace (m.attach f)).get? id).bind ((ms.replace (m.attach f)).held name) =
        (ms.get? id).bind (ms.held name) := by
    rw [get?_replace hmodel (m.alike_attach f).id]
    split
    · next hid => rw [hid, hmodel, Option.bind_some, Option.bind_some, held_attach hname]
    · rfl
  have hchain : ((ms.replace (m.attach f)).chain (m.attach f)).filterMap
      ((ms.replace (m.attach f)).held name) = (ms.chain m).filterMap (ms.held name) := by
    rw [chain, chain, List.filterMap_cons, List.filterMap_cons, held_attach hname,
      List.filterMap_filterMap, List.filterMap_filterMap]
    simp only [hancestor]
    rfl
  rw [provider?, provider?, hchain]

/-- A backend depends on nothing but what the class has under the name of the operation. -/
theorem backendOf_eq (ms : Models) (dialect : Dialect) (stored : List StoredRow) (m : Model) :
    ms.backendOf dialect stored m =
      if m.offersFinders then
        match ms.provider? m "finder_backend" with
        | some (fixed, .operation _) =>
          fixed.elim (ms.mappedBackend dialect stored m) fun f => .ok f.toBackend
        | some (_, .value v) => .error (.notCallable v.longTypeName)
        | some (_, .finder _) => .error .endless
        | _ => ms.mappedBackend dialect stored m
      else ms.mappedBackend dialect stored m := by
  rw [backendOf, fixedBackend?, provider?_eq]
  cases m.offersFinders with
  | false => rfl
  | true =>
      cases ms.source? m "finder_backend" with
      | none => rfl
      | some e =>
          obtain ⟨owner, member⟩ := e
          cases member with
          | operation o => cases hfixed : owner.backend <;> simp [hfixed]
          | _ => rfl

/-- Attaching a finder under another name leaves the backend as it is. -/
theorem backendOf_attach (hmodel : ms.get? m.id = some m)
    (hname : m.offersFinders = true → "finder_backend" ≠ f.name) (dialect : Dialect)
    (stored : List StoredRow) :
    (ms.replace (m.attach f)).backendOf dialect stored (m.attach f) =
      ms.backendOf dialect stored m := by
  have hmapped : (ms.replace (m.attach f)).mappedBackend dialect stored (m.attach f) =
      ms.mappedBackend dialect stored m := rfl
  have hoffered : (m.attach f).offersFinders = m.offersFinders := rfl
  rw [backendOf_eq, backendOf_eq, hmapped, hoffered]
  by_cases hoffers : m.offersFinders = true
  · rw [provider?_attach hmodel (hname hoffers)]
  · rw [if_neg hoffers, if_neg hoffers]

/-- A finder whose name was free is attached under another name than that of the operation that
gives the backend: the operation is there, or there is no backend. -/
theorem ne_of_isFree {name : String} (hfree : isFree (ms.attribute? m name) = true)
    (hbackend : ms.backendOf dialect stored m = .ok backend) :
    m.offersFinders = true → "finder_backend" ≠ name := by
  rintro hoffers rfl
  rw [backendOf_eq, if_pos hoffers, provider?_eq] at hbackend
  rw [attribute?, sharedAttribute?] at hfree
  cases hsource : ms.source? m "finder_backend" with
  | none => simp [hsource, Model.offered, hoffers, isFree] at hfree
  | some e =>
      obtain ⟨owner, member⟩ := e
      cases member with
      | finder f => simp [hsource] at hbackend
      | value v => simp [hsource] at hbackend
      | _ => simp [hsource, isFree] at hfree

end NamedQuery.Models
