import Mathlib.Data.List.Basic
import NamedQuery.Engine

/-!
# What an engine is created from

An engine is created for a URL that can be read, asks for no plugins, names a driver whose library
is installed and suits this driver; the first of these that does not hold is the failure.  The
engine keeps the URL.  Settings leave out the sizes of a queue if their URL looks like one of the
dialect that has databases in memory, so no such database is ever given any.
-/

namespace NamedQuery

/-! ## The dialect of a URL -/

namespace Text

variable {α : Type} [DecidableEq α]

/-- A list begins with the first of its pieces. -/
theorem head?_pieces_prefix (mark : α) (cs : List α) :
    ∃ first, (pieces mark cs).head? = some first ∧ first <+: cs := by
  induction cs with
  | nil => exact ⟨[], rfl, List.nil_prefix⟩
  | cons c rest ih =>
      obtain ⟨first, hfirst, hprefix⟩ := ih
      obtain ⟨others, hpieces⟩ := List.head?_eq_some_iff.mp hfirst
      rw [pieces, hpieces]
      dsimp only
      split
      · exact ⟨[], rfl, List.nil_prefix⟩
      · exact ⟨c :: first, rfl, List.cons_prefix_cons.mpr ⟨rfl, hprefix⟩⟩

end Text

namespace Driver

variable {driver : Driver} {full dialect name : String}

theorem dialect_of_find {base : String} (hdriver : find full dialect base = .ok driver) :
    driver.dialect.name = dialect := by
  unfold find at hdriver
  cases hd : Dialect.ofName? dialect with
  | none => simp [hd] at hdriver
  | some d =>
      have hfound := List.find?_some hd
      have hname : d.name = dialect := of_decide_eq_true hfound
      simp only [hd] at hdriver
      split at hdriver
      · cases hdriver
        exact hname
      · cases hdriver

/-- The name of a driver begins with that of its dialect. -/
theorem dialect_prefix_of_ofName (hdriver : ofName name = .ok driver) :
    driver.dialect.name.toList <+: name.toList := by
  obtain ⟨first, hfirst, hprefix⟩ := Text.head?_pieces_prefix '+' name.toList
  unfold ofName at hdriver
  dsimp only at hdriver
  have hhead : ((Text.pieces '+' name.toList).map String.ofList).head? =
      some (String.ofList first) := by
    rw [List.head?_map, hfirst]
    rfl
  split at hdriver
  · next dialect hparts =>
    rw [hparts] at hhead
    rw [dialect_of_find hdriver, Option.some.inj hhead, String.toList_ofList]
    exact hprefix
  · next dialect base hparts =>
    rw [hparts] at hhead
    rw [dialect_of_find hdriver, Option.some.inj hhead, String.toList_ofList]
    exact hprefix
  · cases hdriver

end Driver

namespace DatabaseUrl

/-- A URL begins with the name of its driver. -/
theorem name_prefix_of_parse {url : String} {u : DatabaseUrl} (hurl : parse url = .ok u) :
    u.name.toList <+: url.toList := by
  unfold parse at hurl
  cases hsplit : splitName url.toList with
  | none => simp [hsplit] at hurl
  | some parts =>
      obtain ⟨name, rest⟩ := parts
      have hname : name <+: url.toList := by
        unfold splitName at hsplit
        dsimp only at hsplit
        split at hsplit
        · cases hsplit
          exact List.takeWhile_prefix _
        · cases hsplit
      simp only [hsplit] at hurl
      obtain ⟨port, -, hu⟩ := bind_eq_ok.mp hurl
      cases hu
      rwa [String.toList_ofList]

end DatabaseUrl

namespace Engine

/-- A URL can be used: it is that of a database which an installed driver takes. -/
structure Usable (installed : List String) (url : String) (u : DatabaseUrl) (driver : Driver) :
    Prop where
  readable : DatabaseUrl.parse url = .ok u
  plugins : u.values "plugin" = []
  known : Driver.ofName u.name = .ok driver
  library : driver.library ∈ installed
  suits : driver.check u.withoutPlugins = .ok ()

/-- Why a URL cannot be used: the first condition that it does not meet. -/
inductive Unusable (installed : List String) (url : String) : Error → Prop where
  | unreadable {cause : Error} (hurl : DatabaseUrl.parse url = .error cause) :
      Unusable installed url cause
  | plugin {u : DatabaseUrl} {name : String} {others : List String}
      (hurl : DatabaseUrl.parse url = .ok u) (hplugins : u.values "plugin" = name :: others) :
      Unusable installed url (.unknownPlugin name)
  | unknown {u : DatabaseUrl} {cause : Error} (hurl : DatabaseUrl.parse url = .ok u)
      (hplugins : u.values "plugin" = []) (hdriver : Driver.ofName u.name = .error cause) :
      Unusable installed url cause
  | library {u : DatabaseUrl} {driver : Driver} (hurl : DatabaseUrl.parse url = .ok u)
      (hplugins : u.values "plugin" = []) (hdriver : Driver.ofName u.name = .ok driver)
      (hlibrary : driver.library ∉ installed) :
      Unusable installed url (.missingLibrary driver.library)
  | unsuited {u : DatabaseUrl} {driver : Driver} {cause : Error}
      (hurl : DatabaseUrl.parse url = .ok u) (hplugins : u.values "plugin" = [])
      (hdriver : Driver.ofName u.name = .ok driver) (hlibrary : driver.library ∈ installed)
      (hcheck : driver.check u.withoutPlugins = .error cause) : Unusable installed url cause

variable {installed : List String} {number : Nat} {url : String} {o : EngineOptions} {e : Engine}
  {u : DatabaseUrl} {driver : Driver} {cause : Error} {settings : Settings}

theorem refusePlugins_of_nil (hplugins : u.values "plugin" = []) : refusePlugins u = .ok () := by
  rw [refusePlugins, hplugins]

theorem load_of_mem (hlibrary : driver.library ∈ installed) : driver.load installed = .ok () := by
  rw [Driver.load, if_pos (List.contains_iff_mem.mpr hlibrary)]

/-- For a URL that can be used, only the pool is still to be chosen. -/
theorem Usable.create_eq (h : Usable installed url u driver) (number : Nat) (o : EngineOptions) :
    create installed number url o =
      (choosePool driver.dialect u.withoutPlugins o.sizes).map fun pool =>
        { number, url := u.withoutPlugins, dialect := driver.dialect, echo := o.echo
          prePing := o.prePing, pool } := by
  have hdriver : Driver.ofName u.withoutPlugins.name = .ok driver := h.known
  simp only [create, h.readable, refusePlugins_of_nil h.plugins, hdriver, load_of_mem h.library,
    h.suits, bind, Except.bind]
  cases choosePool driver.dialect u.withoutPlugins o.sizes <;> rfl

theorem Unusable.create_eq (h : Unusable installed url cause) (number : Nat) (o : EngineOptions) :
    create installed number url o = .error cause := by
  have hname (u : DatabaseUrl) : u.withoutPlugins.name = u.name := rfl
  cases h with
  | unreadable hurl => simp only [create, hurl, bind, Except.bind]
  | plugin hurl hplugins =>
      simp only [create, hurl, refusePlugins, hplugins, bind, Except.bind]
  | unknown hurl hplugins hdriver =>
      simp only [create, hurl, refusePlugins_of_nil hplugins, hname, hdriver, bind, Except.bind]
  | library hurl hplugins hdriver hlibrary =>
      have hload : Driver.load installed _ = .error _ :=
        if_neg (mt List.contains_iff_mem.mp hlibrary)
      simp only [create, hurl, refusePlugins_of_nil hplugins, hname, hdriver, hload, bind,
        Except.bind]
  | unsuited hurl hplugins hdriver hlibrary hcheck =>
      simp only [create, hurl, refusePlugins_of_nil hplugins, hname, hdriver, load_of_mem hlibrary,
        hcheck, bind, Except.bind]

theorem usable_or_unusable (installed : List String) (url : String) :
    (∃ u driver, Usable installed url u driver) ∨ ∃ cause, Unusable installed url cause := by
  cases hurl : DatabaseUrl.parse url with
  | error cause => exact .inr ⟨cause, .unreadable hurl⟩
  | ok u =>
      cases hplugins : u.values "plugin" with
      | cons name others => exact .inr ⟨_, .plugin hurl hplugins⟩
      | nil =>
          cases hdriver : Driver.ofName u.name with
          | error cause => exact .inr ⟨cause, .unknown hurl hplugins hdriver⟩
          | ok driver =>
              by_cases hlibrary : driver.library ∈ installed
              · cases hcheck : driver.check u.withoutPlugins with
                | error cause =>
                    exact .inr ⟨cause, .unsuited hurl hplugins hdriver hlibrary hcheck⟩
                | ok checked =>
                    exact .inl ⟨u, driver, hurl, hplugins, hdriver, hlibrary, hcheck⟩
              · exact .inr ⟨_, .library hurl hplugins hdriver hlibrary⟩

/-- The dialect with databases in memory has URLs by whose look settings know it. -/
theorem Usable.isSqlite (h : Usable installed settings.databaseUrl u driver)
    (hsqlite : driver.dialect = .sqlite) : settings.isSqlite = true := by
  have hdialect := Driver.dialect_prefix_of_ofName h.known
  have hurl := hdialect.trans (DatabaseUrl.name_prefix_of_parse h.readable)
  rw [hsqlite] at hurl
  exact List.isPrefixOf_iff_prefix.mpr hurl

/-- An engine is what settings ask for: it leads to the database of their URL and has their options,
and it keeps its connections in a queue unless the database is in memory. -/
structure Follows (installed : List String) (settings : Settings) (e : Engine) (u : DatabaseUrl)
    (driver : Driver) : Prop where
  usable : Usable installed settings.databaseUrl u driver
  url : e.url = u.withoutPlugins
  dialect : e.dialect = driver.dialect
  echo : e.echo = settings.echoSql
  prePing : e.prePing = settings.poolPrePing
  pool : e.pool = if e.dialect = .sqlite ∧ e.url.isInMemory = true then .perThread else .queue 5 10

/-- An engine has the number that it was created with. -/
theorem number_of_create (he : create installed number url o = .ok e) : e.number = number := by
  rcases usable_or_unusable installed url with ⟨u, driver, husable⟩ | ⟨cause, hunusable⟩
  · rw [husable.create_eq] at he
    obtain ⟨pool, -, rfl⟩ := map_eq_ok.mp he
    rfl
  · rw [hunusable.create_eq] at he
    cases he

end Engine

end NamedQuery
