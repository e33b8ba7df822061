import NamedQuery.Settings.EnvFile

/-!
# What the variables of a file refer to

The value of a variable depends on the environment and on other variables only as far as its text
refers to them.  So lines that no other line refers to can be left out of a file, and entries that
no line refers to can be left out of the environment, and every other variable keeps its value.
-/

namespace NamedQuery

namespace Entries

variable {α : Type}

/-- The entries under the names that are kept. -/
def only (kept : String → Bool) (entries : List (String × α)) : List (String × α) :=
  entries.filter fun e => kept e.1

theorem only_cons (kept : String → Bool) (e : String × α) (rest : List (String × α)) :
    only kept (e :: rest) = if kept e.1 then e :: only kept rest else only kept rest :=
  List.filter_cons

theorem lookup_only {kept : String → Bool} {name : String} (hname : kept name = true)
    (entries : List (String × α)) : (only kept entries).lookup name = entries.lookup name := by
  induction entries with
  | nil => rfl
  | cons e rest ih =>
      rw [only_cons, lookup_cons_eq_ite e rest]
      split
      · rw [lookup_cons_eq_ite, ih]
      · next hleft =>
        have hother : e.1 ≠ name := fun heq => hleft (heq ▸ hname)
        rw [if_neg hother, ih]

/-- An assignment to a kept name is made to what is kept, and one to another name leaves it. -/
theorem only_assign (kept : String → Bool) (entries : List (String × α)) (name : String)
    (entry : α) :
    only kept (assign entries name entry) =
      if kept name then assign (only kept entries) name entry else only kept entries := by
  have hreplaced : only kept (entries.map fun e => if e.1 = name then (name, entry) else e) =
      (only kept entries).map fun e => if e.1 = name then (name, entry) else e := by
    have hnames : ((fun e : String × α => kept e.1) ∘ fun e => if e.1 = name then (name, entry)
        else e) = fun e => kept e.1 := by
      funext e
      by_cases he : e.1 = name <;> simp [he]
    rw [only, List.filter_map, hnames, only]
  split
  · next hname =>
    have hany : (only kept entries).any (·.1 = name) = entries.any (·.1 = name) := by
      rw [← isSome_lookup, ← isSome_lookup, lookup_only hname]
    rw [assign, assign, hany]
    split
    · exact hreplaced
    · simp [only, hname]
  · next hname =>
    rw [assign]
    split
    · have hothers : ∀ e ∈ only kept entries, (if e.1 = name then (name, entry) else e) = e := by
        intro e he
        have hkept : kept e.1 = true := (List.mem_filter.mp he).2
        exact if_neg fun heq : e.1 = name => hname (heq ▸ hkept)
      rw [hreplaced, List.map_congr_left hothers, List.map_id']
    · simp [only, hname]

end Entries

namespace EnvFile

/-- The names that a text refers to. -/
def references : Nat → List Char → List String
  | 0, _ => []
  | _, [] => []
  | fuel + 1, c :: cs =>
    match reference? (c :: cs) with
    | some (name, _, rest) => String.ofList name :: references fuel rest
    | none => references fuel cs

/-- The names that the value of a line refers to. -/
def Line.references (l : Line) : List String :=
  (l.value.map fun cs => EnvFile.references cs.length cs).getD []

theorem expand_congr {look look' : String → Option String} {fuel : Nat} {cs : List Char}
    (hsame : ∀ name ∈ references fuel cs, look name = look' name) :
    expand look fuel cs = expand look' fuel cs := by
  induction fuel generalizing cs with
  | zero => rfl
  | succ fuel ih =>
      cases cs with
      | nil => rfl
      | cons c rest =>
          rw [references] at hsame
          rw [expand, expand]
          cases hreference : reference? (c :: rest) with
          | none =>
              rw [hreference] at hsame
              exact congrArg (c :: ·) (ih hsame)
          | some found =>
              obtain ⟨name, default, after⟩ := found
              rw [hreference] at hsame
              have hname := hsame _ List.mem_cons_self
              have hafter := ih fun other hother => hsame other (List.mem_cons_of_mem _ hother)
              simp only [hname, hafter]

/-- The value of a line, where these variables are known already. -/
def Line.text (environment : List (String × String)) (known : List (String × Option String))
    (l : Line) : Option String :=
  l.value.map fun cs => String.ofList (expand (find environment known) cs.length cs)

theorem resolve_cons (environment : List (String × String))
    (known : List (String × Option String)) (l : Line) (rest : List Line) :
    resolve environment known (l :: rest) =
      resolve environment
        (Entries.assign known (String.ofList l.name) (l.text environment known)) rest := rfl

theorem Line.text_congr {environment environment' : List (String × String)}
    {known known' : List (String × Option String)} {l : Line}
    (hsame : ∀ name ∈ l.references, find environment known name = find environment' known' name) :
    l.text environment known = l.text environment' known' := by
  cases hvalue : l.value with
  | none => rw [text, text, hvalue, Option.map_none, Option.map_none]
  | some cs =>
      rw [references, hvalue] at hsame
      rw [text, text, hvalue, Option.map_some, Option.map_some, expand_congr hsame]

/-- Where no line refers to what the environments differ in, the variables are the same. -/
theorem resolve_congr {environment environment' : List (String × String)} {ls : List Line}
    (hsame : ∀ l ∈ ls, ∀ name ∈ l.references,
      environment.lookup name = environment'.lookup name)
    (known : List (String × Option String)) :
    resolve environment known ls = resolve environment' known ls := by
  induction ls generalizing known with
  | nil => rfl
  | cons l rest ih =>
      have htext : l.text environment known = l.text environment' known := by
        refine l.text_congr fun name hname => ?_
        rw [find, find, hsame l List.mem_cons_self name hname]
      rw [resolve_cons, resolve_cons, htext,
        ih fun later hlater => hsame later (List.mem_cons_of_mem l hlater)]

/-- The lines under the names that are kept. -/
def Line.only (kept : String → Bool) (ls : List Line) : List Line :=
  ls.filter fun l => kept (String.ofList l.name)

theorem Line.only_cons (kept : String → Bool) (l : Line) (rest : List Line) :
    only kept (l :: rest) =
      if kept (String.ofList l.name) then l :: only kept rest else only kept rest :=
  List.filter_cons

theorem Line.only_append (kept : String → Bool) (front back : List Line) :
    only kept (front ++ back) = only kept front ++ only kept back :=
  List.filter_append ..

/-- Lines whose names no kept line refers to can be left out, and all kept variables stay. -/
theorem only_resolve {kept : String → Bool} {environment : List (String × String)}
    {ls : List Line}
    (hkept : ∀ l ∈ Line.only kept ls, ∀ name ∈ l.references, kept name = true)
    (known : List (String × Option String)) :
    Entries.only kept (resolve environment known ls) =
      resolve environment (Entries.only kept known) (Line.only kept ls) := by
  induction ls generalizing known with
  | nil => rfl
  | cons l rest ih =>
      rw [Line.only_cons] at hkept ⊢
      rw [resolve_cons]
      split at hkept
      · next hname =>
        have htext : l.text environment known = l.text environment (Entries.only kept known) := by
          refine l.text_congr fun name hreference => ?_
          have hthere := hkept l List.mem_cons_self name hreference
          rw [find, find, Entries.lookup_only hthere]
        rw [ih fun later hlater => hkept later (List.mem_cons_of_mem l hlater),
          Entries.only_assign, if_pos hname, if_pos hname, resolve_cons, htext]
      · next hname =>
        rw [ih hkept, Entries.only_assign, if_neg hname, if_neg hname]

end EnvFile

end NamedQuery
