import NamedQuery.Proofs.Finder.Keywords
import NamedQuery.Proofs.Model.Previewing

/-!
# Calls by keyword

A value that is passed by keyword is bound like one that is passed directly: a call that binds its
arguments alike does the same.  Only the names that a call keeps for itself cannot be passed like
this, whether or not a finder has a parameter with such a name.
-/

namespace NamedQuery

/-- What fails in any case behind a check fails with it, and has done nothing. -/
theorem Traced.ofExcept_bind_fails {α β : Type} {check : Except Error α} {next : α → Traced β}
    (hnext : ∀ a, ∃ e, next a = fail e) : ∃ e, (ofExcept check >>= next) = fail e := by
  cases check with
  | error e => exact ⟨e, rfl⟩
  | ok a => exact hnext a

/-- No keyword is a name that the entrance keeps for itself. -/
def Entrance.Allows (entrance : Entrance) (keywords : List (String × Value)) : Prop :=
  ∀ e ∈ keywords, e.1 ∉ entrance.ownNames

theorem Entrance.Allows.ne_self {keywords : List (String × Value)}
    (hallowed : Entrance.render.Allows keywords) : ∀ e ∈ keywords, e.1 ≠ "self" := by
  intro e he hname
  exact hallowed e he (by simp [hname, Entrance.ownNames])

/-- A keyword that the entrance keeps for itself is refused. -/
theorem Entrance.checkKeywords_of_not_allows {entrance : Entrance}
    {keywords : List (String × Value)} (hkept : ¬ entrance.Allows keywords) :
    ∃ name ∈ entrance.ownNames,
      entrance.checkKeywords keywords = .error (.repeatedArgument entrance name) := by
  unfold checkKeywords
  cases hfound : keywords.find? fun e => entrance.ownNames.contains e.1 with
  | none =>
      rw [List.find?_eq_none] at hfound
      exact absurd (fun e he => by simpa using hfound e he) hkept
  | some e => exact ⟨e.1, by simpa using List.find?_some hfound, rfl⟩

namespace Finder

variable {f : Finder} {a b : Arguments}

theorem render_congr (ha : Entrance.render.Allows a.keywords)
    (hb : Entrance.render.Allows b.keywords) (hbind : f.bindArguments a = f.bindArguments b)
    (backend : Backend) : f.render backend a = f.render backend b := by
  rw [render, render, Entrance.checkKeywords_eq_ok ha, Entrance.checkKeywords_eq_ok hb, hbind]

theorem render_of_not_allows (hkept : ¬ Entrance.render.Allows a.keywords) (backend : Backend) :
    ∃ e, f.render backend a = Traced.fail e := by
  obtain ⟨name, -, hrefused⟩ := Entrance.checkKeywords_of_not_allows hkept
  rw [render, hrefused]
  exact ⟨_, rfl⟩

/-- Wherever the finder is called or previewed, both lists of arguments do the same. -/
def TakesAlike (f : Finder) (a b : Arguments) : Prop :=
  ∀ (ms : Models) (here : Surroundings) (stored : List StoredRow) (m : Model),
    ms.preview here.dialect m f a = ms.preview here.dialect m f b ∧
      ms.call here stored m f a = ms.call here stored m f b

/-- Arguments with which a finder renders alike on every backend are taken alike. -/
theorem takesAlike_of_render (ha : Entrance.render.Allows a.keywords)
    (hb : Entrance.render.Allows b.keywords)
    (hrender : ∀ backend, f.render backend a = f.render backend b) : f.TakesAlike a b := by
  have hself {keywords : List (String × Value)} (h : Entrance.render.Allows keywords) :
      ∀ e ∈ keywords, e.1 ∉ ["self"] := by
    intro e he hmem
    exact h e he (List.mem_append_left ["backend"] hmem)
  have hrun (settings : Except Error Settings) (label : String) (backend : Backend) :
      f.run settings label backend a = f.run settings label backend b := by
    rw [run, run, hrender]
  intro ms here stored m
  constructor
  · rw [Models.preview, Models.preview, Entrance.checkKeywords_eq_ok (hself ha),
      Entrance.checkKeywords_eq_ok (hself hb)]
    simp only [hrender]
  · rw [Models.call, Models.call, Entrance.checkKeywords_eq_ok (hself ha),
      Entrance.checkKeywords_eq_ok (hself hb)]
    simp only [hrun]

theorem takesAlike_of_bindArguments (ha : Entrance.render.Allows a.keywords)
    (hb : Entrance.render.Allows b.keywords) (hbind : f.bindArguments a = f.bindArguments b) :
    f.TakesAlike a b :=
  takesAlike_of_render ha hb (render_congr ha hb hbind)

end Finder

namespace Models

variable {ms : Models} {hook : Option Hook} {dialect : Dialect} {m : Model} {name arity : Value}
  {given : GivenOptions} {f : Finder}

/-- A name that is kept for the call itself stops every call, and nothing is run. -/
theorem call_of_not_allows {args : Arguments}
    (hkept : ¬ Entrance.render.Allows args.keywords) (ms : Models) (here : Surroundings)
    (stored : List StoredRow) (m : Model) (f : Finder) :
    (∃ e, (ms.preview here.dialect m f args).result = .error e) ∧
      (∃ e, (ms.call here stored m f args).result = .error e) ∧
      (ms.call here stored m f args).statements = [] := by
  have hpreview : ∃ e, ms.preview here.dialect m f args = Traced.fail e := by
    apply Traced.ofExcept_bind_fails
    intro checked
    apply Traced.ofExcept_bind_fails
    intro backend
    exact Finder.render_of_not_allows hkept backend
  have hcall : ∃ e, ms.call here stored m f args = Traced.fail e := by
    apply Traced.ofExcept_bind_fails
    intro checked
    apply Traced.ofExcept_bind_fails
    intro backend
    obtain ⟨e, hrender⟩ := Finder.render_of_not_allows (f := f) hkept backend
    rw [Finder.run, hrender]
    exact ⟨e, rfl⟩
  obtain ⟨e, hpreview⟩ := hpreview
  obtain ⟨e', hcall⟩ := hcall
  rw [hpreview, hcall]
  exact ⟨⟨e, rfl⟩, ⟨e', rfl⟩, rfl⟩

/-- Passing by keyword is the same as passing the value directly, unless a keyword has one of the
two names that are kept for the call itself; no call succeeds with one of these.  A named finder
takes the mapping that has the values of the keywords and the other entries of the given mapping.
For a positional finder any of the last values may be given by keyword instead, in any order. -/
theorem keywords_as_values
    (hdefine : (ms.defineWith hook dialect m name arity given).1.result = .ok f) :
    (f.positional = false → ∀ (entries : List (Value × Value)) (keywords : List (String × Value)),
      (keywords.map Prod.fst).Nodup → Entrance.render.Allows keywords →
        f.TakesAlike ⟨[.dict entries], keywords⟩ ⟨[.dict (Arguments.merge entries keywords)], []⟩ ∧
          ∀ parameter, Value.lookup (.str parameter) (Arguments.merge entries keywords) =
            (Arguments.keyword? keywords parameter).orElse fun _ =>
              Value.lookup (.str parameter) entries) ∧
      (f.positional = true → ∀ (front back : List Value) (keywords : List (String × Value)),
        front.length + back.length ≤ f.order.length →
          keywords.Perm ((f.order.drop front.length).zip back) →
            Entrance.render.Allows keywords →
              f.TakesAlike ⟨front, keywords⟩ ⟨front ++ back, []⟩) ∧
      ∀ args : Arguments, ¬ Entrance.render.Allows args.keywords →
        ∀ (ms : Models) (here : Surroundings) (stored : List StoredRow) (m : Model),
          (∃ e, (ms.preview here.dialect m f args).result = .error e) ∧
            (∃ e, (ms.call here stored m f args).result = .error e) ∧
              (ms.call here stored m f args).statements = [] := by
  have hnone : Entrance.render.Allows [] := nofun
  rw [result_defineWith] at hdefine
  refine ⟨?_, ?_, ?_⟩
  · intro hnamed entries keywords hnodup hallowed
    constructor
    · apply Finder.takesAlike_of_bindArguments hallowed hnone
      rw [Finder.bindArguments, Finder.bindArguments, hnamed]
      rfl
    · intro parameter
      exact Arguments.lookup_merge hnodup entries parameter
  · intro hpositional front back keywords hlength hkeywords hallowed
    apply Finder.takesAlike_of_bindArguments hallowed hnone
    have hfit := Arguments.fit_of_keywords (nodup_order_of_compileWith hdefine) hlength hkeywords
    rw [Finder.bindArguments, Finder.bindArguments, if_pos hpositional, if_pos hpositional, hfit]
  · intro args hkept ms here stored m
    exact call_of_not_allows hkept ms here stored m f

/-- Options with the parameters of `cheap`, for values by position. -/
def placed : Options := { cheap with order := none, positional := true }

theorem call_of_placed :
    ∃ f g, (recipes.defineWith none .sqlite recipe (.str "cheap") (.str "all")
        (.checked placed)).1.result = .ok f ∧
      (recipes.preview .sqlite recipe f ⟨[.str "any"], [("most", .int 3)]⟩).result =
        .ok "SELECT * FROM recipes WHERE (diet = 'any' AND cost < 3)" ∧
      (recipes.defineWith none .sqlite recipe (.str "cheap") (.str "all")
        (.checked cheap)).1.result = .ok g ∧
      g.TakesAlike ⟨[.dict [(.str "diet", .str "any")]], [("most", .int 3)]⟩
        ⟨[.dict (Arguments.merge [(.str "diet", .str "any")] [("most", .int 3)])], []⟩ := by
  have hmade : ((recipes.defineWith none .sqlite recipe (.str "cheap") (.str "all")
      (.checked placed)).1.result.toOption.map fun f => (f.positional, f.order,
        (recipes.preview .sqlite recipe f ⟨[.str "any", .int 3], []⟩).result.toOption)) =
      some (true, ["diet", "most"],
        some "SELECT * FROM recipes WHERE (diet = 'any' AND cost < 3)") := by decide +kernel
  obtain ⟨f, hf, hparts⟩ := Option.map_eq_some_iff.mp hmade
  obtain ⟨hpositional, horder, hdirect⟩ : f.positional = true ∧ f.order = ["diet", "most"] ∧ _ := by
    simpa only [Prod.mk.injEq] using hparts
  have hplaced := toOption_eq_some.mp hf
  obtain ⟨g, hnamed, hmapping⟩ :
      ∃ g, (recipes.defineWith none .sqlite recipe (.str "cheap") (.str "all")
        (.checked cheap)).1.result = .ok g ∧ g.positional = false := ⟨_, rfl, rfl⟩
  have hallowed : Entrance.render.Allows [("most", Value.int 3)] := by
    simp [Entrance.Allows, Entrance.ownNames]
  obtain ⟨-, hsplit, -⟩ := keywords_as_values hplaced
  obtain ⟨hmerge, -, -⟩ := keywords_as_values hnamed
  have halike : f.TakesAlike ⟨[.str "any"], [("most", .int 3)]⟩ ⟨[.str "any", .int 3], []⟩ := by
    apply hsplit hpositional [.str "any"] [.int 3] [("most", .int 3)] _ _ hallowed
    · rw [horder]
      decide
    · rw [horder]
      exact .refl _
  refine ⟨f, g, hplaced, ?_, hnamed, (hmerge hmapping _ _ (by simp) hallowed).1⟩
  have hpreview : recipes.preview .sqlite recipe f _ = recipes.preview .sqlite recipe f _ :=
    (halike recipes .usual [] recipe).1
  rw [hpreview]
  exact toOption_eq_some.mp hdirect

/-- Options with a parameter that has a name which is kept for calls. -/
def owned : Options :=
  { Options.empty with conditions := some (.text "owner = :backend"), positional := true }

/-- The value of a parameter with such a name can be passed directly, but not by keyword. -/
theorem preview_of_owned :
    ∃ f, (recipes.define .usual recipe (.str "owned") (.str "all") (.checked owned)).1.result =
        .ok f ∧ f.order = ["backend"] ∧
      (recipes.preview .sqlite recipe f ⟨[.str "ann"], []⟩).result =
        .ok "SELECT * FROM recipes WHERE (owner = 'ann')" ∧
      (recipes.preview .sqlite recipe f ⟨[], [("backend", .str "ann")]⟩).result =
        .error (.repeatedArgument .render "backend") :=
  ⟨_, rfl, rfl, rfl, rfl⟩

end Models

end NamedQuery
