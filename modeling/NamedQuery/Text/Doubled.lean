/-!
# Doubled characters

A text between single quotes in which some characters, the quote among them, are written twice, so
that a reader can tell them from the quote at the end.
-/

namespace NamedQuery.Text

def doubled (twice : Char → Bool) (cs : List Char) : List Char :=
  cs.flatMap fun c => if twice c then [c, c] else [c]

def enclosed (cs : List Char) : String := String.ofList ('\'' :: cs ++ ['\''])

@[simp]
theorem doubled_append (twice : Char → Bool) (a b : List Char) :
    doubled twice (a ++ b) = doubled twice a ++ doubled twice b := by
  simp [doubled]

/-- A doubled character is written twice as often, and any other as often as before. -/
theorem count_doubled (twice : Char → Bool) (x : Char) (cs : List Char) :
    (doubled twice cs).count x = (if twice x then 2 else 1) * cs.count x := by
  induction cs with
  | nil => simp [doubled]
  | cons c rest ih =>
    rw [← List.singleton_append, doubled_append, List.count_append, List.count_append, ih]
    by_cases hx : c = x
    · subst hx
      by_cases hc : twice c = true
      · simp only [doubled, List.flatMap_cons, List.flatMap_nil, hc, if_true, List.append_nil,
          List.count_cons_self, List.count_nil]
        omega
      · simp only [doubled, List.flatMap_cons, List.flatMap_nil, hc, List.append_nil,
          List.count_cons_self, List.count_nil]
        simp
    · by_cases hc : twice c = true <;>
        simp [doubled, hc, List.count_cons_of_ne hx]

end NamedQuery.Text
