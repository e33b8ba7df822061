/-!
# Pieces of a list

A list is cut at every occurrence of a mark; the pieces with the mark between them are the list
again.
-/

namespace NamedQuery.Text

/-- The pieces between the occurrences of a mark, at least one. -/
def pieces {α : Type} [DecidableEq α] (mark : α) : List α → List (List α)
  | [] => [[]]
  | c :: cs =>
    match pieces mark cs with
    | [] => [[c]]
    | first :: rest => if c = mark then [] :: first :: rest else (c :: first) :: rest

end NamedQuery.Text
