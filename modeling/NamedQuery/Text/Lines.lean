/-!
# Texts of files

A text that is read from a file has one kind of line end, whatever kinds the file has, and no mark
of its byte order.
-/

namespace NamedQuery.Text

/-- Every line of the text ends in a line feed. -/
def normalizeLines : List Char → List Char
  | '\r' :: '\n' :: rest => '\n' :: normalizeLines rest
  | c :: rest => (if c = '\r' then '\n' else c) :: normalizeLines rest
  | [] => []

/-- The text without a byte order mark in front. -/
def dropOrderMark : List Char → List Char
  | '\uFEFF' :: cs => cs
  | cs => cs

end NamedQuery.Text
