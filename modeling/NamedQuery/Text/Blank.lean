/-!
# Blank characters

White space in the wide sense: separators, line and paragraph ends and the control characters that
act as such.  A zero-width space is not blank.
-/

namespace NamedQuery.Text

def isBlank (c : Char) : Bool :=
  let n := c.toNat
  (9 ≤ n && n ≤ 13) || (28 ≤ n && n ≤ 32) || n = 0x85 || n = 0xA0 || n = 0x1680 ||
    (0x2000 ≤ n && n ≤ 0x200A) || n = 0x2028 || n = 0x2029 || n = 0x202F || n = 0x205F ||
    n = 0x3000

/-- Blank characters beside the four separators among the controls, which count as blank only in
some places. -/
def isSpace (c : Char) : Bool := isBlank c && !(28 ≤ c.toNat && c.toNat ≤ 31)

/-- `cs` without the spaces at both ends. -/
def trimSpaces (cs : List Char) : List Char :=
  ((cs.dropWhile isSpace).reverse.dropWhile isSpace).reverse

/-- A text without any character that is not blank; the empty text is one. -/
def isBlankText (s : String) : Bool := s.toList.all isBlank

/-- `cs` without the blank characters at its end. -/
def dropBlankEnd (cs : List Char) : List Char := (cs.reverse.dropWhile isBlank).reverse

def trimBlank (s : String) : String :=
  String.ofList (dropBlankEnd (s.toList.dropWhile isBlank))

end NamedQuery.Text
