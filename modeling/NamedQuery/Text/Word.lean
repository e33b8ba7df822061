import NamedQuery.Text.Letters
import NamedQuery.Text.Numerals
import NamedQuery.Text.Marks

/-!
# Words and identifiers

A placeholder name is a run of word characters; a parameter name is an identifier that is not a
reserved word.  The two classes overlap but neither contains the other: `½` is a word character
that no identifier holds, and a combining accent continues an identifier without being one of the
word characters.
-/

namespace NamedQuery.Text

/-- Letters, numerals of every kind and the underscore. -/
def isWord (c : Char) : Bool :=
  c.isAlphanum || c = '_' ||
    (128 ≤ c.toNat &&
      (letters.contains c || decimalDigits.contains c || letterNumbers.contains c ||
        otherNumerals.contains c))

/-- Letters and letter numbers that identifiers refuse because their compatibility form does not
start one. -/
def notStarting : List Nat :=
  [0x37A, 0xE33, 0xEB3, 0x2E2F, 0xFC5E, 0xFC5F, 0xFC60, 0xFC61, 0xFC62, 0xFC63, 0xFDFA, 0xFDFB,
    0xFE70, 0xFE72, 0xFE74, 0xFE76, 0xFE78, 0xFE7A, 0xFE7C, 0xFE7E, 0xFF9E, 0xFF9F]

/-- Characters that start an identifier although they are neither letters nor letter numbers. -/
def alsoStarting : List Nat := [0x1885, 0x1886, 0x2118, 0x212E]

/-- Characters that continue an identifier beside the starting ones, the decimal digits, the marks
and the connectors. -/
def alsoContinuing : List Nat :=
  [0xB7, 0x387, 0xE33, 0xEB3, 0x1369, 0x136A, 0x136B, 0x136C, 0x136D, 0x136E, 0x136F, 0x1370,
    0x1371, 0x19DA, 0xFF9E, 0xFF9F]

def startsIdentifier (c : Char) : Bool :=
  c.isAlpha || c = '_' ||
    (128 ≤ c.toNat &&
      (alsoStarting.contains c.toNat ||
        ((letters.contains c || letterNumbers.contains c) && !notStarting.contains c.toNat)))

def continuesIdentifier (c : Char) : Bool :=
  startsIdentifier c || c.isDigit ||
    (128 ≤ c.toNat &&
      (decimalDigits.contains c || marks.contains c || connectors.contains c ||
        alsoContinuing.contains c.toNat))

def isIdentifier (s : String) : Bool :=
  match s.toList with
  | [] => false
  | c :: rest => startsIdentifier c && rest.all continuesIdentifier

/-- The words that a call cannot use as the name of an argument. -/
def reservedWords : List String :=
  ["False", "None", "True", "and", "as", "assert", "async", "await", "break", "class", "continue",
    "def", "del", "elif", "else", "except", "finally", "for", "from", "global", "if", "import",
    "in", "is", "lambda", "nonlocal", "not", "or", "pass", "raise", "return", "try", "while",
    "with", "yield"]

def isParameterName (s : String) : Bool :=
  isIdentifier s && !reservedWords.contains s

end NamedQuery.Text
