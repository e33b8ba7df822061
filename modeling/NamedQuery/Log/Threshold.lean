import NamedQuery.Log

/-!
# Names of log levels

A level is given by its name, in any case; an unknown name stands for the usual level.  Two names
are taken that are no levels, and fail.
-/

namespace NamedQuery.Log

/-- The characters outside of ASCII whose upper case form is made of ASCII letters. -/
def specialUpper : List (Char × String) :=
  [('ß', "SS"), ('ı', "I"), ('ſ', "S"), ('ﬀ', "FF"), ('ﬁ', "FI"), ('ﬂ', "FL"), ('ﬃ', "FFI"),
    ('ﬄ', "FFL"), ('ﬅ', "ST"), ('ﬆ', "ST")]

/-- The upper case form, as far as it is made of ASCII letters. -/
def upperCase (s : String) : String :=
  String.join (s.toList.map fun c => (specialUpper.lookup c).getD (String.singleton c.toUpper))

def levels : List (String × Nat) :=
  [("NOTSET", 0), ("DEBUG", 10), ("INFO", 20), ("WARN", 30), ("WARNING", 30), ("ERROR", 40),
    ("FATAL", 50), ("CRITICAL", 50)]

def usualLevel : Nat := 20

/-- What two further names stand for. -/
def lineFormat : String := "%(levelname)s:%(name)s:%(message)s"

def formatStyles : String :=
  "\x7b'%': (<class 'logging.PercentStyle'>, '%(levelname)s:%(name)s:%(message)s'), " ++
    "'\x7b': (<class 'logging.StrFormatStyle'>, " ++
    "'\x7blevelname\x7d:\x7bname\x7d:\x7bmessage\x7d'), " ++
    "'$': (<class 'logging.StringTemplateStyle'>, " ++
    "'$\x7blevelname\x7d:$\x7bname\x7d:$\x7bmessage\x7d')\x7d"

def threshold (name : String) : Except Error Nat :=
  let upper := upperCase name
  if upper = "BASIC_FORMAT" then .error (.unknownLevel lineFormat)
  else if upper = "_STYLES" then .error (.levelNotNumber formatStyles)
  else .ok ((levels.lookup upper).getD usualLevel)

end NamedQuery.Log
