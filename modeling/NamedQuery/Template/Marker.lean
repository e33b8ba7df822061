import NamedQuery.Text.Glyph
import NamedQuery.Text.Word

/-!
# Markers

A marker is a colon with a run of word characters behind it, the name.  The colon must not follow a
word character or another colon, and no colon may follow the run; so `price::numeric`, `'10:30'` and
`:a:` hold no marker.  A run is taken as a whole or not at all.  Half a character is neither a word
character nor a colon.
-/

namespace NamedQuery.Marker

open NamedQuery.Text

/-- An element of the text, or the name of a marker in it. -/
inductive Mark where
  | glyph (g : Glyph)
  | name (cs : List Char)
deriving DecidableEq, Repr

def isWordGlyph : Glyph → Bool
  | .char c => isWord c
  | .half _ => false

/-- Whether a marker may begin behind this glyph; `none` is the beginning of the text. -/
def allowsMarker : Option Glyph → Bool
  | none => true
  | some g => !(g = .char ':' || isWordGlyph g)

/-- The run of word characters at the front. -/
def wordRun : List Glyph → List Char
  | .char c :: rest => if isWord c then c :: wordRun rest else []
  | _ => []

/-- The name of the marker whose colon stands before `gs`, if the run of word characters makes
one. -/
def nameAt (gs : List Glyph) : Option (List Char) :=
  let run := wordRun gs
  if run.isEmpty || (gs.drop run.length).head? = some (.char ':') then none else some run

/-- Reads the text from the glyph after `before`, leaving out the first `skip` glyphs, which belong
to the name of a marker that was read already. -/
def scanFrom : Option Glyph → Nat → List Glyph → List Mark
  | _, _, [] => []
  | _, skip + 1, g :: rest => scanFrom (some g) skip rest
  | before, 0, g :: rest =>
    if g = .char ':' && allowsMarker before then
      match nameAt rest with
      | some run => .name run :: scanFrom (some g) run.length rest
      | none => .glyph g :: scanFrom (some g) 0 rest
    else .glyph g :: scanFrom (some g) 0 rest

/-- The glyphs and markers of a text, in order. -/
def scan (gs : List Glyph) : List Mark := scanFrom none 0 gs

/-- The text that a mark was read from. -/
def Mark.source : Mark → List Glyph
  | .glyph g => [g]
  | .name cs => .char ':' :: cs.map .char

/-- The name that a mark is, if it is one. -/
def Mark.name? : Mark → Option String
  | .glyph _ => none
  | .name cs => some (String.ofList cs)

/-- The names of the markers of a text, one for each occurrence. -/
def names (gs : List Glyph) : List String := (scan gs).filterMap Mark.name?

end NamedQuery.Marker
