import NamedQuery.Value.Heap

/-!
# Texts of values

`Value.display` shows a value with its kind, `Value.text` gives the bare text.  They differ for the
kinds that have a written form of their own: texts, decimals, calendar values and identifiers.
-/

namespace NamedQuery

namespace Value

def displayOffset (o : Offset) : String :=
  if o.east.microseconds = 0 then "datetime.timezone.utc"
  else "datetime.timezone(" ++ o.east.display ++ ")"

/-- The fields of a time of day.  Seconds and microseconds are left out while nothing but zeros
follows the minutes. -/
def clockFields (t : Clock) : List String :=
  [toString t.hour, toString t.minute] ++
    (if t.second = 0 && t.microsecond = 0 then [] else [toString t.second]) ++
    (if t.microsecond = 0 then [] else [toString t.microsecond]) ++
    (match t.offset with
      | some o => ["tzinfo=" ++ displayOffset o]
      | none => [])

def dateFields (d : Date) : List String := [toString d.year, toString d.month, toString d.day]

/-- The items of a tuple; a single one is followed by a comma. -/
def tupleText : List String → String
  | [item] => "(" ++ item ++ ",)"
  | items => "(" ++ String.intercalate ", " items ++ ")"

/-- The display of everything that holds no further values. -/
def displayLeaf : Value → String
  | null => "None"
  | bool b => if b then "True" else "False"
  | int n => toString n
  | float x => x.toText
  | str s => Text.quoted s
  | broken points => Text.quotedPoints points
  | arity a => "<" ++ a.label ++ ": " ++ Text.quoted a.word ++ ">"
  | bytes content => Text.quotedBytes content
  | decimal d => "Decimal(" ++ Text.quoted d.toText ++ ")"
  | date d => "datetime.date(" ++ String.intercalate ", " (dateFields d) ++ ")"
  | moment m => "datetime.datetime(" ++
      String.intercalate ", " (dateFields m.date ++ clockFields m.clock) ++ ")"
  | clock t => "datetime.time(" ++ String.intercalate ", " (clockFields t) ++ ")"
  | duration d => d.display
  | uuid u => "UUID(" ++ Text.quoted u.dashed ++ ")"
  | object kind => "<" ++ kind ++ ">"
  | _ => ""

/-- How a collection shows within itself. -/
def ellipsis : Value → String
  | tuple _ => "(...)"
  | set _ => "set(...)"
  | dict _ => "\x7b...\x7d"
  | _ => "[...]"

/-- The text of the value at a place of a heap, within the values at the places `outer`.  `shows`
are the texts of the values of the heap, as they depend on the texts of places. -/
def displayPlace (heap : List Value) (shows : List ((Nat → String) → String)) :
    Nat → List Nat → Nat → String
  | 0, _, _ => ""
  | fuel + 1, outer, place =>
    if outer.contains place then ((heap[place]?).getD null).ellipsis
    else ((shows[place]?).getD fun _ => "") (displayPlace heap shows fuel (place :: outer))

mutual

/-- The text that shows a value together with its kind; `link` gives the texts of places. -/
def displayWith (showLink : Nat → String) : Value → String
  | list items => "[" ++ String.intercalate ", " (displayItems showLink items) ++ "]"
  | tuple items => tupleText (displayItems showLink items)
  | set [] => "set()"
  | set items => "\x7b" ++ String.intercalate ", " (displayItems showLink items) ++ "\x7d"
  | dict entries =>
    "\x7b" ++ String.intercalate ", " (displayEntries showLink entries) ++ "\x7d"
  | options fields => "OptionSet(" ++ String.intercalate ", " (displayFields showLink fields) ++ ")"
  | looped heap place =>
    displayPlace heap (displayHeap heap) (heap.length + 1) [] place
  | link place => showLink place
  | leaf => displayLeaf leaf

def displayItems (showLink : Nat → String) : List Value → List String
  | [] => []
  | item :: rest => displayWith showLink item :: displayItems showLink rest

def displayEntries (showLink : Nat → String) : List (Value × Value) → List String
  | [] => []
  | (key, value) :: rest =>
    (displayWith showLink key ++ ": " ++ displayWith showLink value) ::
      displayEntries showLink rest

def displayFields (showLink : Nat → String) : List (String × Value) → List String
  | [] => []
  | (field, value) :: rest =>
    (field ++ "=" ++ displayWith showLink value) :: displayFields showLink rest

/-- The texts of the values of a heap, as they depend on the texts of places. -/
def displayHeap : List Value → List ((Nat → String) → String)
  | [] => []
  | v :: rest => (fun showLink => displayWith showLink v) :: displayHeap rest

end

def display (v : Value) : String := v.displayWith fun _ => ""

def text : Value → String
  | str s => s
  | broken points => String.ofList (Text.joined points)
  | arity a => a.label
  | decimal d => d.toText
  | date d => d.toText
  | moment m => m.toText
  | clock t => t.toText
  | duration d => d.toText
  | uuid u => u.dashed
  | options fields => String.intercalate " " (displayFields (fun _ => "") fields)
  | v => v.display

/-- The bare text of a value, in which halves of characters may stand alone. -/
def content : Value → Content
  | broken points => .broken points
  | v => .text v.text

mutual

def isUnwritable : Value → Bool
  | int n => Numeral.isTooLong n
  | list items => anyUnwritable items
  | tuple items => anyUnwritable items
  | set items => anyUnwritable items
  | dict entries => anyEntryUnwritable entries
  | options fields => anyFieldUnwritable fields
  | looped heap place => unwritableAt (reached heap heap.length [place]) 0 heap
  | _ => false

def anyUnwritable : List Value → Bool
  | [] => false
  | item :: rest => isUnwritable item || anyUnwritable rest

def anyEntryUnwritable : List (Value × Value) → Bool
  | [] => false
  | (key, value) :: rest => isUnwritable key || isUnwritable value || anyEntryUnwritable rest

def anyFieldUnwritable : List (String × Value) → Bool
  | [] => false
  | (_, value) :: rest => isUnwritable value || anyFieldUnwritable rest

/-- The same of the values of a heap at some places, from the one at `place` on. -/
def unwritableAt (places : List Nat) (place : Nat) : List Value → Bool
  | [] => false
  | item :: rest =>
    (places.contains place && isUnwritable item) || unwritableAt places (place + 1) rest

end

end Value

end NamedQuery
