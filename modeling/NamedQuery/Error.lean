import NamedQuery.Value.Display
import NamedQuery.Value.Places
import NamedQuery.Text.Hex
import NamedQuery.Text.Utf8

/-!
# Causes of failure

Every way in which a definition, a call or a look-up can fail, with the message that reports it.
`Error.kind` sorts the causes into the few kinds that a caller can tell apart.
-/

namespace NamedQuery

/-- What is wrong with one field of an option set, a finder or the settings. -/
inductive Complaint where
  | notText
  | undecodable
  | notInteger
  | fractional
  | notFinite
  | tooLarge
  | notIntegerText
  | notBoolean
  | unknownBoolean
  | unknownField
  | keyNotText
  | notOptions
  | booleanBound
  | negativeBound
  | unusableName (written : String)
  | unknownArity (written : String)
  | notArity
deriving DecidableEq, Repr

namespace Complaint

def message : Complaint → String
  | notText => "Input should be a valid string"
  | undecodable => "Input should be a valid string, unable to parse raw data as a unicode string"
  | notInteger => "Input should be a valid integer"
  | fractional => "Input should be a valid integer, got a number with a fractional part"
  | notFinite => "Input should be a finite number"
  | tooLarge => "Unable to parse input string as an integer, exceeded maximum size"
  | notIntegerText => "Input should be a valid integer, unable to parse string as an integer"
  | notBoolean => "Input should be a valid boolean"
  | unknownBoolean => "Input should be a valid boolean, unable to interpret input"
  | unknownField => "Extra inputs are not permitted"
  | keyNotText => "Keys should be strings"
  | notOptions => "Input should be a valid dictionary or instance of OptionSet"
  | booleanBound => "Value error, must be an integer or SQL text, not a boolean"
  | negativeBound => "Value error, must not be negative"
  | unusableName written => "Value error, " ++ written ++ " is not a usable finder name"
  | unknownArity written =>
    "Value error, unsupported arity " ++ written ++ " (use 'first' or 'all')"
  | notArity => "Input should be 'first' or 'all'"

end Complaint

structure Issue where
  location : List String
  complaint : Complaint
deriving DecidableEq, Repr

namespace Issue

def text (i : Issue) : String :=
  String.intercalate "." i.location ++ ": " ++ i.complaint.message

def summary (issues : List Issue) : String := String.intercalate "; " (issues.map text)

end Issue

/-- How arguments fail to fit the parameters of a finder. -/
inductive Misfit where
  | missing (name : String)
  | tooMany
  | repeated (name : String)
  | unexpected (name : String)
deriving DecidableEq, Repr

def Misfit.message : Misfit → String
  | missing name => "missing a required argument: " ++ Text.quoted name
  | tooMany => "too many positional arguments"
  | repeated name => "multiple values for argument " ++ Text.quoted name
  | unexpected name => "got an unexpected keyword argument " ++ Text.quoted name

/-- Why parameters cannot be those of a call. -/
inductive ParameterFault where
  | unusableName (name : String)
  | repeatedName (name : String)
deriving DecidableEq, Repr

def ParameterFault.message : ParameterFault → String
  | unusableName name => Text.quoted name ++ " is not a valid parameter name"
  | repeatedName name => "duplicate parameter name: " ++ Text.quoted name

/-- The operations that a class offers beside its finders. -/
inductive Operation where
  | define
  | finders
  | backend
  | prefetch
deriving DecidableEq, Repr

def Operation.label : Operation → String
  | define => "FinderMixin.define_finder"
  | finders => "FinderMixin.finders"
  | backend => "FinderMixin.finder_backend"
  | prefetch => "PrefetchCapable.apply_prefetch"

/-- What is called with arguments that may be those of a finder. -/
inductive Entrance where
  | operation (o : Operation)
  | call
  | preview
  | render
deriving DecidableEq, Repr

def Entrance.label : Entrance → String
  | operation o => o.label
  | call => "BoundFinder.__call__"
  | preview => "BoundFinder.to_sql"
  | render => "CompiledFinder.render"

/-- What the value of a parameter of a URL writes. -/
inductive ParameterForm where
  | truth
  | whole
  | decimal
  | text
deriving DecidableEq, Repr

/-- What a reader of the form takes. -/
def ParameterForm.demand : ParameterForm → String
  | truth => "bool() argument must be a string"
  | whole => "int() argument must be a string, a bytes-like object or a real number"
  | decimal => "float() argument must be a string or a real number"
  | text => "str() argument must be a string"

/-- What was asked for an attribute that it has not. -/
inductive Owner where
  | ofClass (name : String)
  | ofObject (typeName : String)
  /-- The home of a dialect, or a part of it. -/
  | ofPart (path : String)
deriving DecidableEq, Repr

namespace Owner

/-- The number of bytes that messages show of the name of a type. -/
def shownBytes : Nat := 50

def shown (name : String) : String := String.ofList (Text.cut shownBytes name.toList)

def label : Owner → String
  | ofClass name => "type object '" ++ shown name ++ "'"
  | ofObject typeName => "'" ++ shown typeName ++ "' object"
  | ofPart path => "module '" ++ path ++ "'"

end Owner

structure MisplacedRow where
  /-- The class that gives the instances their keys. -/
  keyClass : String
  id : Value
  /-- The column that tells the types of rows apart, behind its table. -/
  column : String
deriving Repr

def MisplacedRow.message (r : MisplacedRow) : String :=
  "Row with identity key (<class '__main__." ++ r.keyClass ++ "'>, (" ++ r.id.display ++
    ",), None) can't be loaded into an object; the polymorphic discriminator column '" ++
    r.column ++ "' "

/-- Why what classes and instances have by their nature cannot be called. -/
inductive NatureFault where
  | operationAlone (name : String)
  | methodAlone (name : String)
  | operationCount (expected given : Nat)
  /-- Another number of arguments than a method takes: one or none. -/
  | methodCount (label : String) (expected given : Nat)
  | noClassToMake
  /-- An instance of `model` takes no arguments when it is prepared. -/
  | instanceOnly (model : String)
  | noArguments (cls : String)
  /-- Arguments by position for an instance that takes values by name. -/
  | byNameOnly (given : Nat)
  | selfMissing
  | kindOfSeveral
  | kindFromParts (given : Nat)
deriving Repr

def NatureFault.message : NatureFault → String
  | operationAlone name => "descriptor '" ++ name ++ "' of 'object' object needs an argument"
  | methodAlone name => "unbound method object." ++ name ++ "() needs an argument"
  | operationCount expected given =>
    (if expected = 2 then " " else "") ++ "expected " ++ toString expected ++ " argument" ++
      (if expected = 1 then "" else "s") ++ ", got " ++ toString given
  | methodCount label expected given =>
    label ++ "() takes " ++ (if expected = 0 then "no arguments" else "exactly one argument") ++
      " (" ++ toString given ++ " given)"
  | noClassToMake => "object.__new__(): not enough arguments"
  | instanceOnly model =>
    model ++ ".__init__() takes exactly one argument (the instance to initialize)"
  | noArguments cls => cls ++ "() takes no arguments"
  | byNameOnly given =>
    "__init__() takes 1 positional argument but " ++ toString (given + 1) ++ " were given"
  | selfMissing => "__init__() missing 1 required positional argument: 'self'"
  | kindOfSeveral => "type() takes 1 or 3 arguments"
  | kindFromParts given =>
    "type.__new__() takes exactly 3 arguments (" ++ toString given ++ " given)"

inductive Error where
  /-- Something that is no model class was to receive a finder. -/
  | notModel (given : Value)
  | optionsNotMapping (given : Value)
  | invalidFinder (name : Value) (issues : List Issue)
  | shadows (finder model : String)
  | hookAnswer (model : String) (answer : Value)
  | unusableParameters (finder : String) (names : List String)
  | parameters (fault : ParameterFault)
  | documentNotMapping
  | unsupportedVersion (version : Value)
  | findersNotList
  | entryNotMapping (index : Nat)
  | entryMissing (index : Nat) (keys : List String)
  | unknownModel (model finder : Value) (known : List String)
  | noPath
  | malformed (path : String)
  | severalMappings (finder : String) (count : Nat)
  | notMapping (finder : String) (given : Value)
  | missingValue (finder placeholder : String)
  | misfit (finder : String) (cause : Misfit)
  | unquotable (value : Value) (dialect : String)
  | unmapped (model : String)
  | notPlainTable (model : String)
  | invalid (issues : List Issue)
  | unsupportedPart (part : Value)
  /-- `left` and `right` name the kinds of the two operands of a sum. -/
  | unsupportedSum (left right : String)
  /-- Only another `left` can be appended to a `left`. -/
  | unsupportedAppend (left right : String)
  /-- Only more bytes can be appended to bytes. -/
  | unsupportedBytes (right : String)
  | notJoinable (index : Nat) (typeName : String)
  | notScannable (value : Value)
  | repeatedArgument (entrance : Entrance) (argument : String)
  | notIterable (value : Value)
  | notCallable (typeName : String)
  | missingKey (key : String)
  | noTruthWord (word : Content)
  | missingAttribute (owner : Owner) (member : String)
  | unknownAttribute (member : String)
  | hookUndefined
  | noSuchFile (path : String)
  | isDirectory (path : String)
  | notDirectory (path : String)
  | pathTooLong (path : String)
  | unreadableUrl
  | notFileUrl (shown : String)
  | unknownDialect (name : String)
  | unknownPlugin (name : String)
  | severalDrivers
  | missingLibrary (name : String)
  | notTruth (written : String)
  | severalNumbers (wanted : ParameterForm)
  | namelessFile
  /-- Sizes were given for a pool that is no queue. -/
  | sizesUnused
  | unknownIdentity (identity : Value)
  | rowWithoutType (row : MisplacedRow)
  /-- A row of the type `found` where rows of the type `asked` are wanted. -/
  | rowOfOtherType (row : MisplacedRow) (found asked : String)
  | missingColumn (label : String)
  /-- An attribute of a class that the table of another one, under this label, has no column for. -/
  | notMapped (label member : String)
  /-- An attribute for a column has not what it was asked for. -/
  | missingOnColumn (kind label member : String)
  | beyondDatabase
  | tableTaken (name : String)
  | columnTaken (column model label : String)
  | extraColumn (column : String)
  /-- A column for the class `model`, which shares the compound of tables of `parent`. -/
  | undeclarable (model parent : String)
  | columnRepeated (column table : String)
  | unrelatedTables (parent table : String)
  /-- Two columns that would be held by one attribute without need. -/
  | implicitCombination (old new member : String)
  | noKeyColumn (label table : String)
  /-- An attribute, of this kind, that was asked for without the class it belongs to. -/
  | ownerMissing (kind : String)
  /-- An attribute of classes themselves that an instance of `model` was asked for. -/
  | notForInstances (member model : String)
  | unexpectedArgument (operation : Operation) (argument : String)
  | missingArguments (operation : Operation) (names : List String)
  | excessArguments (operation : Operation) (taken given : Nat)
  /-- An operation of a class `model` that takes no arguments. -/
  | argumentsForLineage (model : String) (byKeyword : Bool) (given : Nat)
  | nature (fault : NatureFault)
  /-- A value that was to give the keywords of a call. -/
  | keywordsNotMapping (operation typeName : String)
  | keywordNotText
  | unknownLevel (name : String)
  | levelNotNumber (shown : String)
  | numeral (fault : NumeralFault)
  | unwritable
  | emptyNumber
  | decimal (fault : Decimal.Fault)
  | calendar (fault : CalendarFault)
  | unhashable (value : Value)
  | noCharacter (code : Nat)
  | beyondDoubles
  /-- A way that leads back to where it began, or deeper than it can be followed. -/
  | endless
  | nullCharacter
  | nullInClassName
  | illegalVariable
  | emptyVariable
  | badUuid
  /-- Bytes whose text has no hexadecimal digit at this place. -/
  | badBytes (place : Nat)
deriving Repr

/-- The kinds of failure that a caller can tell apart. -/
inductive ErrorKind where
  | definition
  | argument
  | backend
  | validation
  | type
  | value
  | key
  | member
  | unimplemented
  | fileNotFound
  | directory
  | notDirectory
  | system
  /-- A URL or a mapping of which nothing can be made. -/
  | configuration
  | dialect
  | assertion
  | request
  | index
  | overflow
  | operation
  | decimalOverflow
  | recursion
  | library
  | column
  | repeatedColumn
  | unrelated
deriving DecidableEq, Repr

namespace Error

/-- Codes from here on are not even compared with those of characters. -/
def codeLimit : Nat := 0x80000000

def kind : Error → ErrorKind
  | notModel _ | optionsNotMapping _ | invalidFinder .. | shadows .. | hookAnswer ..
  | unusableParameters .. | documentNotMapping | unsupportedVersion _ | findersNotList
  | entryNotMapping _ | entryMissing .. | unknownModel .. | noPath | malformed _ => .definition
  | severalMappings .. | notMapping .. | missingValue .. | misfit .. => .argument
  | unquotable .. | unmapped _ | notPlainTable _ => .backend
  | invalid _ => .validation
  | unsupportedPart _ | unsupportedSum .. | unsupportedAppend ..
  | unsupportedBytes _ | notJoinable .. | notScannable _
  | repeatedArgument .. | notIterable _ | notCallable _ | levelNotNumber _
  | severalNumbers _ | namelessFile | sizesUnused => .type
  | unknownLevel _ | numeral _ | unwritable | nullCharacter | nullInClassName | illegalVariable
  | badUuid | badBytes _ | severalDrivers | notTruth _ | parameters _ => .value
  | emptyNumber => .index
  | decimal fault => if fault = .tooLarge then .decimalOverflow else .operation
  | calendar fault => if fault.isOverflow then .overflow else .value
  | unhashable _ => .type
  | noCharacter code => if code < codeLimit then .value else .overflow
  | beyondDoubles => .overflow
  | endless => .recursion
  | missingKey _ | noTruthWord _ => .key
  | missingAttribute .. | unknownAttribute _ => .member
  | hookUndefined => .unimplemented
  | noSuchFile _ => .fileNotFound
  | isDirectory _ => .directory
  | notDirectory _ => .notDirectory
  | pathTooLong _ | emptyVariable => .system
  | unreadableUrl | notFileUrl _ => .configuration
  | unknownDialect _ | unknownPlugin _ => .dialect
  | missingLibrary _ => .library
  | unknownIdentity _ => .assertion
  | rowWithoutType _ | rowOfOtherType .. | tableTaken _ => .request
  | columnTaken .. | extraColumn _ | undeclarable .. | noKeyColumn .. => .configuration
  | columnRepeated .. => .repeatedColumn
  | unrelatedTables .. => .unrelated
  | implicitCombination .. => .request
  | ownerMissing _ | notForInstances .. => .type
  | missingColumn _ => .column
  | notMapped .. | missingOnColumn .. => .member
  | beyondDatabase => .overflow
  | unexpectedArgument .. | missingArguments .. | excessArguments .. | argumentsForLineage ..
  | nature _ | keywordsNotMapping .. | keywordNotText => .type

/-- Names behind each other, the last one behind an "and". -/
def enumeration : List String → String
  | [] => ""
  | [a] => a
  | [a, b] => a ++ " and " ++ b
  | names => String.intercalate ", " names.dropLast ++ ", and " ++ (names.getLast?).getD ""

def message : Error → String
  | notModel given => "define_finder needs a model class, got " ++ given.display
  | optionsNotMapping given => "Finder options must be a mapping, got " ++ given.typeName
  | invalidFinder name issues =>
    "Invalid finder " ++ name.display ++ ": " ++ Issue.summary issues
  | shadows finder model =>
    "Finder " ++ Text.quoted finder ++ " would replace existing attribute " ++ model ++ "." ++
      finder
  | hookAnswer model answer =>
    model ++ ".apply_prefetch must return an OptionSet, got " ++ answer.typeName
  | unusableParameters finder names =>
    "Finder " ++ Text.quoted finder ++ ": placeholder(s) " ++
      String.intercalate ", " (names.map (":" ++ ·)) ++ " cannot be positional parameter names"
  | parameters fault => fault.message
  | documentNotMapping => "Finder definitions must be a mapping with a 'finders' list"
  | unsupportedVersion version =>
    "Unsupported finder definitions version " ++ version.display
  | findersNotList => "'finders' must be a list"
  | entryNotMapping index => "finders[" ++ toString index ++ "] must be a mapping"
  | entryMissing index keys =>
    "finders[" ++ toString index ++ "] is missing " ++ String.intercalate ", " keys
  | unknownModel model finder known =>
    "Unknown model " ++ model.display ++ " for finder " ++ finder.display ++ ". Known: " ++
      String.intercalate ", " known
  | noPath => "No finder definitions path given or configured"
  | malformed path => "Malformed finder definitions in " ++ path
  | severalMappings finder count =>
    finder ++ "() takes a single mapping of placeholder values, got " ++ toString count ++
      " positional arguments"
  | notMapping finder given =>
    finder ++ "() expects a mapping of placeholder values, got " ++ given.typeName
  | missingValue finder placeholder =>
    finder ++ "() missing value for placeholder :" ++ placeholder
  | misfit finder cause => finder ++ "(): " ++ cause.message
  | unquotable value dialect =>
    "Cannot quote " ++ value.typeName ++ " value for dialect " ++ dialect
  | unmapped model => model ++ " is not a mapped SQLAlchemy class"
  | notPlainTable model => model ++ " is not mapped to a plain table"
  | invalid issues => Issue.summary issues
  | unsupportedPart part => "Unsupported template part: " ++ part.display
  | unsupportedSum left right =>
    "unsupported operand type(s) for +: '" ++ left ++ "' and '" ++ right ++ "'"
  | unsupportedAppend left right =>
    "can only concatenate " ++ left ++ " (not \"" ++ right ++ "\") to " ++ left
  | unsupportedBytes right => "can't concat " ++ right ++ " to bytes"
  | notJoinable index typeName =>
    "sequence item " ++ toString index ++ ": expected str instance, " ++ typeName ++ " found"
  | notScannable (.bytes _) => "cannot use a string pattern on a bytes-like object"
  | notScannable value =>
    "expected string or bytes-like object, got '" ++ value.longTypeName ++ "'"
  | repeatedArgument entrance argument =>
    entrance.label ++ "() got multiple values for argument " ++ Text.quoted argument
  | notIterable value => "'" ++ value.longTypeName ++ "' object is not iterable"
  | notCallable typeName => "'" ++ typeName ++ "' object is not callable"
  | missingKey key => Text.quoted key
  | noTruthWord word => word.quoted
  | missingAttribute owner member => owner.label ++ " has no attribute '" ++ member ++ "'"
  | unknownAttribute member => member
  | hookUndefined => ""
  | noSuchFile path => "[Errno 2] No such file or directory: " ++ Text.quoted path
  | isDirectory path => "[Errno 21] Is a directory: " ++ Text.quoted path
  | pathTooLong path => "[Errno 36] File name too long: " ++ Text.quoted path
  | notDirectory path => "[Errno 20] Not a directory: " ++ Text.quoted path
  | unreadableUrl => "Could not parse SQLAlchemy URL from given URL string"
  | notFileUrl shown =>
    "Invalid SQLite URL: " ++ shown ++ "\nValid SQLite URL forms are:\n" ++
      " sqlite:///:memory: (or, sqlite://)\n sqlite:///relative/path/to/file.db\n" ++
      " sqlite:////absolute/path/to/file.db"
  | unknownDialect name => "Can't load plugin: sqlalchemy.dialects:" ++ name
  | unknownPlugin name => "Can't load plugin: sqlalchemy.plugins:" ++ name
  | severalDrivers => "too many values to unpack (expected 2)"
  | missingLibrary name => "No module named " ++ Text.quoted name
  | notTruth written => "String is not true/false: " ++ Text.quoted written
  | severalNumbers wanted => wanted.demand ++ ", not 'tuple'"
  | namelessFile => "unsupported operand type(s) for +=: 'NoneType' and 'str'"
  | sizesUnused =>
    "Invalid argument(s) 'max_overflow' sent to create_engine(), using configuration " ++
      "SQLiteDialect_pysqlite/SingletonThreadPool/Engine.  Please check that the keyword " ++
      "arguments are appropriate for this combination of components."
  | unknownIdentity identity =>
    "No such polymorphic_identity " ++ identity.display ++ " is defined"
  | rowWithoutType row => row.message ++ "is NULL"
  | rowOfOtherType row found asked =>
    row.message ++ "refers to " ++ found ++ ", which is not a sub-mapper of the requested " ++ asked
  | missingColumn label => "Could not locate column in row for column '" ++ label ++ "'"
  | notMapped label member =>
    "Concrete " ++ label ++ " does not implement attribute " ++ Text.quoted member ++
      " at the instance level.  Add this property explicitly to " ++ label ++ "."
  | missingOnColumn kind label member =>
    "Neither '" ++ kind ++ "' object nor 'Comparator' object associated with " ++ label ++
      " has an attribute " ++ Text.quoted member
  | beyondDatabase => "Python int too large to convert to SQLite INTEGER"
  | tableTaken name =>
    "Table '" ++ name ++ "' is already defined for this MetaData instance.  Specify " ++
      "'extend_existing=True' to redefine options and columns on an existing Table object."
  | columnTaken column model label =>
    "Column '" ++ column ++ "' on class " ++ model ++ " conflicts with existing column '" ++
      label ++ "'.  If using Declarative, consider using the use_existing_column parameter of " ++
      "mapped_column() to resolve conflicts."
  | extraColumn column =>
    "Can't add additional column " ++ Text.quoted column ++ " when specifying __table__"
  | undeclarable model parent =>
    "Can't declare columns on single-table-inherited subclass <class '__main__." ++ model ++
      "'>; superclass <class '__main__." ++ parent ++ "'> is not mapped to a Table"
  | columnRepeated column table =>
    "A column with name '" ++ column ++ "' is already present in table '" ++ table ++ "'."
  | unrelatedTables parent table =>
    "Can't determine the inherit condition between inherited table '" ++ parent ++
      "' and inheriting table '" ++ table ++ "'; tables have no foreign key relationships " ++
      "established.  Please ensure the inheriting table has a foreign key relationship to the " ++
      "inherited table, or provide an 'on clause' using the 'inherit_condition' mapper argument."
  | implicitCombination old new member =>
    "Implicitly combining column " ++ old ++ " with column " ++ new ++ " under attribute '" ++
      member ++ "'.  Please configure one or more attributes for these same-named columns " ++
      "explicitly."
  | noKeyColumn label table =>
    "Mapper " ++ label ++ " could not assemble any primary key columns for mapped table '" ++
      table ++ "'"
  | ownerMissing kind => kind ++ ".__get__() missing 1 required positional argument: 'owner'"
  | notForInstances member model =>
    "descriptor '" ++ member ++ "' for 'type' objects doesn't apply to a '" ++ model ++ "' object"
  | unexpectedArgument operation argument =>
    operation.label ++ "() got an unexpected keyword argument '" ++ argument ++ "'"
  | missingArguments operation names =>
    operation.label ++ "() missing " ++ toString names.length ++ " required positional argument" ++
      (if names.length = 1 then "" else "s") ++ ": " ++ enumeration (names.map Text.quoted)
  | excessArguments operation taken given =>
    operation.label ++ "() takes " ++ toString taken ++ " positional argument" ++
      (if taken = 1 then "" else "s") ++ " but " ++ toString given ++ " were given"
  | argumentsForLineage model byKeyword given =>
    model ++ ".mro() takes no " ++
      (if byKeyword then "keyword arguments" else "arguments (" ++ toString given ++ " given)")
  | nature fault => fault.message
  | keywordsNotMapping operation typeName =>
    operation ++ " argument after ** must be a mapping, not " ++ typeName
  | keywordNotText => "keywords must be strings"
  | unknownLevel name => "Unknown level: " ++ Text.quoted name
  | levelNotNumber shown => "Level not an integer or a valid string: " ++ shown
  | numeral fault => fault.message
  | unwritable => Numeral.limitText ++ Numeral.adviceText
  | emptyNumber => "string index out of range"
  | decimal .malformed => "[<class 'decimal.ConversionSyntax'>]"
  | decimal .undefined => "[<class 'decimal.InvalidOperation'>]"
  | decimal .tooLarge => "[<class 'decimal.Overflow'>]"
  | calendar fault => fault.message
  | unhashable value =>
    if value.isSignaling then "Cannot hash a signaling NaN value."
    else "unhashable type: '" ++ value.longTypeName ++ "'"
  | noCharacter code =>
    if code < codeLimit then "chr() arg not in range(0x110000)"
    else "Python int too large to convert to C int"
  | beyondDoubles => "int too large to convert to float"
  | endless => ""
  | nullCharacter => "embedded null byte"
  | nullInClassName => "type name must not contain null characters"
  | illegalVariable => "illegal environment variable name"
  | emptyVariable => "[Errno 22] Invalid argument"
  | badUuid => "badly formed hexadecimal UUID string"
  | badBytes place =>
    "non-hexadecimal number found in fromhex() arg at position " ++ toString place

end Error

namespace Value

/-! ## Values of texts -/

def ofDecimalText (s : String) : Except Error Value :=
  match Decimal.ofText s with
  | .ok d => .ok (.decimal d)
  | .error fault => .error (.decimal fault)

def ofDoubleText (s : String) : Except Error Value :=
  match Numeral.double s with
  | .ok x => .ok (.float x)
  | .error fault => .error (.numeral fault)

def ofUuidText (s : String) : Except Error Value :=
  match Uuid.ofText s with
  | .ok u => .ok (.uuid u)
  | .error .malformed => .error .badUuid
  | .error (.numeral fault) => .error (.numeral fault)

def ofHexText (s : String) : Except Error Value :=
  match Text.bytesOfHex s with
  | .ok content => .ok (.bytes content)
  | .error place => .error (.badBytes place)

def ofCalendar {α : Type} (make : α → Value) : Except CalendarFault α → Except Error Value
  | .ok a => .ok (make a)
  | .error fault => .error (.calendar fault)

def distinct (items : List Value) : List Value :=
  items.foldl (fun out v => if out.any (same v) then out else out ++ [v]) []

/-- The set of items, which must all be possible keys. -/
def ofItems (items : List Value) : Except Error Value :=
  match items.findSome? unhashable? with
  | some v => .error (.unhashable v)
  | none => .ok (.set (arranged (distinct items)))

end Value

/-- What is made of a value that can be written. -/
def Value.written {α : Type} (v : Value) (write : Value → α) : Except Error α :=
  if v.isUnwritable then .error .unwritable else .ok (write v)

/-- Two steps behind each other give a result exactly if both do. -/
theorem bind_eq_ok {α β : Type} {first : Except Error α} {next : α → Except Error β} {b : β} :
    (first >>= next) = .ok b ↔ ∃ a, first = .ok a ∧ next a = .ok b := by
  cases first with
  | error e => simp [bind, Except.bind]
  | ok a => simp [bind, Except.bind]

/-- Two steps behind each other fail if the first one does, or the second one behind it. -/
theorem bind_eq_error {α β : Type} {first : Except Error α} {next : α → Except Error β}
    {e : Error} :
    (first >>= next) = .error e ↔ first = .error e ∨ ∃ a, first = .ok a ∧ next a = .error e := by
  cases first with
  | error other => simp [bind, Except.bind]
  | ok a => simp [bind, Except.bind]

theorem map_eq_ok {α β : Type} {first : Except Error α} {f : α → β} {b : β} :
    first.map f = .ok b ↔ ∃ a, first = .ok a ∧ f a = b := by
  cases first with
  | error e => simp [Except.map]
  | ok a => simp [Except.map]

theorem map_eq_error {α β : Type} {first : Except Error α} {f : α → β} {e : Error} :
    first.map f = .error e ↔ first = .error e := by
  cases first with
  | error other => simp [Except.map]
  | ok a => simp [Except.map]

theorem toOption_eq_some {α : Type} {first : Except Error α} {a : α} :
    first.toOption = some a ↔ first = .ok a := by
  cases first with
  | error e => simp [Except.toOption]
  | ok b => simp [Except.toOption]

theorem toBool_eq_true {α : Type} {first : Except Error α} :
    first.toBool = true ↔ ∃ a, first = .ok a := by
  cases first with
  | error e => simp [Except.toBool]
  | ok a => simp [Except.toBool]

theorem toBool_eq_false {α : Type} {first : Except Error α} :
    first.toBool = false ↔ ∃ e, first = .error e := by
  cases first with
  | error e => simp [Except.toBool]
  | ok a => simp [Except.toBool]

end NamedQuery
