import NamedQuery.Definition.Files
import NamedQuery.Engine
import NamedQuery.Model.Call
import NamedQuery.Model.Definition
import NamedQuery.Model.Nature.Calling
import NamedQuery.Session.Step

/-!
# Sessions

A session is a sequence of steps on models: classes are created, finders are defined on them and
called, and definitions are read from files.  A step that fails leaves the models as they were,
except that a document whose definition fails keeps the finders defined before.
-/

namespace NamedQuery

structure Session where
  models : Models
  files : Files
  dialect : Dialect
  environment : List (String × String)
  /-- The settings that are kept since they were read. -/
  settings : Option Settings
  /-- The definitions that were read last. -/
  definitions : List Definition
deriving Repr

namespace Session

def start (dialect : Dialect) (environment : List (String × String)) (settings : Option Settings) :
    Session :=
  { models := Models.empty, files := Files.empty, dialect, environment, settings,
    definitions := [] }

/-- The settings as whoever asks for them gets them: those that are kept, or else what the
environment and the settings file say now. -/
def reading (s : Session) : Except Error Settings :=
  match s.settings with
  | some settings => .ok settings
  | none => Settings.read s.environment (s.files.texts.lookup Settings.fileName)

/-- What finders meet when they are used now. -/
def here (s : Session) : Surroundings := ⟨s.dialect, s.reading⟩

def model (s : Session) (name : String) : Except Error Model :=
  match s.models.find? name with
  | some m => .ok m
  | none => .error (.missingKey name)

/-- What was asked for an attribute. -/
def owner (t : Target) : Owner := if t.ofInstance then .ofObject t.model else .ofClass t.model

/-- The class of a target and its attribute. -/
def reach (s : Session) (t : Target) : Except Error (Model × Member) := do
  let m ← s.model t.model
  let found ←
    if t.ofInstance then s.models.instanceAttribute? m t.name
    else .ok (s.models.attribute? m t.name)
  match found with
  | some member => .ok (m, member)
  | none => .error (.missingAttribute (owner t) t.name)

/-- The finder of a target, when only a finder has what is asked for next. -/
def reachFinder (s : Session) (t : Target) (next : String) : Except Error (Model × Finder) := do
  let (m, member) ← s.reach t
  match member with
  | .finder f => .ok (m, f)
  | other => .error (other.lacks t.name next)

/-- A class whose own finders are asked for.  It must offer the operation that lists them. -/
def listing (s : Session) (name : String) : Except Error Model := do
  let (m, member) ← s.reach ⟨name, "finders", false⟩
  match member with
  | .operation _ => .ok m
  | other => .error (.notCallable other.typeName)

/-- A finder that was defined on a model itself. -/
def own (s : Session) (f : OwnFinder) : Except Error Finder := do
  let m ← s.listing f.model
  match m.finders.lookup f.finder with
  | some found => .ok found
  | none => .error (.missingKey f.finder)

/-- Calls a finder; an answer that cannot be shown is a failure. -/
def callFinder (s : Session) (m : Model) (f : Finder) (args : Arguments)
    (stored : List StoredRow) : Traced Outcome := do
  let answer ← s.models.reported m (s.models.call s.here stored m f args)
  match answer.fault? with
  | some e => Traced.fail e
  | none => pure (.answer answer)

/-- A step that looks things up and changes nothing. -/
def answer (s : Session) (outcome : Except Error Outcome) : Traced Outcome × Session :=
  (Traced.ofExcept outcome, s)

def define (s : Session) (m : Model) (name arity : Value) (options : GivenOptions) :
    Traced Finder × Session :=
  let (finder, models) := s.models.define s.here m name arity options
  (finder, { s with models })

def defineThrough (s : Session) (m : Model) (args : Arguments) : Traced Finder × Session :=
  match Operation.define.bind args with
  | .ok (name :: arity :: _, options) =>
    s.define m name arity (.value (.dict (options.map fun e => (.str e.1, e.2))))
  | .ok _ => (Traced.fail (.missingArguments .define []), s)
  | .error e => (Traced.fail e, s)

/-- The finders of a model, as a value. -/
def findersValue (m : Model) : Value :=
  .dict (m.finders.map fun e => (.str e.1, .object "CompiledFinder"))

def backendKind (s : Session) (m : Model) : String :=
  if (s.models.fixedBackend? m).isSome then "FakeBackend" else "SQLAlchemyBackend"

/-- What the hook of a model answers if it is called with a value that is no option set. -/
def hookAnswer (rule : PrefetchRule) (given : Value) : Except Error Value :=
  let lacking (member : String) : Except Error Value :=
    .error (.missingAttribute (.ofObject given.longTypeName) member)
  match rule with
  | .update _ => lacking "model_copy"
  | .columns => lacking "prefetch"
  | .answer v => .ok v

def operate (s : Session) (m : Model) (args : Arguments) : Operation → Traced Outcome × Session
  | .define =>
    let (finder, s) := s.defineThrough m args
    ((fun _ => Outcome.value (.object "CompiledFinder")) <$> finder, s)
  | .finders => s.answer ((Operation.finders.bind args).map fun _ => .value (findersValue m))
  | .backend =>
    s.answer do
      let _ ← Operation.backend.bind args
      let _ ← s.models.backendOf s.dialect [] m
      .ok (.value (.object (s.backendKind m)))
  | .prefetch => s.answer ((Operation.prefetch.bind args).bind fun _ => .error .hookUndefined)

/-- Calls the operation that lists the classes a class goes through for its attributes. -/
def lineage (s : Session) (m : Model) (args : Arguments) : Except Error Outcome :=
  if !args.keywords.isEmpty then .error (.argumentsForLineage m.name true 0)
  else if !args.positional.isEmpty then
    .error (.argumentsForLineage m.name false args.positional.length)
  else .ok (.value (.list ((s.models.lineage m).map .object)))

/-- Makes a new instance of a class, which takes no arguments by position. -/
def construct (s : Session) (m : Model) (given : Nat) : Except Error Outcome :=
  if given = 0 then (s.models.newInstance m).map fun row => .answer (.first (some row))
  else .error (.nature (if m.mapping.isSome then .byNameOnly given else .noArguments m.name))

/-- Calls the kind of a class: it tells the kind of a value, or makes a class of several parts. -/
def callKind (m : Model) (given : Nat) : Except Error Outcome :=
  if m.mapping.isSome then .error (.nature (.kindFromParts given))
  else if given = 1 then .ok (.value (.object "type"))
  else .error (.nature .kindOfSeveral)

def callBase (s : Session) (m : Model) (given : Nat) : Except Error Outcome :=
  match m.ancestors.head?.bind s.models.get? with
  | some parent => s.construct parent given
  | none =>
    if given = 0 then .ok (.value (.object m.baseName))
    else .error (.nature (.noArguments m.baseName))

/-- Calls an attribute that is a class. -/
def callClass (s : Session) (m : Model) (t : Target) (given : Nat) : Except Error Outcome :=
  if t.name = "__base__" then s.callBase m given
  else if t.ofInstance then s.construct m given
  else callKind m given

def callNatural (s : Session) (m : Model) (t : Target) (kind : String) (given : Nat) :
    Except Error Outcome :=
  if t.name = "__call__" then s.construct m given
  else if t.name = "__subclasses__" && given = 0 then
    .ok (.value (.list ((s.models.heirs m).map fun c => .object c.kind)))
  else
    let called :=
      if t.ofInstance then Nature.callOnInstance m.name t.name kind given
      else Nature.callOnClass m.name t.name kind given
    match called with
    | some result => result.map .value
    | none => .error (.notCallable kind)

def call (s : Session) (t : Target) (args : Arguments) (stored : List StoredRow) :
    Traced Outcome × Session :=
  match s.reach t with
  | .error e => (Traced.fail e, s)
  | .ok (m, member) =>
    match member with
    | .finder f => (s.callFinder m f args stored, s)
    | .operation o => s.operate m args o
    | .lineage => s.answer (s.lineage m args)
    | .hook rule =>
      s.answer do
        let (values, _) ← Operation.prefetch.bind args
        let v ← hookAnswer rule (values.head?.getD .null)
        .ok (.value v)
    | .cls _ => s.answer (s.callClass m t args.positional.length)
    | .inherent kind => s.answer (s.callNatural m t kind args.positional.length)
    | other => (Traced.fail (.notCallable other.typeName), s)

def preview (s : Session) (t : Target) (args : Arguments) : Traced Outcome := do
  let (m, f) ← Traced.ofExcept (s.reachFinder t "to_sql")
  return .text (← s.models.reported m (s.models.preview s.dialect m f args))

def render (s : Session) (f : OwnFinder) (args : Arguments) : Traced Outcome := do
  let f ← Traced.ofExcept (s.own f)
  return .text (← (f.render FixedBackend.standard.toBackend args).withoutQuoted)

def statements (s : Session) (name : String) : Except Error Outcome := do
  let m ← s.listing name
  .ok (.statements (m.finders.map fun e => (e.1, e.2.sql)))

def describe (s : Session) (t : Target) : Except Error Outcome := do
  let (m, f) ← s.reachFinder t "model"
  .ok (.description ⟨m.name, f⟩)

def describeBound (s : Session) (model name : String) : Except Error Outcome := do
  let m ← s.model model
  let f ← s.models.bound m name
  .ok (.description ⟨m.name, f⟩)

def compare (s : Session) (a b : OwnFinder) : Except Error Outcome := do
  let f ← s.own a
  let g ← s.own b
  .ok (.comparison ⟨f = g, hash f = hash g, a.model = b.model && a.finder = b.finder⟩)

def contract (s : Session) (name : String) : Except Error Outcome := do
  let m ← s.model name
  let backend ← s.models.backendOf s.dialect [] m
  .ok (.contract ⟨backend.tableName, backend.isHierarchyRoot, backend.typeRestriction⟩)

/-- The models that definitions may name. -/
def known (s : Session) : KnownModels → Except Error Models.Known
  | .classes names => gather (names.map fun name => (name, name))
  | .named entries => gather entries
where
  gather (entries : List (String × String)) : Except Error Models.Known :=
    entries.foldlM (fun known e => (s.model e.2).map fun m => Entries.assign known e.1 m.id) []

/-- The finder that a definition makes, as an outcome. -/
def defined (finder : Traced Finder × Session) : Traced Outcome × Session :=
  (Outcome.finder <$> finder.1, finder.2)

/-- The keywords of a mapping; `operation` is what they are for. -/
def keywordsOf (operation : String) : Value → Except Error (List (String × Value))
  | .dict entries => entries.mapM fun e =>
    match e.1.text? with
    | some key => .ok (key, e.2)
    | none => .error .keywordNotText
  | v => .error (.keywordsNotMapping operation v.typeName)

/-- What stands for the operation that defines finders, in messages. -/
def defineLabel : Member → String
  | .value v => v.text
  | _ => "sqlfinder.finders.synthesizer.FinderMixin.define_finder()"

/-- Defines a finder through what a class has in the place of the operation for it. -/
def requestThrough (s : Session) (r : Request) (name : String) : Traced Outcome × Session :=
  let prepared : Except Error (Model × Member × List (String × Value)) := do
    let (m, member) ← s.reach ⟨name, "define_finder", false⟩
    let keywords ← keywordsOf (defineLabel member)
      (if r.checked then .object "OptionSet" else r.options)
    .ok (m, member, keywords)
  match prepared with
  | .error e => (Traced.fail e, s)
  | .ok (m, member, keywords) =>
    let args : Arguments := ⟨[r.name, r.arity], keywords⟩
    match member with
    | .operation .define => defined (s.defineThrough m args)
    | .finder f => (s.callFinder m f args [], s)
    | other => (Traced.fail (.notCallable other.typeName), s)

def requestOptions (r : Request) : Except Error GivenOptions :=
  if r.checked then (Options.ofValue r.options).map .checked else .ok (.value r.options)

/-- The definition of a finder.  The model is looked up first, then options are checked. -/
def request (s : Session) (r : Request) : Traced Outcome × Session :=
  let prepared : Except Error (Option Model × GivenOptions) := do
    let m ← r.model.mapM s.model
    let options ← requestOptions r
    .ok (m, options)
  match prepared, r.given with
  | .error e, _ => (Traced.fail e, s)
  | .ok _, some v =>
    (Traced.fail (if r.through then
      .missingAttribute (.ofObject v.longTypeName) "define_finder"
    else .notModel v), s)
  | .ok (some m, options), none =>
    if r.through then s.requestThrough r m.name
    else defined (s.define m r.name r.arity options)
  | .ok (none, _), none => (Traced.fail (.missingKey "model"), s)

/-- The session with another file, if there is a text for it. -/
def save (s : Session) (file : String) : Option String → Except Error Session
  | some text => (s.files.write file text).map fun files => { s with files }
  | none => .ok s

/-- The session with another path of definitions in its environment, if there is one.  The settings
are to be read again then. -/
def configure (s : Session) : Option String → Except Error Session
  | some path =>
    if path.toList.contains '\x00' then .error .nullCharacter
    else
      .ok { s with
        environment := Entries.assign s.environment Settings.pathVariable path
        settings := none }
  | none => .ok s

/-- The settings, which are kept once they are read. -/
def readSettings (s : Session) : Except Error (Settings × Session) :=
  s.reading.map fun settings => (settings, { s with settings := some settings })

/-- The path of definitions: the one that is given, or else that of the settings. -/
def definitionsPath (s : Session) : Option String → Except Error (Option String × Session)
  | some path => .ok (some path, s)
  | none => do
    let (settings, s) ← s.readSettings
    .ok (settings.definitionsPath, s)

/-- Reads the definitions at a path.  Those that have no end are kept and cannot be told. -/
def readFrom (s : Session) (path : Option String) : Traced Outcome × Session :=
  let loaded := Definition.load s.files path
  match loaded.result with
  | .ok definitions =>
    let told : Except Error Outcome :=
      if definitions.any Definition.isEndless then .error .endless
      else .ok (.definitions definitions)
    (⟨loaded.events, told⟩, { s with definitions })
  | .error _ => (Outcome.definitions <$> loaded, s)

/-- Reads definitions, where a path need not be given. -/
def readDefinitions (s : Session) (path : Option String) : Traced Outcome × Session :=
  match s.definitionsPath path with
  | .error e => (Traced.fail e, s)
  | .ok (path, s) => s.readFrom path

/-- Writes a file, if there is a text for it, and reads definitions. -/
def load (s : Session) (file : String) (text path configured : Option String) :
    Traced Outcome × Session :=
  match s.save file text with
  | .error e => (Traced.fail e, s)
  | .ok s =>
    match s.configure configured with
    | .error e => (Traced.fail e, s)
    | .ok s => s.readDefinitions path

/-- Defines the finders of a document, or those of the definitions that were read last. -/
def apply (s : Session) (document : Option Value) (known : KnownModels) :
    Traced Outcome × Session :=
  let prepared : Except Error (List Definition × Models.Known) := do
    let definitions ← match document with
      | some v => Definition.ofDocument v
      | none => .ok s.definitions
    let known ← s.known known
    .ok (definitions, known)
  match prepared with
  | .error e => (Traced.fail e, s)
  | .ok (definitions, known) =>
    let (finders, models) := s.models.applyAll s.here known definitions
    (Outcome.finders <$> finders, { s with models })

def changed (s : Session) (result : Except Error Unit × Models) : Traced Outcome × Session :=
  (Traced.ofExcept (result.1.map fun _ => .done), { s with models := result.2 })

def create (s : Session) (plan : ModelPlan) (parent : Option String) : Traced Outcome × Session :=
  match parent.mapM s.model with
  | .error e => (Traced.fail e, s)
  | .ok parent => s.changed (s.models.add { plan with parent := parent.map Model.id })

/-- Changes the backend that came with the last model of a name that brought one along. -/
def change (s : Session) (name : String) (changes : BackendChange) : Traced Outcome × Session :=
  let owner := s.models.list.reverse.findSome? fun m =>
    if m.name = name then m.backend.map (m, ·) else none
  match owner with
  | some (m, f) =>
    let changed := { m with backend := some (changes.applyTo f) }
    s.changed (.ok (), s.models.replace changed)
  | none => (Traced.fail (.missingKey name), s)

/-- One step: what it answers and did on the way, and the session that it leaves.  Settings that
finders asked for on the way are kept by `next`. -/
def step (s : Session) : Step → Traced Outcome × Session
  | .create plan parent => s.create plan parent
  | .define r => s.request r
  | .call target args stored => s.call target args stored
  | .preview target args => (s.preview target args, s)
  | .render finder args => (s.render finder args, s)
  | .bind finder args =>
    s.answer do
      let f ← s.own finder
      let bindings ← f.bindArguments args
      .ok (.bindings bindings)
  | .finders model => s.answer (s.statements model)
  | .has model name =>
    s.answer do
      let m ← s.model model
      .ok (.truth (s.models.attribute? m name).isSome)
  | .describe target => s.answer (s.describe target)
  | .describeBound model name => s.answer (s.describeBound model name)
  | .compare a b => s.answer (s.compare a b)
  | .change model changes => s.change model changes
  | .contract model => s.answer (s.contract model)
  | .load file text path configured => s.load file text path configured
  | .apply document known => s.apply document known

/-- The session with the settings that were asked for on the way, if they could be read. -/
def keeping {α : Type} (s : Session) (t : Traced α) : Session :=
  if t.consults then { s with settings := s.reading.toOption } else s

/-- The session for the steps behind a step. -/
def next (s : Session) (st : Step) : Session := (s.step st).2.keeping (s.step st).1

def run (s : Session) : List Step → List (Traced Outcome)
  | [] => []
  | st :: rest => (s.step st).1 :: run (s.next st) rest

def after (s : Session) : List Step → Session
  | [] => s
  | st :: rest => after (s.next st) rest

end Session

end NamedQuery
