import DriveBridge.Session.Basic

namespace DriveBridge.Session

abbrev Result := Session × Except Failure Answer

def loggerNameOf (adapter : Text) : Text := adapter ++ Text.ofString ".logger"

def settle (s : Session) : Except Refusal Disk → Result
  | .ok d => (s.setDisk d, .ok .nothing)
  | .error cause => (s, .error (.disk cause))

/-- A file whose new content cannot be written is left empty. -/
def putFile (s : Session) (path content : Text) : Result :=
  match s.world.disk.openWritten path with
  | (d, .error cause) => (s.setDisk d, .error (.disk cause))
  | (d, .ok id) => match Utf8.encodeStrict content with
    | .ok octets => (s.setDisk (d.overwrite id octets), .ok .nothing)
    | .error cause => (s.setDisk (d.overwrite id []), .error (.unencodable cause))

def makeDirectory (s : Session) (path : Text) : Result :=
  match s.world.disk.makeWritten path with
  | (d, none) => (s.setDisk d, .ok .nothing)
  | (d, some cause) => (s.setDisk d, .error (.disk cause))

def openLogger (s : Session) (name : Text) (options : LoggerOptions) :
    Session × Except Failure LoggerId :=
  match options.make s.world with
  | (w, .ok l) => ({ s with world := w }.addLogger name l, .ok s.loggers.length)
  | (w, .error cause) => ({ s with world := w }, .error (.log cause))

def log (s : Session) (name : Text) (level : Level) (message : Value)
    (context : List (Value × Value)) : Result :=
  match s.logger? name with
  | none => (s, .error .unknownName)
  | some (id, l) =>
    if !(message.isSound && (Value.table context).isSound) then (s, .error .unsound)
    else
      match l.log level message context s.world with
      | (w, l, none) => (s.after id w l, .ok .nothing)
      | (w, l, some cause) => (s.after id w l, .error (.log cause))

def lengthOf (s : Session) (lengthUnit : Value) (t : Text) : Except Failure Answer :=
  if !lengthUnit.isSound then .error .unsound
  else
    match (s.settings.unitOr lengthUnit).countIn t with
    | .ok n => .ok (.value (.int n))
    | .error cause => .error (.unit cause)

def measure (s : Session) (path lengthUnit : Value) : Except Failure Answer :=
  match path with
  | .client p => s.lengthOf lengthUnit p.text
  | .host p => s.lengthOf lengthUnit p.text
  | path => .error (if path.isSound then .notPath else .unsound)

def adapterLogger (s : Session) (name : Text) :
    (logger : Option Text) → Session × Except Failure LoggerId
  | some other => match s.loggerNames.lookup other with
    | some id => ({ s with loggerNames := (loggerNameOf name, id) :: s.loggerNames }, .ok id)
    | none => (s, .error .unknownName)
  | none => s.openLogger (loggerNameOf name)
      ((LoggerRequest.plain "path_adapter").complete s.configuration)

def openAdapter (s : Session) (name : Text) (logger : Option Text)
    (lengthUnit warnUnrestricted : Value) : Result :=
  if logger.any fun other => (s.loggerNames.lookup other).isNone then (s, .error .unknownName)
  else if !(lengthUnit.isSound && warnUnrestricted.isSound) then (s, .error .unsound)
  else
    match (s.settings.unitOr lengthUnit).toUnit with
    | .error cause => (s, .error (.unit cause))
    | .ok u =>
      let a : Adapter := ⟨u, s.settings.warningsOr warnUnrestricted⟩
      match s.adapterLogger name logger with
      | (s, .error cause) => (s, .error cause)
      | (s, .ok id) => ({ s with adapters := (name, a, id) :: s.adapters }, .ok (.adapter a))

def withAdapter (s : Session) (name : Text) (path : Value)
    (work : Adapter → Logger → World → World × Logger × Except Failure Value) : Result :=
  match s.adapter? name with
  | none => (s, .error .unknownName)
  | some (a, id, l) =>
    if !path.isSound then (s, .error .unsound)
    else
      match work a l s.world with
      | (w, l, outcome) => (s.after id w l, outcome.map .value)

mutual

def step (s : Session) : Step → Result
  | .setClock quarters => ({ s with world := { s.world with now := quarters } }, .ok .nothing)
  | .setEnvironment env =>
    let configuration := Configuration.read env
    ({ s with configuration := configuration, settings := configuration.settings }, .ok .nothing)
  | .setSettings lengthUnit warnUnrestricted =>
    let loaded := s.configuration.settings
    let settings : Settings := ⟨lengthUnit.getD loaded.lengthUnit,
      warnUnrestricted.getD loaded.warnUnrestricted⟩
    if settings.lengthUnit.isSound && settings.warnUnrestricted.isSound then
      ({ s with settings := settings }, .ok .nothing)
    else (s, .error .unsound)
  | .makeDirectory path => s.makeDirectory path
  | .putFile path content => s.putFile path content
  | .removeFile path => s.settle (s.world.disk.unlink path)
  | .openLogger name options => match s.openLogger name options with
    | (s, .ok _) => (s, .ok .nothing)
    | (s, .error cause) => (s, .error cause)
  | .createLogger name request => match s.openLogger name (request.complete s.configuration) with
    | (s, .ok _) => (s, .ok .nothing)
    | (s, .error cause) => (s, .error cause)
  | .setLimit name limit => match s.logger? name with
    | some (id, l) =>
      if limit.isSound then (s.setLogger id { l with limit := limit }, .ok .nothing)
      else (s, .error .unsound)
    | none => (s, .error .unknownName)
  | .log name level message context => s.log name level message context
  | .closeLogger name => match s.logger? name with
    | some (id, _) => (s.closeLogger id, .ok .nothing)
    | none => (s, .error .unknownName)
  | .showLogger name => match s.logger? name with
    | some (_, l) => (s, .ok (.logger l))
    | none => (s, .error .unknownName)
  | .showConfiguration => (s, .ok (.configuration s.configuration s.settings))
  | .measure path lengthUnit => (s, s.measure path lengthUnit)
  | .openAdapter name logger lengthUnit warnUnrestricted =>
    s.openAdapter name logger lengthUnit warnUnrestricted
  | .toHost name path => s.withAdapter name path fun a l w =>
    let (w, l, outcome) := a.toHost path l w
    (w, l, outcome.map .host)
  | .toClient name path => s.withAdapter name path fun _ l w =>
    (w, l, (Adapter.toClient path).map .client)
  | .nullTerminated name path => s.withAdapter name path fun _ l w =>
    let (w, l, outcome) := Adapter.nullTerminated path l w
    (w, l, outcome.map .octets)
  | .adapterLength name path => s.withAdapter name path fun a l w =>
    (w, l, (a.length path).map fun n => .int n)
  | .closeAdapter name => match s.adapter? name with
    | some (_, id, _) => (s.closeLogger id, .ok .nothing)
    | none => (s, .error .unknownName)
  | .within name steps => match s.adapter? name with
    | some (_, id, _) =>
      let (s, outcome) := s.run steps
      (s.closeLogger id, outcome.map .several)
    | none => (s, .error .unknownName)

def run (s : Session) : List Step → Session × Except Failure (List Answer)
  | [] => (s, .ok [])
  | st :: rest => match s.step st with
    | (s, .error cause) => (s, .error cause)
    | (s, .ok answer) => match s.run rest with
      | (s, .error cause) => (s, .error cause)
      | (s, .ok answers) => (s, .ok (answer :: answers))

end

structure Row where
  outcome : Except Failure Answer
  console : Text
  streams : List (Text × Text)
  disk : Disk

def addedTo (before after : World) : List (Text × Text) :=
  after.streams.map fun (name, t) => (name, t.drop (before.stream name).length)

def row (s : Session) (st : Step) : Session × Row :=
  let (next, outcome) := s.step st
  (next, ⟨outcome, next.world.console.drop s.world.console.length, addedTo s.world next.world,
    next.world.disk⟩)

def rows (s : Session) : List Step → List Row
  | [] => []
  | st :: rest =>
    let (next, r) := s.row st
    r :: next.rows rest

def advance (s : Session) (steps : List Step) : Session :=
  steps.foldl (fun s st => (s.step st).1) s

end DriveBridge.Session
