import DriveBridge.Adapter
import DriveBridge.Log.Opening

/-!
A session: the world, the configuration in force, and the loggers and adapters that were made,
known by name. Adapters share loggers, and a logger that loses its name to a newer one lives on
for them.
-/

namespace DriveBridge

abbrev LoggerId := Nat

structure Session where
  world : World
  configuration : Configuration
  settings : Settings
  loggers : List Logger
  loggerNames : List (Text × LoggerId)
  adapters : List (Text × Adapter × LoggerId)

inductive Answer
  | nothing
  | value (v : Value)
  | configuration (c : Configuration) (s : Settings)
  | logger (l : Logger)
  | adapter (a : Adapter)
  | several (answers : List Answer)

namespace Session

def start (now : Int) (freshId : Text) (env : Environment) : Session :=
  let configuration := Configuration.read env
  ⟨⟨now, freshId, [], [], .empty⟩, configuration, configuration.settings, [], [], []⟩

def addLogger (s : Session) (name : Text) (l : Logger) : Session :=
  { s with
    loggers := s.loggers ++ [l]
    loggerNames := (name, s.loggers.length) :: s.loggerNames }

def logger? (s : Session) (name : Text) : Option (LoggerId × Logger) := do
  let id ← s.loggerNames.lookup name
  let l ← s.loggers[id]?
  return (id, l)

def adapter? (s : Session) (name : Text) : Option (Adapter × LoggerId × Logger) := do
  let (a, id) ← s.adapters.lookup name
  let l ← s.loggers[id]?
  return (a, id, l)

def setLogger (s : Session) (id : LoggerId) (l : Logger) : Session :=
  { s with loggers := s.loggers.set id l }

def after (s : Session) (id : LoggerId) (w : World) (l : Logger) : Session :=
  { s.setLogger id l with world := w }

def closeLogger (s : Session) (id : LoggerId) : Session :=
  match s.loggers[id]? with
  | some l => s.setLogger id l.close
  | none => s

def setDisk (s : Session) (d : Disk) : Session :=
  { s with world := { s.world with disk := d } }

end Session

inductive Step
  | setClock (quarters : Int)
  | setEnvironment (env : Environment)
  | setSettings (lengthUnit warnUnrestricted : Option Value)
  | makeDirectory (path : Text)
  | putFile (path content : Text)
  | removeFile (path : Text)
  | openLogger (name : Text) (options : LoggerOptions)
  | createLogger (name : Text) (request : LoggerRequest)
  | setLimit (name : Text) (limit : Value)
  | log (name : Text) (level : Level) (message : Value) (context : List (Value × Value))
  | closeLogger (name : Text)
  | showLogger (name : Text)
  | showConfiguration
  | measure (path lengthUnit : Value)
  | openAdapter (name : Text) (logger : Option Text) (lengthUnit warnUnrestricted : Value)
  | toHost (name : Text) (path : Value)
  | toClient (name : Text) (path : Value)
  | nullTerminated (name : Text) (path : Value)
  | adapterLength (name : Text) (path : Value)
  | closeAdapter (name : Text)
  | within (name : Text) (steps : List Step)

end DriveBridge
