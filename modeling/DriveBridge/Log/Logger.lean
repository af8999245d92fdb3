import DriveBridge.Log.Entry
import DriveBridge.Log.Rotation
import DriveBridge.World

namespace DriveBridge

inductive Sink
  | stream (name : Text)
  | file (id : FileId)
  /-- The log file was closed for a rotation and was not opened again. -/
  | lost
  deriving DecidableEq

structure Logger where
  component : Text
  session : Text
  started : Int
  redactor : Redactor
  limit : Value
  keep : Value
  console : Value
  /-- The path of the log file, if the logger opened one itself. It stays after a close. -/
  path : Option Location
  sink : Option Sink

inductive LogError
  | entry (cause : EntryError)
  | disk (cause : Refusal)
  | notNumber
  | closedFile

namespace Logger

def entry (l : Logger) (now : Int) (level : Level) (message : Value)
    (context : List (Value × Value)) : Except EntryError (List (Value × Value)) :=
  if context.all (Entry.isContextKey ·.1) then
    match l.redactor.redactEntries context with
    | some shown =>
      if !Calendar.hasStamp (now / 4) then .error .beyondCalendar
      else .ok (Entry.extend (Entry.base level l.component l.session l.started now message) shown)
    | none => .error .namelessKey
  else .error .badKey

def line (l : Logger) (now : Int) (level : Level) (message : Value)
    (context : List (Value × Value)) : Except EntryError Text :=
  match l.entry now level message context with
  | .ok entry => match JsonText.write? (.table entry) with
    | some line => .ok line
    | none => .error .unwritableKey
  | .error cause => .error cause

/-- Rotates the log file if that is due, and opens one under its name, whether or not the rotation
was refused. -/
def makeRoom (l : Logger) (d : Disk) : Disk × Logger × Option LogError :=
  match l.path with
  | none => (d, l, none)
  | some p =>
    match Rotation.isDue? p l.limit d, l.keep.integer? with
    | none, _ => (d, l, some .notNumber)
    | some false, _ => (d, l, none)
    | some true, none => (d, { l with sink := some .lost }, some .notNumber)
    | some true, some keep =>
      let rotated := (Rotation.rotate p keep d).1
      match rotated.openFile p with
      | .ok (d, id) => (d, { l with sink := some (.file id) }, none)
      | .error cause => (rotated, { l with sink := some .lost }, some (.disk cause))

def put (l : Logger) (t : Text) (w : World) : World × Option LogError :=
  match l.sink with
  | none => (w, none)
  | some (.stream name) => (w.feed name t, none)
  | some (.file id) => ({ w with disk := w.disk.append id (Utf8.encode t) }, none)
  | some .lost => (w, some .closedFile)

def deliver (l : Logger) (line : Text) (w : World) : World × Logger × Option LogError :=
  let t := line ++ [CodePoint.newline]
  let w := if l.console.isTrue then w.print t else w
  if l.sink.isNone then (w, l, none)
  else
    match l.makeRoom w.disk with
    | (d, l, some cause) => ({ w with disk := d }, l, some cause)
    | (d, l, none) =>
      let (w, failure) := l.put t { w with disk := d }
      (w, l, failure)

def log (l : Logger) (level : Level) (message : Value) (context : List (Value × Value))
    (w : World) : World × Logger × Option LogError :=
  match l.line w.now level message context with
  | .ok line => l.deliver line w
  | .error cause => (w, l, some (.entry cause))

def close (l : Logger) : Logger := { l with sink := none }

end Logger

end DriveBridge
