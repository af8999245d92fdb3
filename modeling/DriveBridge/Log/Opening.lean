import DriveBridge.Config.Basic
import DriveBridge.Log.Logger

namespace DriveBridge

inductive Output
  | none
  | stream (name : Text)
  | file (p : Location)

structure LoggerOptions where
  component : Text
  session : Option Text
  output : Output
  redactor : Redactor
  maxMegabytes : Value
  maxFiles : Value
  console : Value

namespace LoggerOptions

def namedSession (o : LoggerOptions) : Option Text := o.session.filter (· ≠ [])

def limit? (o : LoggerOptions) : Option Value :=
  if o.maxMegabytes.isTrue then o.maxMegabytes.scale? 20 else some .null

def loggerAt (o : LoggerOptions) (limit : Value) (w : World) (path : Option Location)
    (sink : Option Sink) : Logger where
  component := o.component
  session := o.namedSession.getD w.freshId
  started := w.now
  redactor := o.redactor
  limit := limit
  keep := o.maxFiles
  console := o.console
  path := path
  sink := sink

def make (o : LoggerOptions) (w : World) : World × Except LogError Logger :=
  match o.limit?, o.output with
  | none, _ => (w, .error .notNumber)
  | some limit, .none => (w, .ok (o.loggerAt limit w none none))
  | some limit, .stream name =>
    (w.feed name [], .ok (o.loggerAt limit w none (some (.stream name))))
  | some limit, .file p => match w.disk.openBelow p with
    | (d, .ok id) =>
      ({ w with disk := d }, .ok (o.loggerAt limit w (some p) (some (.file id))))
    | (d, .error cause) => ({ w with disk := d }, .error (.disk cause))

end LoggerOptions

/-- What a caller says of a logger that the configuration completes. Each choice may be left open,
and one that is declined by the null value is not open. -/
structure LoggerRequest where
  component : Text
  session : Option Text
  directory : Option Text
  redactor : Option Redactor
  maxMegabytes : Option Value
  maxFiles : Option Value
  console : Option Value

namespace LoggerRequest

def plain (component : Text) : LoggerRequest := ⟨component, none, none, none, none, none, none⟩

def fileIn (directory component : Text) (session : Option Text) : Location :=
  let session := (session.filter (· ≠ [])).getD (Text.ofString "default")
  let name := component ++ Text.ofString "_" ++ session ++ Text.ofString ".jsonl"
  (Location.ofText directory).append (Location.ofText name)

def output (r : LoggerRequest) (c : Configuration) : Output :=
  match r.directory <|> c.logDirectory with
  | some directory =>
    if directory = [] then .none else .file (fileIn directory r.component r.session)
  | none => .none

def complete (r : LoggerRequest) (c : Configuration) : LoggerOptions where
  component := r.component
  session := r.session
  output := r.output c
  redactor := r.redactor.getD (.make (.bool !c.fullPaths) [])
  maxMegabytes := r.maxMegabytes.getD (c.maxMegabytes.elim .null .int)
  maxFiles := r.maxFiles.getD c.maxFiles
  console := r.console.getD (.bool c.console)

end LoggerRequest

end DriveBridge
