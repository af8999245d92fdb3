import DriveBridge.Log.Logger
import DriveBridge.Path.NullTerminated

namespace DriveBridge

inductive Failure
  | embeddedNul (cause : EmbeddedNul)
  | unit (cause : UnitError)
  | log (cause : LogError)
  | disk (cause : Refusal)
  | unencodable (cause : Unencodable)
  | notText
  | notPath
  | unsound
  | unknownName

structure Adapter where
  unit : LengthUnit
  warnUnrestricted : Value

namespace Adapter

def unrestrictedWarning : Text := "DOS path outside the supported subset; converting literally"

def nulReport : Text := "Path cannot be passed to the filesystem"

/-- A text where a path is wanted. Octets are taken for text until they are mixed with it. -/
def textOf : Value → Except Failure Text
  | .text t => .ok t
  | .octets _ => .error .notText
  | _ => .error .notPath

/-- A client path given as one or as text. With warnings on it is examined as a text first. -/
def clientPath (a : Adapter) : Value → Except Failure ClientPath
  | .client p => .ok p
  | .text t => .ok ⟨t⟩
  | v => if a.warnUnrestricted.isTrue then .error .notText else (textOf v).map ClientPath.mk

def hostPath : Value → Except Failure HostPath
  | .host p => .ok p
  | v => (textOf v).map HostPath.mk

/-- The trace of both texts that the library keeps for debugging is no part of the model. -/
def toHost (a : Adapter) (v : Value) (l : Logger) (w : World) :
    World × Logger × Except Failure HostPath :=
  match a.clientPath v with
  | .error cause => (w, l, .error cause)
  | .ok p =>
    if a.warnUnrestricted.isTrue && !p.isRestricted then
      match l.log .warning (.text unrestrictedWarning) [(.text "source", .text p.text)] w with
      | (w, l, some cause) => (w, l, .error (.log cause))
      | (w, l, none) => (w, l, .ok p.toHost)
    else (w, l, .ok p.toHost)

def toClient (v : Value) : Except Failure ClientPath := (hostPath v).map (·.toClient)

def nullTerminated (v : Value) (l : Logger) (w : World) :
    World × Logger × Except Failure (List UInt8) :=
  match hostPath v with
  | .error cause => (w, l, .error cause)
  | .ok p => match p.nullTerminated with
    | .ok octets => (w, l, .ok octets)
    | .error cause =>
      let context :=
        [(Value.text "target", .text p.lastSegment), (.text "nul_position", cause.position)]
      match l.log .error (.text nulReport) context w with
      | (w, l, some cause) => (w, l, .error (.log cause))
      | (w, l, none) => (w, l, .error (.embeddedNul cause))

def length (a : Adapter) (v : Value) : Except Failure Nat :=
  match v with
  | .client p => .ok (a.unit.count p.text)
  | .host p => .ok (a.unit.count p.text)
  | _ => .error .notPath

end Adapter

end DriveBridge
