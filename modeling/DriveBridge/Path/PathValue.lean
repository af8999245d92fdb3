import DriveBridge.Path.Location
import DriveBridge.Text.LowerCase

namespace DriveBridge

open CodePoint

/-- A path on a system with drives, where two paths are the same if they differ in letter case
only. -/
structure DriveLocation where
  drive : Text
  root : Text
  names : List Text

namespace DriveLocation

def start (p : DriveLocation) : Text := p.drive ++ p.root

def parts (p : DriveLocation) : List Text := if p.start = [] then p.names else p.start :: p.names

def text (p : DriveLocation) : Text :=
  match p.start ++ Text.join backslash p.names with
  | [] => [dot]
  | t => t

def same (p q : DriveLocation) : Bool := p.parts.map Text.lower == q.parts.map Text.lower

end DriveLocation

inductive PathValue
  | posix (p : Location)
  | drive (p : DriveLocation)

namespace PathValue

def kind : PathValue → Text
  | posix _ => "PurePosixPath"
  | drive _ => "PureWindowsPath"

def text : PathValue → Text
  | posix p => p.text
  | drive p => p.text

def slashed : PathValue → Text
  | posix p => p.text
  | drive p => Text.replace backslash slash p.text

def same : PathValue → PathValue → Bool
  | posix p, posix q => p == q
  | drive p, drive q => p.same q
  | _, _ => false

end PathValue

end DriveBridge
