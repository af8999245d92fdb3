import DriveBridge.Text.Basic

/-!
The two forms of a redirected path. The client sends DOS paths, either absolute from the root of
its drive or relative; the host has paths relative to the shared root, with forward slashes.
Conversion is literal in both directions: every separator is replaced, and only the single
separator at the front comes and goes.
-/

namespace DriveBridge

open CodePoint

structure ClientPath where
  text : Text
  deriving DecidableEq

structure HostPath where
  text : Text
  deriving DecidableEq

namespace ClientPath

def dropRoot : Text → Text
  | [] => []
  | c :: rest => if c = slash then rest else c :: rest

def toHost (p : ClientPath) : HostPath := ⟨dropRoot (Text.replace backslash slash p.text)⟩

def isRestricted (p : ClientPath) : Bool :=
  match p.text with
  | a :: b :: _ => !(a.isAsciiLetter && b == 0x3A) && !(a.isSeparator && b.isSeparator)
  | _ => true

end ClientPath

namespace HostPath

def toClient (p : HostPath) : ClientPath := ⟨backslash :: Text.replace slash backslash p.text⟩

def segments (p : HostPath) : List Text := Text.split (· = slash) p.text

def lastSegment (p : HostPath) : Text := p.segments.getLastD []

end HostPath

end DriveBridge
