import DriveBridge.Value.Display

namespace DriveBridge

structure EmbeddedNul where
  text : Text
  position : Value

namespace EmbeddedNul

def index? (t : Text) : Option Nat := t.findIdx? (· = 0)

def report (t : Text) : (position : Value) → EmbeddedNul
  | .null => ⟨t, .int ((index? t).elim (-1) (↑·))⟩
  | position => ⟨t, position⟩

def message (e : EmbeddedNul) : Text :=
  Text.ofString "path contains an embedded NUL at index " ++ e.position.display

end EmbeddedNul

namespace HostPath

def nullTerminated (p : HostPath) : Except EmbeddedNul (List UInt8) :=
  match EmbeddedNul.index? p.text with
  | some i => .error ⟨p.text, .int i⟩
  | none => .ok (Utf8.encode p.text ++ [0])

end HostPath

end DriveBridge
