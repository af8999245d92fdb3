import DriveBridge.Disk.Change

/-!
What lies outside of the loggers: the clock, a source of identifiers, the console, streams in
memory that are known by name, and the disk. A stream is one that a caller made, and never the
console.
-/

namespace DriveBridge

structure World where
  /-- Quarters of a second since 1970. -/
  now : Int
  freshId : Text
  console : Text
  streams : List (Text × Text)
  disk : Disk

namespace World

def print (w : World) (t : Text) : World := { w with console := w.console ++ t }

def stream (w : World) (name : Text) : Text := (w.streams.lookup name).getD []

def appendTo (name t : Text) : List (Text × Text) → List (Text × Text)
  | [] => [(name, t)]
  | (other, u) :: rest =>
    if other = name then (other, u ++ t) :: rest else (other, u) :: appendTo name t rest

def feed (w : World) (name t : Text) : World := { w with streams := appendTo name t w.streams }

end World

end DriveBridge
