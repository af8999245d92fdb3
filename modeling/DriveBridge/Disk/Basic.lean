import DriveBridge.Path.Location
import DriveBridge.Text.Utf8

/-!
A disk: directories and files by their place seen from the working directory, which stands for the
root as well. A name refers to a file by number, so a file keeps its content under another name,
and an open file can be written after its name is gone.
-/

namespace DriveBridge

abbrev Place := List (List UInt8)

namespace Place

def twoDots : List UInt8 := [0x2E, 0x2E]

/-- The working directory and the directories that it is in, which are always there. -/
def isEnclosing (place : Place) : Bool := place.all (· == twoDots)

theorem isEnclosing_append (a b : Place) :
    isEnclosing (a ++ b) = (a.isEnclosing && b.isEnclosing) := List.all_append

def above (place : Place) : Place :=
  if place.isEnclosing then place ++ [twoDots] else place.dropLast

def isWithin (place : Place) : Bool := place.head? != some twoDots

def text (place : Place) : Text := Text.join CodePoint.slash (place.map SystemName.decode)

end Place

abbrev FileId := Nat

inductive Node
  | directory
  | file (id : FileId)
  deriving DecidableEq

structure Disk where
  nodes : List (Place × Node)
  contents : List (List UInt8)

inductive Refusal
  | missing
  | isDirectory
  | notDirectory
  | notEmpty
  | withinItself
  | nameTooLong
  | nulInPath
  | unencodable (cause : Unencodable)
  deriving DecidableEq

namespace Disk

def empty : Disk := ⟨[], []⟩

def at? (d : Disk) (place : Place) : Option Node :=
  if place.isEnclosing then some .directory else d.nodes.lookup place

def content (d : Disk) (id : FileId) : List UInt8 := d.contents.getD id []

def append (d : Disk) (id : FileId) (octets : List UInt8) : Disk :=
  { d with contents := d.contents.modify id (· ++ octets) }

def overwrite (d : Disk) (id : FileId) (octets : List UInt8) : Disk :=
  { d with contents := d.contents.set id octets }

def maxName : Nat := 255

def maxPath : Nat := 4096

def isTooLong (name : Text) : Bool := maxName < (SystemName.encode name).length

abbrev upward : Text := [CodePoint.dot, CodePoint.dot]

/-- Follows names from a place. Every name but the last has to lead to a directory, and so has the
last one if it is idle. -/
def follow (d : Disk) : Place → List Text → Except Refusal Place
  | here, [] => .ok here
  | here, name :: rest =>
    match d.at? here with
    | none => .error .missing
    | some (.file _) => .error .notDirectory
    | some .directory =>
      if Location.isIdle name then follow d here rest
      else if name = upward then follow d here.above rest
      else if isTooLong name then .error .nameTooLong
      else follow d (here ++ [SystemName.encode name]) rest

def unusable? (t : Text) : Option Refusal :=
  match SystemName.unencodable? t with
  | some cause => some (.unencodable cause)
  | none =>
    if 0 ∈ t then some .nulInPath
    else if t = [] then some .missing
    else if maxPath ≤ (SystemName.encode t).length then some .nameTooLong
    else none

def walk (d : Disk) (t : Text) (names : List Text) : Except Refusal Place :=
  match unusable? t with
  | some cause => .error cause
  | none => d.follow [] names

def locate (d : Disk) (p : Location) : Except Refusal Place := d.walk p.text p.names

def locateWritten (d : Disk) (t : Text) : Except Refusal Place :=
  d.walk t (Location.writtenNames t)

/-- What a path denotes. Only a path that is too long for a question to be asked is an error. -/
def find (d : Disk) (p : Location) : Except Refusal (Option Node) :=
  match d.locate p with
  | .ok place => .ok (d.at? place)
  | .error .nameTooLong => .error .nameTooLong
  | .error _ => .ok none

def findWritten? (d : Disk) (t : Text) : Option Node :=
  match d.locateWritten t with
  | .ok place => d.at? place
  | .error _ => none

def directorySize : Nat := 4096

def size (d : Disk) : Node → Nat
  | .directory => directorySize
  | .file id => (d.content id).length

def listing (d : Disk) : List (Text × Option (List UInt8)) :=
  ((d.nodes.filter (·.1.isWithin)).map fun (place, node) => (place.text, match node with
    | .directory => none
    | .file id => some (d.content id))).mergeSort fun a b => a.1.isUpTo b.1

end Disk

end DriveBridge
