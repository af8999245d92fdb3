import DriveBridge.Disk.Basic

/-!
Changes to the names on a disk: making directories, opening files, removing and renaming. A change
that is refused leaves the disk as it was; only the directories made on the way to a path that is
refused later stay.
-/

namespace DriveBridge.Disk

def add (d : Disk) (place : Place) (node : Node) : Disk :=
  { d with nodes := (place, node) :: d.nodes }

def makeAlong : Disk → Place → List Text → Disk × Option Refusal
  | d, _, [] => (d, none)
  | d, here, name :: rest =>
    if Location.isIdle name then makeAlong d here rest
    else if name = upward then makeAlong d here.above rest
    else if isTooLong name then (d, some .nameTooLong)
    else
      let next := here ++ [SystemName.encode name]
      match d.at? next with
      | some .directory => makeAlong d next rest
      | some (.file _) => (d, some .notDirectory)
      | none => makeAlong (d.add next .directory) next rest

def makeDirectories (d : Disk) (p : Location) : Disk × Option Refusal :=
  match unusable? p.text with
  | some cause => (d, some cause)
  | none => makeAlong d [] p.names

/-- Makes a directory after those above it. A written path that cannot be used leaves those whose
paths can; a dot at its end asks for no more than the directory above, if that is new. -/
def makeWritten (d : Disk) (t : Text) : Disk × Option Refusal :=
  match unusable? t with
  | none => makeAlong d [] (Location.writtenNames t)
  | some cause =>
    if h : Location.above t = [] ∨ (d.findWritten? (Location.above t)).isSome then (d, some cause)
    else
      have := Location.length_above_lt t fun ht => h (.inl (by rw [ht]; rfl))
      match makeWritten d (Location.above t) with
      | (d, some other) => (d, some other)
      | (d, none) => (d, if Location.lastWritten t = [CodePoint.dot] then none else some cause)
termination_by t.length
decreasing_by exact this

def create (d : Disk) (place : Place) : Disk × FileId :=
  let id := d.contents.length
  ({ d.add place (.file id) with contents := d.contents ++ [[]] }, id)

def openFile (d : Disk) (p : Location) : Except Refusal (Disk × FileId) := do
  let place ← d.locate p
  match d.at? place with
  | some .directory => throw .isDirectory
  | some (.file id) => return (d, id)
  | none => return d.create place

def openAfter (p : Location) : (made : Disk × Option Refusal) → Disk × Except Refusal FileId
  | (d, some refusal) => (d, .error refusal)
  | (d, none) => match d.openFile p with
    | .ok (d, id) => (d, .ok id)
    | .error refusal => (d, .error refusal)

def openBelow (d : Disk) (p : Location) : Disk × Except Refusal FileId :=
  openAfter p (d.makeDirectories p.parent)

def openWritten (d : Disk) (t : Text) : Disk × Except Refusal FileId :=
  let directory := Location.directoryOf t
  openAfter (.ofText t) (if directory = [] then (d, none) else d.makeWritten directory)

def unlink (d : Disk) (t : Text) : Except Refusal Disk := do
  let place ← d.locateWritten t
  match d.at? place with
  | some (.file _) => return { d with nodes := d.nodes.filter (·.1 ≠ place) }
  | some .directory => throw .isDirectory
  | none => throw .missing

def rebase (source target place : Place) : Place :=
  if source.isPrefixOf place then target ++ place.drop source.length else place

def move (d : Disk) (source target : Place) : Disk :=
  let kept := d.nodes.filter fun (place, _) => !target.isPrefixOf place
  { d with nodes := kept.map fun (place, node) => (rebase source target place, node) }

def isVacant (d : Disk) (place : Place) : Bool :=
  d.nodes.all fun (other, _) => !(place.isPrefixOf other && other != place)

/-- A file takes the place of a file, and a directory that of an empty directory. -/
def rename (d : Disk) (old new : Location) : Except Refusal Disk := do
  let source ← d.locate old
  let target ← d.locate new
  match d.at? source, d.at? target with
  | none, _ => throw .missing
  | some (.file _), some .directory => throw .isDirectory
  | some .directory, some (.file _) => throw .notDirectory
  | some _, _ =>
    if source = target then return d
    else if source.isPrefixOf target then throw .withinItself
    else if d.isVacant target then return d.move source target
    else throw .notEmpty

end DriveBridge.Disk
