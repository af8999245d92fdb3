import DriveBridge.Disk.Change
import DriveBridge.Numeral.Integer
import DriveBridge.Value.Basic

/-!
Rotation of a log file. The rotated files carry a number before their suffix and move up by one,
the highest first; then the log file itself becomes number one. The first refusal ends the
rotation where it stands.
-/

namespace DriveBridge.Rotation

def numbered (p : Location) (i : Nat) : Location :=
  p.insertBeforeSuffix (CodePoint.dot :: Integer.digits i)

def shift (p : Location) : (i : Nat) → Disk → Disk × Option Refusal
  | 0, d => (d, none)
  | i + 1, d =>
    match d.find (numbered p (i + 1)) with
    | .error cause => (d, some cause)
    | .ok none => shift p i d
    | .ok (some _) => match d.rename (numbered p (i + 1)) (numbered p (i + 2)) with
      | .error cause => (d, some cause)
      | .ok moved => shift p i moved

/-- Rotates so that `keep` rotated files are left, and at least one. -/
def rotate (p : Location) (keep : Int) (d : Disk) : Disk × Option Refusal :=
  match shift p (keep - 1).toNat d with
  | (d, some cause) => (d, some cause)
  | (d, none) => match d.rename p (numbered p 1) with
    | .error cause => (d, some cause)
    | .ok moved => (moved, none)

/-- Whether a file has grown beyond its limit. A limit that means no is never passed, and one that
is no number cannot be compared. -/
def isDue? (p : Location) (limit : Value) (d : Disk) : Option Bool :=
  if limit.isTrue then
    match d.find p with
    | .ok (some node) => (limit.bounds? (d.size node)).map (!·)
    | _ => some false
  else some false

end DriveBridge.Rotation
