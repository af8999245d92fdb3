import DriveBridge.LengthUnit
import DriveBridge.Numeral.Binary64
import DriveBridge.Path.Basic
import DriveBridge.Path.PathValue

namespace DriveBridge

inductive Value
  | null
  | bool (b : Bool)
  | int (n : Int)
  | float (x : Binary64)
  | text (t : Text)
  | octets (bs : List UInt8)
  | list (items : List Value)
  | tuple (items : List Value)
  | table (entries : List (Value × Value))
  | location (p : PathValue)
  | client (p : ClientPath)
  | host (p : HostPath)
  | unit (u : LengthUnit)

inductive UnitError
  | notText (kind : Text)
  | unknown (spelling : Text)

namespace UnitError

def message : UnitError → Text
  | notText kind => Text.ofString "length unit must be a string, got " ++ kind
  | unknown spelling => Text.ofString "unknown length unit: " ++ Quoted.ofText spelling

end UnitError

namespace Value

def kind : Value → Text
  | null => "NoneType"
  | bool _ => "bool"
  | int _ => "int"
  | float _ => "float"
  | text _ => "str"
  | octets _ => "bytes"
  | list _ => "list"
  | tuple _ => "tuple"
  | table _ => "dict"
  | location p => p.kind
  | client _ => "SourcePath"
  | host _ => "TargetPath"
  | unit _ => "LengthUnit"

def integer? : Value → Option Int
  | bool b => some (if b then 1 else 0)
  | int n => some n
  | _ => none

def isTrue : Value → Bool
  | null => false
  | bool b => b
  | int n => n ≠ 0
  | float x => !x.isZero
  | text t => t ≠ []
  | octets bs => bs ≠ []
  | list items => !items.isEmpty
  | tuple items => !items.isEmpty
  | table es => !es.isEmpty
  | _ => true

def bounds? (n : Int) : Value → Option Bool
  | float x => some (x.bounds n)
  | v => v.integer?.map fun m => decide (n ≤ m)

def repeated (n : Nat) (items : List α) : List α := (List.replicate n items).flatten

def scale? (k : Nat) : Value → Option Value
  | float x => some (float (x.scale k))
  | text t => some (text (repeated (Nat.pow 2 k) t))
  | octets bs => some (octets (repeated (Nat.pow 2 k) bs))
  | list items => some (list (repeated (Nat.pow 2 k) items))
  | tuple items => some (tuple (repeated (Nat.pow 2 k) items))
  | v => v.integer?.map fun m => int (m * Nat.pow 2 k)

def toUnit : Value → Except UnitError LengthUnit
  | unit u => .ok u
  | text t => match LengthUnit.ofText? t with
    | some u => .ok u
    | none => .error (.unknown t)
  | v => .error (.notText v.kind)

def countIn (v : Value) (t : Text) : Except UnitError Nat :=
  v.toUnit.map (·.count t)

end Value

end DriveBridge
