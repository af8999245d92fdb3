import DriveBridge.Value.Display

/-!
Values as JSON in printable ASCII, without white space. Code points above U+FFFF are written as a
pair of escapes, so a text with two adjacent surrogate halves is written like the character they
encode.
-/

namespace DriveBridge.JsonText

abbrev quote : CodePoint := 0x22

def unitEscape (u : UInt16) : Text := Text.ofString "\\u" ++ Hexadecimal.digits 4 u.toNat

def escape (c : CodePoint) : Text :=
  if c = quote ∨ c = CodePoint.backslash then [CodePoint.backslash, c]
  else if c = 0x08 then "\\b"
  else if c = 0x09 then "\\t"
  else if c = 0x0A then "\\n"
  else if c = 0x0C then "\\f"
  else if c = 0x0D then "\\r"
  else if 0x20 ≤ c.val ∧ c.val ≤ 0x7E then [c]
  else (Utf16.units c).flatMap unitEscape

def string (t : Text) : Text := quote :: t.flatMap escape ++ [quote]

def float : Binary64 → Text
  | .nan => "NaN"
  | .infinite false => "Infinity"
  | .infinite true => "-Infinity"
  | x => x.toText

def bool (b : Bool) : Text := if b then "true" else "false"

/-- The name of a member: scalars have one, other keys cannot be written. -/
def name? : Value → Option Text
  | .null => some "null"
  | .bool b => some (bool b)
  | .int n => some (Integer.toText n)
  | .float x => some (float x)
  | .text t => some t
  | _ => none

def enclose (opening closing : CodePoint) (parts : List Text) : Text :=
  opening :: List.intercalate [0x2C] parts ++ [closing]

mutual

def write? : Value → Option Text
  | .null => some "null"
  | .bool b => some (bool b)
  | .int n => some (Integer.toText n)
  | .float x => some (float x)
  | .text t => some (string t)
  | .list items => (writeItems? items).map (enclose 0x5B 0x5D)
  | .tuple items => (writeItems? items).map (enclose 0x5B 0x5D)
  | .table es => (writeMembers? es).map (enclose 0x7B 0x7D)
  | v => some (string v.display)

def writeItems? : List Value → Option (List Text)
  | [] => some []
  | v :: vs => do return (← write? v) :: (← writeItems? vs)

def writeMembers? : List (Value × Value) → Option (List Text)
  | [] => some []
  | (k, v) :: es => do
    let name ← name? k
    let value ← write? v
    return (string name ++ 0x3A :: value) :: (← writeMembers? es)

end

end DriveBridge.JsonText
