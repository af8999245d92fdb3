import DriveBridge.Text.Basic

namespace DriveBridge

namespace CodePoint

/-- The ten digits of a script are consecutive, so a table of the zeros is enough. -/
def zeros : List Nat := [
  0x30, 0x660, 0x6F0, 0x7C0, 0x966, 0x9E6, 0xA66, 0xAE6, 0xB66, 0xBE6, 0xC66, 0xCE6, 0xD66, 0xDE6,
  0xE50, 0xED0, 0xF20, 0x1040, 0x1090, 0x17E0, 0x1810, 0x1946, 0x19D0, 0x1A80, 0x1A90, 0x1B50,
  0x1BB0, 0x1C40, 0x1C50, 0xA620, 0xA8D0, 0xA900, 0xA9D0, 0xA9F0, 0xAA50, 0xABF0, 0xFF10, 0x104A0,
  0x10D30, 0x11066, 0x110F0, 0x11136, 0x111D0, 0x112F0, 0x11450, 0x114D0, 0x11650, 0x116C0,
  0x11730, 0x118E0, 0x11950, 0x11C50, 0x11D50, 0x11DA0, 0x16A60, 0x16AC0, 0x16B50, 0x1D7CE,
  0x1D7D8, 0x1D7E2, 0x1D7EC, 0x1D7F6, 0x1E140, 0x1E2F0, 0x1E950, 0x1FBF0]

def digit? (c : CodePoint) : Option Nat :=
  (zeros.find? fun start => start ≤ c.val && c.val < start + 10).map (c.val - ·)

end CodePoint

namespace Integer

def digits (n : Nat) : Text := (Nat.toDigits 10 n).map CodePoint.ofChar

def toText (n : Int) : Text :=
  if n < 0 then Text.ofString "-" ++ digits n.natAbs else digits n.natAbs

def maxDigits : Nat := 4300

/-- White space around a numeral: the four information separators are not part of it. -/
def isMargin (c : CodePoint) : Bool := c.isBlank && !(0x1C ≤ c.val && c.val ≤ 0x1F)

def valueOf (digits : List Nat) : Nat := digits.foldl (fun n d => 10 * n + d) 0

def digitRun? (t : Text) : Option (List Nat) :=
  let groups := Text.split (· = 0x5F) t
  if groups.any List.isEmpty then none else groups.flatten.mapM CodePoint.digit?

def signed? (magnitude? : Text → Option Nat) : Text → Option Int
  | [] => none
  | c :: rest =>
    if c = 0x2D then (magnitude? rest).map fun n => -(n : Int)
    else if c = 0x2B then (magnitude? rest).map (↑·)
    else (magnitude? (c :: rest)).map (↑·)

def magnitude? (t : Text) : Option Nat :=
  ((digitRun? t).filter (·.length ≤ maxDigits)).map valueOf

def ofText? (t : Text) : Option Int := signed? magnitude? (Text.trimWhile isMargin t)

end Integer

end DriveBridge
