import DriveBridge.Text.Printable

namespace DriveBridge

namespace Hexadecimal

def digit (n : Nat) : CodePoint := CodePoint.ofChar (Nat.digitChar (n % 16))

def digits : (width : Nat) → (n : Nat) → Text
  | 0, _ => []
  | width + 1, n => digits width (n / 16) ++ [digit n]

end Hexadecimal

namespace Quoted

abbrev single : CodePoint := 0x27
abbrev double : CodePoint := 0x22

def quoteFor (t : Text) : CodePoint :=
  if single ∈ t ∧ double ∉ t then double else single

def escapeNumber (n : Nat) : Text :=
  if n < 0x100 then Text.ofString "\\x" ++ Hexadecimal.digits 2 n
  else if n < 0x10000 then Text.ofString "\\u" ++ Hexadecimal.digits 4 n
  else Text.ofString "\\U" ++ Hexadecimal.digits 8 n

def escape (quote c : CodePoint) : Text :=
  if c = CodePoint.backslash ∨ c = quote then [CodePoint.backslash, c]
  else if c = 0x09 then "\\t"
  else if c = 0x0A then "\\n"
  else if c = 0x0D then "\\r"
  else if c.isPrintable then [c]
  else escapeNumber c.val

def ofText (t : Text) : Text :=
  let quote := quoteFor t
  quote :: t.flatMap (escape quote) ++ [quote]

def escapeOctet (quote : CodePoint) (b : UInt8) : Text :=
  if b.toNat < 0x80 then escape quote (Fin.ofNat 0x110000 b.toNat) else escapeNumber b.toNat

def ofOctets (octets : List UInt8) : Text :=
  let quote := quoteFor (octets.map fun b => Fin.ofNat 0x110000 b.toNat)
  Text.ofString "b" ++ quote :: octets.flatMap (escapeOctet quote) ++ [quote]

end Quoted

end DriveBridge
