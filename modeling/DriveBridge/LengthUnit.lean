import DriveBridge.Text.LowerCase
import DriveBridge.Text.Utf8

namespace DriveBridge

namespace Utf16

def units (c : CodePoint) : List UInt16 :=
  let n := c.val
  if n < 0x10000 then [n.toUInt16]
  else [(0xD800 + (n - 0x10000) / 0x400).toUInt16, (0xDC00 + (n - 0x10000) % 0x400).toUInt16]

def encode (t : Text) : List UInt16 := t.flatMap units

def littleEndian (t : Text) : List UInt8 :=
  (encode t).flatMap fun u => [(u.toNat % 0x100).toUInt8, (u.toNat / 0x100).toUInt8]

end Utf16

inductive LengthUnit
  | utf8
  | utf16
  deriving DecidableEq

namespace LengthUnit

def name : LengthUnit → Text
  | utf8 => "UTF8"
  | utf16 => "UTF16"

def label : LengthUnit → Text
  | utf8 => "utf-8"
  | utf16 => "utf-16"

def labels : List Text := [label utf8, label utf16]

def spellings : List (Text × LengthUnit) :=
  [("utf-8", utf8), ("utf8", utf8), ("bytes", utf8),
    ("utf-16", utf16), ("utf16", utf16), ("utf-16-le", utf16)]

def ofText? (t : Text) : Option LengthUnit :=
  spellings.lookup (Text.replace 0x5F 0x2D (Text.lower (Text.trim t)))

def count (t : Text) : LengthUnit → Nat
  | utf8 => (Utf8.encode t).length
  | utf16 => (Utf16.encode t).length

end LengthUnit

end DriveBridge
