import DriveBridge.JsonText
import DriveBridge.Numeral.Decimal

/-!
A reader for JSON texts, after the grammar of RFC 8259. Escapes of the two halves of a surrogate
pair that follow each other are one code point. Members stay in the order of the text, and a
numeral without fraction and exponent is an integer.
-/

namespace DriveBridge

namespace CodePoint

def isHigh (c : CodePoint) : Bool := 0xD800 ≤ c.val && c.val ≤ 0xDBFF

def isLow (c : CodePoint) : Bool := 0xDC00 ≤ c.val && c.val ≤ 0xDFFF

end CodePoint

namespace JsonText

abbrev comma : CodePoint := 0x2C
abbrev colon : CodePoint := 0x3A

def isSpace (c : CodePoint) : Bool := c == 0x20 || c == 0x09 || c == 0x0A || c == 0x0D

def skip (t : Text) : Text := t.dropWhile isSpace

def pair (high low : CodePoint) : CodePoint :=
  Fin.ofNat 0x110000 (0x10000 + (high.val - 0xD800) * 0x400 + (low.val - 0xDC00))

def joinPairs : Text → Text
  | a :: b :: t =>
    if a.isHigh && b.isLow then pair a b :: joinPairs t else a :: joinPairs (b :: t)
  | t => t

def hexDigit? (c : CodePoint) : Option Nat :=
  if 0x30 ≤ c.val ∧ c.val ≤ 0x39 then some (c.val - 0x30)
  else if 0x41 ≤ c.val ∧ c.val ≤ 0x46 then some (c.val - 0x37)
  else if 0x61 ≤ c.val ∧ c.val ≤ 0x66 then some (c.val - 0x57)
  else none

def hexadecimal? (ds : Text) : Option Nat :=
  ds.foldlM (fun n d => (hexDigit? d).map (16 * n + ·)) 0

def named? (c : CodePoint) : Option CodePoint :=
  if c = quote ∨ c = CodePoint.backslash ∨ c = CodePoint.slash then some c
  else if c = 0x62 then some 0x08
  else if c = 0x66 then some 0x0C
  else if c = 0x6E then some 0x0A
  else if c = 0x72 then some 0x0D
  else if c = 0x74 then some 0x09
  else none

def prepend (s : Text) (read : Text × Text) : Text × Text := (s ++ read.1, read.2)

def content? : Text → Option (Text × Text)
  | [] => none
  | c :: t =>
    if c = quote then some ([], t)
    else if c = CodePoint.backslash then
      match t with
      | [] => none
      | e :: t =>
        if e = 0x75 then
          match t with
          | i :: j :: k :: l :: t => do
            let u ← hexadecimal? [i, j, k, l]
            (content? t).map (prepend [Fin.ofNat 0x110000 u])
          | _ => none
        else do
          let d ← named? e
          (content? t).map (prepend [d])
    else if c.val < 0x20 ∨ c.isSurrogate then none
    else (content? t).map (prepend [c])

def string? (t : Text) : Option (Text × Text) :=
  (content? t).map fun read => (joinPairs read.1, read.2)

def isDigit (c : CodePoint) : Bool := 0x30 ≤ c.val && c.val ≤ 0x39

def digitValues (ds : Text) : List Nat := ds.map (·.val - 0x30)

def digitRun (t : Text) : Text × Text := (t.takeWhile isDigit, t.dropWhile isDigit)

def sign (t : Text) : Bool × Text :=
  match t with
  | c :: rest => if c = 0x2D then (true, rest) else (false, c :: rest)
  | [] => (false, [])

def whole? (t : Text) : Option (Text × Text) :=
  let (ds, rest) := digitRun t
  if ds = [] ∨ ds.head? = some 0x30 ∧ ds.length ≠ 1 then none else some (ds, rest)

def fraction? : Text → Option (Text × Text)
  | [] => some ([], [])
  | c :: t =>
    if c = CodePoint.dot then
      let (ds, rest) := digitRun t
      if ds = [] then none else some (ds, rest)
    else some ([], c :: t)

def power? : Text → Option (Option Int × Text)
  | [] => some (none, [])
  | c :: t =>
    if c = 0x65 ∨ c = 0x45 then
      let (negative, unsigned) := if t.head? = some 0x2B then (false, t.drop 1) else sign t
      let (ds, rest) := digitRun unsigned
      if ds = [] then none
      else
        let n : Int := Integer.valueOf (digitValues ds)
        some (some (if negative then -n else n), rest)
    else some (none, c :: t)

def number (negative : Bool) (whole fraction : Text) (power : Option Int) : Value :=
  if fraction = [] ∧ power = none then
    let n : Int := Integer.valueOf (digitValues whole)
    .int (if negative then -n else n)
  else
    .float (.ofDecimal negative (digitValues (whole ++ fraction))
      (power.getD 0 - fraction.length))

def number? (t : Text) : Option (Value × Text) := do
  let (negative, t) := sign t
  let (whole, t) ← whole? t
  let (fraction, t) ← fraction? t
  let (power, t) ← power? t
  return (number negative whole fraction power, t)

def word? (word : Text) (v : Value) (t : Text) : Option (Value × Text) :=
  if word.isPrefixOf t then some (v, t.drop word.length) else none

section

variable {α : Type} (item? : Text → Option (α × Text)) (closing : CodePoint)

def items? : (bound : Nat) → Text → Option (List α × Text)
  | 0, _ => none
  | bound + 1, t => do
    let (x, t) ← item? (skip t)
    match skip t with
    | [] => none
    | c :: t =>
      if c = closing then some ([x], t)
      else if c = comma then do
        let (xs, t) ← items? bound t
        return (x :: xs, t)
      else none

def sequence? (t : Text) : Option (List α × Text) :=
  match skip t with
  | [] => none
  | c :: rest => if c = closing then some ([], rest) else items? item? closing t.length t

end

def member? (value? : Text → Option (Value × Text)) : Text → Option ((Value × Value) × Text)
  | [] => none
  | c :: t =>
    if c = quote then do
      let (name, t) ← string? t
      match skip t with
      | [] => none
      | c :: t =>
        if c = colon then do
          let (v, t) ← value? (skip t)
          return ((.text name, v), t)
        else none
    else none

def value? : (depth : Nat) → Text → Option (Value × Text)
  | 0, _ => none
  | _ + 1, [] => none
  | depth + 1, c :: t =>
    if c = quote then (string? t).map fun (s, rest) => (.text s, rest)
    else if c = 0x5B then
      (sequence? (value? depth) 0x5D t).map fun (items, rest) => (.list items, rest)
    else if c = 0x7B then
      (sequence? (member? (value? depth)) 0x7D t).map fun (es, rest) => (.table es, rest)
    else
      word? "null" .null (c :: t) <|> word? "true" (.bool true) (c :: t) <|>
        word? "false" (.bool false) (c :: t) <|> number? (c :: t)

/-- The value of a whole text. A text has no more brackets than code points. -/
def read? (t : Text) : Option Value := do
  let (v, rest) ← value? t.length (skip t)
  if skip rest = [] then some v else none

end JsonText

end DriveBridge
