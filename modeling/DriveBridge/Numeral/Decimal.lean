import DriveBridge.Numeral.Binary64
import DriveBridge.Numeral.Integer
import DriveBridge.Text.LowerCase

namespace DriveBridge.Binary64

/-- A decimal beyond every finite number or below the least one is known by its exponent alone. -/
def ofDecimal (negative : Bool) (digits : List Nat) (exponent : Int) : Binary64 :=
  let n := Integer.valueOf digits
  if n = 0 ∨ exponent + digits.length < -400 then ofRatio negative 0 1
  else if 400 < exponent then .infinite negative
  else ofRatio negative (n * Nat.pow 10 exponent.toNat) (Nat.pow 10 (-exponent).toNat)

def isExponentMark (c : CodePoint) : Bool := c == 0x65 || c == 0x45

def exponent? : Text → Option Int
  | [] => some 0
  | _ :: t => Integer.signed? (fun t => (Integer.digitRun? t).map Integer.valueOf) t

def side? (t : Text) : Option (List Nat) :=
  if t = [] then some [] else Integer.digitRun? t

def magnitude? (negative : Bool) (t : Text) : Option Binary64 := do
  let mantissa := t.takeWhile (!isExponentMark ·)
  let exponent ← exponent? (t.dropWhile (!isExponentMark ·))
  let whole ← side? (mantissa.takeWhile (· != CodePoint.dot))
  let fraction ← side? ((mantissa.dropWhile (· != CodePoint.dot)).drop 1)
  if whole ++ fraction = [] then none
  else some (ofDecimal negative (whole ++ fraction) (exponent - fraction.length))

def unsigned? (negative : Bool) (t : Text) : Option Binary64 :=
  let word := Text.lower t
  if word = "nan" then some .nan
  else if word = "inf" ∨ word = "infinity" then some (.infinite negative)
  else magnitude? negative t

def ofText? (t : Text) : Option Binary64 :=
  match Text.trimWhile Integer.isMargin t with
  | [] => none
  | c :: rest =>
    if c = 0x2D then unsigned? true rest
    else if c = 0x2B then unsigned? false rest
    else unsigned? false (c :: rest)

end DriveBridge.Binary64
