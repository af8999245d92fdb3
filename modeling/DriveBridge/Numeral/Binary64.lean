/-!
Floating-point numbers with a significand of 53 bits. The finite magnitudes are numbered upwards
from zero, so that every rank has one number and neighbours have neighbouring ranks.
-/

namespace DriveBridge

inductive Binary64
  | nan
  | infinite (negative : Bool)
  | finite (negative : Bool) (rank : Fin (2047 * Nat.pow 2 52))
  deriving DecidableEq

namespace Binary64

abbrev binade : Nat := Nat.pow 2 52

/-- The finite magnitude of rank `rank` is `significand rank * 2 ^ exponent rank`. -/
def significand (rank : Nat) : Nat := if rank < binade then rank else binade + rank % binade

def exponent (rank : Nat) : Int := max (rank / binade) 1 - 1075

def divRound (num den : Nat) : Nat :=
  let q := num / den
  let r := num % den
  if 2 * r < den ∨ (2 * r = den ∧ q % 2 = 0) then q else q + 1

def spacing (num den : Nat) : Nat :=
  let guess := ((num.log2 : Int) - den.log2 + 1022).toNat
  if num * Nat.pow 2 1074 / (den * Nat.pow 2 guess) < binade then guess - 1 else guess

def ofRatio (negative : Bool) (num den : Nat) : Binary64 :=
  let k := spacing num den
  let rank := if num = 0 then 0
    else k * binade + divRound (num * Nat.pow 2 1074) (den * Nat.pow 2 k)
  if h : rank < 2047 * Nat.pow 2 52 then .finite negative ⟨rank, h⟩ else .infinite negative

def ofFraction (num : Int) (den : Nat) : Binary64 := ofRatio (num < 0) num.natAbs den

def ofQuarters (n : Int) : Binary64 := ofFraction n 4

def magnitude (rank : Nat) : Nat := significand rank * Nat.pow 2 (exponent rank).toNat

def numerator (negative : Bool) (rank : Nat) : Int :=
  if negative then -magnitude rank else magnitude rank

def denominator (rank : Nat) : Nat := Nat.pow 2 (-exponent rank).toNat

def sub : Binary64 → Binary64 → Binary64
  | .finite a r, .finite b s =>
    ofFraction (numerator a r * denominator s - numerator b s * denominator r)
      (denominator r * denominator s)
  | .infinite a, .infinite b => if a = b then .nan else .infinite a
  | .infinite a, .finite _ _ => .infinite a
  | .finite _ _, .infinite b => .infinite (!b)
  | _, _ => .nan

def scale (k : Nat) : Binary64 → Binary64
  | .finite negative rank => ofRatio negative (magnitude rank * Nat.pow 2 k) (denominator rank)
  | x => x

def isZero : Binary64 → Bool
  | .finite _ rank => rank.val = 0
  | _ => false

def bounds (n : Int) : Binary64 → Bool
  | .finite negative rank => n * denominator rank ≤ numerator negative rank
  | .infinite negative => !negative
  | .nan => false

def same : Binary64 → Binary64 → Bool
  | .infinite a, .infinite b => a = b
  | .finite a r, .finite b s => r = s && (a = b || r.val = 0)
  | _, _ => false

def isInteger (n : Int) : Binary64 → Bool
  | .finite negative rank => numerator negative rank = n * denominator rank
  | _ => false

end Binary64

end DriveBridge
