import DriveBridge.Numeral.Binary64
import DriveBridge.Numeral.Integer

/-!
The shortest decimal that reads back as a given binary64 number, and of those the nearest to it.
All arithmetic is exact: a point `d * 10 ^ p` of a decimal grid is compared with the bounds of the
reals that round to the number.
-/

namespace DriveBridge.Binary64

/-- The reals that round to a number, in quarters of its spacing: from `low` to `high`, ends
included if `closed`. -/
structure Basin where
  low : Nat
  middle : Nat
  high : Nat
  closed : Bool

def basin (rank : Nat) : Basin :=
  let m := significand rank
  let below := if m = binade ∧ binade < rank then 1 else 2
  ⟨4 * m - below, 4 * m, 4 * m + 2, m % 2 = 0⟩

/-- A quarter of the spacing `2 ^ e` is `up e p / down e p` steps of the grid `10 ^ p`. -/
def up (e p : Int) : Nat := Nat.pow 2 (e - 2).toNat * Nat.pow 10 (-p).toNat
def down (e p : Int) : Nat := Nat.pow 2 (2 - e).toNat * Nat.pow 10 p.toNat

def Basin.holds (b : Basin) (up down d : Nat) : Bool :=
  if b.closed then b.low * up ≤ d * down && d * down ≤ b.high * up
  else b.low * up < d * down && d * down < b.high * up

/-- The point of the grid that lies in the basin, if one does: the nearer of the two neighbours of
the number, and the even one when they are equally near. -/
def gridPoint? (rank : Nat) (p : Int) : Option Nat :=
  let b := basin rank
  let u := up (exponent rank) p
  let v := down (exponent rank) p
  let d := b.middle * u / v
  match b.holds u v d, b.holds u v (d + 1) with
  | true, true =>
    let twice := 2 * (b.middle * u)
    if twice < (2 * d + 1) * v ∨ (twice = (2 * d + 1) * v ∧ d % 2 = 0) then some d else some (d + 1)
  | true, false => some d
  | false, true => some (d + 1)
  | false, false => none

def descend (rank : Nat) : (grids : Nat) → (p : Int) → Nat × Int
  | 0, p => (0, p)
  | grids + 1, p =>
    match gridPoint? rank p with
    | some d => (d, p)
    | none => descend rank grids (p - 1)

/-- Digits and exponent of the shortest decimal. Seventeen digits always suffice; the first grid
is at most two powers of ten above the number. -/
def shortest (rank : Nat) : Nat × Int :=
  let bits : Int := exponent rank + (significand rank).log2 + 1
  descend rank 20 (bits * 30103 / 100000 + 1)

def layout (d : Nat) (p : Int) : Text :=
  let ds := Integer.digits d
  let places : Int := p + ds.length
  if 16 < places ∨ places < -3 then
    let e := places - 1
    let mark : Text := if e < 0 then "e-" else "e+"
    let power := Integer.digits e.natAbs
    let point : Text := if ds.length = 1 then [] else "."
    ds.take 1 ++ point ++ ds.drop 1 ++ mark ++
      (if power.length = 1 then Text.ofString "0" else []) ++ power
  else if places ≤ 0 then
    Text.ofString "0." ++ List.replicate (-places).toNat (CodePoint.ofChar '0') ++ ds
  else if 0 ≤ p then
    ds ++ List.replicate p.toNat (CodePoint.ofChar '0') ++ Text.ofString ".0"
  else ds.take places.toNat ++ Text.ofString "." ++ ds.drop places.toNat

def toText : Binary64 → Text
  | .nan => "nan"
  | .infinite false => "inf"
  | .infinite true => "-inf"
  | .finite negative rank =>
    let magnitude : Text :=
      if rank.val = 0 then "0.0" else layout (shortest rank).1 (shortest rank).2
    if negative then Text.ofString "-" ++ magnitude else magnitude

end DriveBridge.Binary64
